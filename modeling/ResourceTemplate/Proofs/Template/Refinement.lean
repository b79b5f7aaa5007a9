import ResourceTemplate.Proofs.Schema.Refinement
import ResourceTemplate.Template.Read

/-!
# Templates in documents that are read alike

A template that is read from a document is also read from every document that the first refines to.
Where records may be written as lists, this asks that none of them is.
-/

namespace ResourceTemplate

open Document Node

variable {Place Place' α : Type}

/-! ## Records -/

/-- Whether a document is a sequence. -/
def Document.Node.isSequence : Node Place → Bool
  | sequence _ _ _ => true
  | _ => false

namespace Document.RecordReader

/-- Two readers set the fields of a record alike. -/
def Agree (reader : RecordReader Place α) (other : RecordReader Place' α) : Prop :=
  reader.fields = other.fields ∧
    ∀ {node : Node Place} {node' : Node Place'} {draft next : α} {name : String},
      node.Refines node' → reader.set draft name node = .ok next →
        other.set draft name node' = .ok next

theorem readEntries_of_refines {reader : RecordReader Place α} {other : RecordReader Place' α}
    (hagree : reader.Agree other) {entries : List (Node Place × Node Place)}
    {others : List (Node Place' × Node Place')} (h : RefinesEntries entries others)
    {whole : Node Place} {whole' : Node Place'} {seen : List String} {draft : α}
    {done : α × List String} (hread : reader.readEntries whole seen draft entries = .ok done) :
    other.readEntries whole' seen draft others = .ok done := by
  induction entries generalizing others seen draft with
  | nil =>
      cases others with
      | nil => simpa only [readEntries, Except.ok.injEq] using hread
      | cons entry rest => exact absurd h (by simp [RefinesEntries])
  | cons entry rest ih =>
      obtain ⟨key, node⟩ := entry
      cases others with
      | nil => exact absurd h (by simp [RefinesEntries])
      | cons entry' others =>
          obtain ⟨key', node'⟩ := entry'
          obtain ⟨hkey, hnode, hrest⟩ := h
          obtain ⟨hfields, hset⟩ := hagree
          simp only [readEntries] at hread ⊢
          cases htext : key.text fieldName with
          | error v => simp [htext] at hread
          | ok name =>
              simp only [htext] at hread
              simp only [text_of_refines hkey htext, ← hfields]
              split
              next hunknown =>
                rw [if_pos hunknown] at hread
                exact ih hrest hread
              next hknown =>
                rw [if_neg hknown] at hread
                split
                next hseen =>
                  rw [if_pos hseen] at hread
                  exact absurd hread (by simp)
                next hnew =>
                  rw [if_neg hnew] at hread
                  cases hnext : reader.set draft name node with
                  | error v => simp [hnext] at hread
                  | ok next =>
                      simp only [hnext] at hread
                      simp only [hset hnode hnext]
                      exact ih hrest hread

theorem read_of_refines {reader : RecordReader Place α} {other : RecordReader Place' α}
    (hagree : reader.Agree other) {node : Node Place} {node' : Node Place'} (h : node.Refines node')
    {draft : α} {done : α × List String} (hread : reader.read false draft node = .ok done) :
    other.read false draft node' = .ok done := by
  simp only [read] at hread ⊢
  cases hentries : node.entries reader.name with
  | error v => simp [hentries] at hread
  | ok found =>
      obtain ⟨found', hfound, hrefines⟩ :
          ∃ found', node'.entries other.name = .ok found' ∧ RefinesEntries found found' :=
        entries_of_refines h hentries
      simp only [hentries] at hread
      simp only [hfound]
      exact readEntries_of_refines hagree hrefines hread

/-- Readers that set the fields of all entries alike read the same from them. -/
theorem readEntries_congr {reader other : RecordReader Place α} (hfields : reader.fields = other.fields)
    {whole : Node Place} {seen : List String} {draft : α} {entries : List (Node Place × Node Place)}
    (hset : ∀ entry ∈ entries, ∀ name, entry.1.text fieldName = .ok name →
      ∀ draft, reader.set draft name entry.2 = other.set draft name entry.2) :
    reader.readEntries whole seen draft entries = other.readEntries whole seen draft entries := by
  induction entries generalizing seen draft with
  | nil => rfl
  | cons entry rest ih =>
      have hrest : ∀ seen draft, reader.readEntries whole seen draft rest =
          other.readEntries whole seen draft rest :=
        fun seen draft => ih fun entry hentry => hset entry (List.mem_cons_of_mem _ hentry)
      simp only [readEntries]
      cases htext : entry.1.text fieldName with
      | error v => rfl
      | ok name => simp only [hfields, hset entry List.mem_cons_self name htext, hrest]

/-- Whether a record may be written as a list does not matter to one that is not. -/
theorem read_of_isSequence_eq_false (reader : RecordReader Place α) {node : Node Place}
    (h : node.isSequence = false) {draft : α} :
    reader.read true draft node = reader.read false draft node := by
  cases node with
  | sequence place loose items => simp [isSequence] at h
  | scalar place s => rfl
  | mapping place loose entries => rfl
  | unreadable place => rfl

theorem surplus?_of_isSequence_eq_false (fields : List String) {node : Node Place}
    (h : node.isSequence = false) : surplus? fields true node = none := by
  cases node with
  | sequence place loose items => simp [isSequence] at h
  | scalar place s => rfl
  | mapping place loose entries => rfl
  | unreadable place => rfl

end Document.RecordReader

/-! ## Parameters -/

namespace Parameter

theorem reader_agree :
    (reader : RecordReader Place Parameter).Agree (reader : RecordReader Place' Parameter) := by
  refine ⟨rfl, ?_⟩
  intro node node' draft next name h hset
  simp only [reader, setField] at hset ⊢
  split at hset
  case h_1 =>
    obtain ⟨x, htext, rfl⟩ := exists_of_map_eq_ok hset
    simp only [text_of_refines h htext, Except.map]
  case h_7 =>
    obtain ⟨b, hflag, rfl⟩ := exists_of_map_eq_ok hset
    simp only [flag_of_refines h hflag, Except.map]
  case h_8 => simpa only [Except.ok.injEq] using hset
  all_goals
    obtain ⟨x?, htext, rfl⟩ := exists_of_map_eq_ok hset
    simp only [optionalText_of_refines h htext, Except.map]

theorem read_of_refines {node : Node Place} {other : Node Place'} (h : node.Refines other)
    {p : Parameter} (hread : read false node = .ok p) : read false other = .ok p := by
  simp only [read] at hread ⊢
  cases hdone : (reader : RecordReader Place Parameter).read false (named "") node with
  | error v => simp [hdone] at hread
  | ok done =>
      simp only [hdone] at hread
      simp only [RecordReader.read_of_refines reader_agree h hdone]
      split at hread
      next => exact absurd hread (by simp)
      next hnamed =>
        rw [if_neg hnamed]
        simpa only [RecordReader.surplus?, Except.ok.injEq] using hread

theorem read_of_isSequence_eq_false {node : Node Place} (h : node.isSequence = false) :
    read true node = read false node := by
  have hnameless : nameless true node = nameless false node := by
    cases node with
    | sequence place loose items => simp [isSequence] at h
    | scalar place s => rfl
    | mapping place loose entries => rfl
    | unreadable place => rfl
  simp only [read, RecordReader.read_of_isSequence_eq_false _ h, hnameless,
    RecordReader.surplus?_of_isSequence_eq_false _ h]
  rfl

end Parameter

/-! ## Templates -/

namespace Template

theorem readParameters_of_refines {nodes : List (Node Place)} {others : List (Node Place')}
    (h : RefinesItems nodes others) {index : Nat} {parameters : List Parameter}
    (hread : readParameters false index nodes = .ok parameters) :
    readParameters false index others = .ok parameters := by
  induction nodes generalizing others index parameters with
  | nil =>
      cases others with
      | nil => simpa only [readParameters, Except.ok.injEq] using hread
      | cons other others => exact absurd h (by simp [RefinesItems])
  | cons node rest ih =>
      cases others with
      | nil => exact absurd h (by simp [RefinesItems])
      | cons other others =>
          obtain ⟨hnode, hrest⟩ := h
          simp only [readParameters] at hread ⊢
          cases hparameter : Parameter.read false node with
          | error v => simp [hparameter] at hread
          | ok p =>
              simp only [hparameter] at hread
              obtain ⟨ps, hparameters, rfl⟩ := exists_of_map_eq_ok hread
              simp only [Parameter.read_of_refines hnode hparameter, ih hrest hparameters, Except.map]

theorem readLabels_of_refines {entries : List (Node Place × Node Place)}
    {others : List (Node Place' × Node Place')} (h : RefinesEntries entries others)
    {before labels : Dict String} (hread : readLabels before entries = .ok labels) :
    readLabels before others = .ok labels := by
  induction entries generalizing others before with
  | nil =>
      cases others with
      | nil => simpa only [readLabels, Except.ok.injEq] using hread
      | cons other others => exact absurd h (by simp [RefinesEntries])
  | cons entry rest ih =>
      cases others with
      | nil => exact absurd h (by simp [RefinesEntries])
      | cons other others =>
          obtain ⟨hkey, hnode, hrest⟩ := h
          simp only [readLabels] at hread ⊢
          cases hname : entry.1.text Parameter.wantedText with
          | error v => simp [hname] at hread
          | ok name =>
              cases hvalue : entry.2.text Parameter.wantedText with
              | error v => simp [hname, hvalue] at hread
              | ok value =>
                  simp only [hname, hvalue] at hread
                  simp only [text_of_refines hkey hname, text_of_refines hnode hvalue]
                  exact ih hrest hread

theorem readMetadata_of_refines {node : Node Place} {other : Node Place'} (h : node.Refines other)
    {metadata : Metadata} (hread : Resource.readMetadata node = .ok metadata) :
    Resource.readMetadata other = .ok metadata := by
  unfold Resource.readMetadata at hread ⊢
  cases hvalue : Schema.read (.record "ObjectMeta") node with
  | error v => simp [hvalue] at hread
  | ok value =>
      rw [Schema.read_of_refines h hvalue]
      simpa only [hvalue, Except.ok.injEq] using hread

theorem reader_agree : (reader false : RecordReader Place Template).Agree
    (reader false : RecordReader Place' Template) := by
  refine ⟨rfl, ?_⟩
  intro node node' draft next name h hset
  simp only [reader, setField] at hset ⊢
  split at hset
  case h_1 | h_2 =>
    obtain ⟨x, htext, rfl⟩ := exists_of_map_eq_ok hset
    simp only [text_of_refines h htext, Except.map]
  case h_3 =>
    obtain ⟨metadata, hmetadata, rfl⟩ := exists_of_map_eq_ok hset
    simp only [readMetadata_of_refines h hmetadata, Except.map]
  case h_4 =>
    obtain ⟨x?, htext, rfl⟩ := exists_of_map_eq_ok hset
    simp only [optionalText_of_refines h htext, Except.map]
  case h_5 =>
    obtain ⟨nodes, hnodes, hrest⟩ := exists_of_bind_eq_ok hset
    obtain ⟨objects, hobjects, hdone⟩ := exists_of_bind_eq_ok hrest
    obtain ⟨nodes', hnodes', hrefines⟩ := items_of_refines h hnodes
    obtain rfl := Except.ok.inj hdone
    rw [hnodes']
    simp only [values_of_refines hrefines hobjects, bind, Except.bind, pure, Except.pure]
  case h_6 =>
    obtain ⟨nodes, hnodes, hrest⟩ := exists_of_bind_eq_ok hset
    obtain ⟨parameters, hparameters, hdone⟩ := exists_of_bind_eq_ok hrest
    obtain ⟨nodes', hnodes', hrefines⟩ := items_of_refines h hnodes
    obtain rfl := Except.ok.inj hdone
    rw [hnodes']
    simp only [readParameters_of_refines hrefines hparameters, bind, Except.bind, pure, Except.pure]
  case h_7 =>
    obtain ⟨entries, hentries, hrest⟩ := exists_of_bind_eq_ok hset
    obtain ⟨labels, hlabels, hdone⟩ := exists_of_bind_eq_ok hrest
    obtain ⟨entries', hentries', hrefines⟩ :
        ∃ entries', node'.entries "a map" = .ok entries' ∧ RefinesEntries entries entries' :=
      entries_of_refines h hentries
    obtain rfl := Except.ok.inj hdone
    rw [hentries']
    simp only [readLabels_of_refines hrefines hlabels, bind, Except.bind, pure, Except.pure]
  case h_8 => simpa only [Except.ok.injEq] using hset

/-- No parameter of a template is written as a list, and the template is not. -/
def RecordsNamed (node : Node Place) : Prop :=
  node.isSequence = false ∧
    ∀ entries, node.entries "struct Template" = .ok entries → ∀ entry ∈ entries,
      entry.1.text fieldName = .ok "parameters" → ∀ parameters,
        entry.2.items "a sequence" = .ok parameters → ∀ p ∈ parameters, p.isSequence = false

theorem readParameters_of_isSequence_eq_false {nodes : List (Node Place)}
    (h : ∀ node ∈ nodes, node.isSequence = false) (index : Nat) :
    readParameters true index nodes = readParameters false index nodes := by
  induction nodes generalizing index with
  | nil => rfl
  | cons node rest ih =>
      have hrest := ih (fun node hnode => h node (List.mem_cons_of_mem _ hnode)) (index + 1)
      simp only [readParameters, Parameter.read_of_isSequence_eq_false (h node List.mem_cons_self),
        hrest]

/-- Only in the parameters does it show whether records may be written as lists. -/
theorem setField_of_ne {t : Template} {field : String} (h : field ≠ "parameters")
    (node : Node Place) : setField true t field node = setField false t field node := by
  unfold setField
  split
  case h_6 => exact absurd rfl h
  all_goals rfl

theorem setField_parameters {t : Template} {node : Node Place}
    (h : ∀ parameters, node.items "a sequence" = .ok parameters →
      ∀ p ∈ parameters, p.isSequence = false) :
    setField true t "parameters" node = setField false t "parameters" node := by
  simp only [setField]
  cases hitems : node.items "a sequence" with
  | error v => rfl
  | ok parameters =>
      have hsame := readParameters_of_isSequence_eq_false (h parameters hitems) 0
      simp only [bind, Except.bind, hsame]

/-- Whether records may be written as lists does not matter when none is. -/
theorem read_of_recordsNamed {node : Node Place} (h : RecordsNamed node) :
    read true node = read false node := by
  obtain ⟨hroot, hparameters⟩ := h
  have hentries : ∀ entries, node.entries "struct Template" = .ok entries →
      (reader true).readEntries node [] .empty entries =
        (reader false).readEntries node [] .empty entries := by
    intro entries hentries
    have hset : ∀ entry ∈ entries, ∀ name, entry.1.text fieldName = .ok name → ∀ draft,
        (reader true).set draft name entry.2 = (reader false).set draft name entry.2 := by
      intro entry hentry name hname draft
      by_cases hfield : name = "parameters"
      · subst hfield
        exact setField_parameters (hparameters entries hentries entry hentry hname)
      · exact setField_of_ne hfield entry.2
    have hfields : (reader true : RecordReader Place Template).fields =
        (reader false : RecordReader Place Template).fields := rfl
    exact RecordReader.readEntries_congr hfields hset
  have hread : (reader true).read true .empty node = (reader false).read false .empty node := by
    rw [RecordReader.read_of_isSequence_eq_false _ hroot]
    simp only [RecordReader.read]
    cases hfound : node.entries "struct Template" with
    | error v => simp only [reader, hfound]
    | ok entries =>
        have hsame := hentries entries hfound
        simp only [reader, hfound] at hsame ⊢
        exact hsame
  simp only [read, hread, RecordReader.surplus?_of_isSequence_eq_false _ hroot]
  rfl

/-- A template that is read from a document is read from every document that it refines to. -/
theorem read_of_refines {node : Node Place} {other : Node Place'} (h : node.Refines other)
    {t : Template} (hread : read false node = .ok t) : read false other = .ok t := by
  simp only [read] at hread ⊢
  cases hdone : (reader false : RecordReader Place Template).read false .empty node with
  | error v => simp [hdone] at hread
  | ok done =>
      simp only [hdone] at hread
      simp only [RecordReader.read_of_refines reader_agree h hdone]
      simpa only [RecordReader.surplus?, Except.ok.injEq] using hread

end Template

end ResourceTemplate
