import ResourceTemplate.Proofs.Document.Record
import ResourceTemplate.Template.Read
import ResourceTemplate.Template.Write

/-!
# Templates survive being written

A template that is written as a value and read from it again is the same template.  A text that is
not set is not written, and what is not written is read as not set; an empty text is written like
any other.  A parameter that is not required does not say so, and labels are written unless there
are none: in both cases what is left out is what a reader assumes.

Metadata are written as they are and read in normal form.  That the two fit together is a condition
on the metadata of the template.
-/

namespace ResourceTemplate

open Document

/-! ## Members that may be left out -/

theorem keys_optionalMember_sublist (key : String) (value : Option String) :
    ((optionalMember key value).map Prod.fst).Sublist [key] := by
  cases value with
  | none => exact List.nil_sublist _
  | some s => exact List.Sublist.refl _

theorem mem_optionalMember {key : String} {value : Option String} {member : String × Json} :
    member ∈ optionalMember key value ↔ ∃ s, value = some s ∧ member = (key, .string s) := by
  cases value with
  | none => simp [optionalMember]
  | some s => simp [optionalMember]

/-- A member that may be left out sets what it says, when nothing was set before. -/
theorem foldl_optionalMember {α : Type} {step : α → String × Json → α} (draft : α)
    {f : Option String → α} {key : String} (hnone : f none = draft)
    (hsome : ∀ s, step draft (key, .string s) = f (some s)) (value : Option String) :
    (optionalMember key value).foldl step draft = f value := by
  cases value with
  | none => exact hnone.symm
  | some s => exact hsome s

/-! ## Parameters -/

namespace Parameter

/-- The member that says that a parameter is required. -/
def requiredMember (p : Parameter) : List (String × Json) :=
  if p.required then [("required", .bool true)] else []

/-- The members of a parameter in the order of their keys. -/
def members (p : Parameter) : List (String × Json) :=
  optionalMember "description" p.description? ++ optionalMember "displayName" p.displayName? ++
    optionalMember "from" p.expression? ++ optionalMember "generate" p.generate? ++
    [("name", .string p.name)] ++ p.requiredMember ++ optionalMember "value" p.value?

theorem keys_requiredMember_sublist (p : Parameter) :
    (p.requiredMember.map Prod.fst).Sublist ["required"] := by
  unfold requiredMember
  split
  · exact List.Sublist.refl _
  · exact List.nil_sublist _

theorem keys_members_sublist (p : Parameter) :
    (p.members.map Prod.fst).Sublist
      ["description", "displayName", "from", "generate", "name", "required", "value"] := by
  simp only [members, List.map_append]
  exact (((((((keys_optionalMember_sublist _ _).append (keys_optionalMember_sublist _ _)).append
    (keys_optionalMember_sublist _ _)).append (keys_optionalMember_sublist _ _)).append
    (List.Sublist.refl _)).append p.keys_requiredMember_sublist).append
    (keys_optionalMember_sublist _ _))

theorem ordered_members (p : Parameter) : Dict.Ordered p.members :=
  List.pairwise_map.mp (List.Pairwise.sublist p.keys_members_sublist (by decide))

theorem toJson_eq (p : Parameter) : p.toJson = .object p.members := by
  refine congrArg Json.object (p.ordered_members.ofList_eq_of_perm ?_)
  classical
  refine List.perm_iff_count.mpr fun member => ?_
  simp only [members, requiredMember, List.count_append]
  omega

/-- Every member of a parameter is a field of it. -/
theorem takes_members (p : Parameter) :
    ∀ member ∈ p.members, (@reader Unit).Takes member := by
  intro member hmember
  simp only [members, requiredMember, List.mem_append, mem_optionalMember, List.mem_singleton,
    or_assoc] at hmember
  rcases hmember with ⟨s, -, rfl⟩ | ⟨s, -, rfl⟩ | ⟨s, -, rfl⟩ | ⟨s, -, rfl⟩ | rfl | hmember |
    ⟨s, -, rfl⟩
  · exact RecordReader.takes_of_set (f := fun p => { p with description? := some s })
      (by decide) fun _ => rfl
  · exact RecordReader.takes_of_set (f := fun p => { p with displayName? := some s })
      (by decide) fun _ => rfl
  · exact RecordReader.takes_of_set (f := fun p => { p with expression? := some s })
      (by decide) fun _ => rfl
  · exact RecordReader.takes_of_set (f := fun p => { p with generate? := some s })
      (by decide) fun _ => rfl
  · exact RecordReader.takes_of_set (f := fun q => { q with name := p.name })
      (by decide) fun _ => rfl
  · split at hmember
    · obtain rfl := List.mem_singleton.mp hmember
      exact RecordReader.takes_of_set (f := fun p => { p with required := true })
        (by decide) fun _ => rfl
    · exact absurd hmember List.not_mem_nil
  · exact RecordReader.takes_of_set (f := fun p => { p with value? := some s })
      (by decide) fun _ => rfl

/-- Set one after the other in what is known by the name alone, the members give the parameter. -/
theorem foldl_members (p : Parameter) :
    p.members.foldl (@reader Unit).put (named "") = p := by
  obtain ⟨name, displayName?, description?, value?, generate?, expression?, required⟩ := p
  simp only [members, List.foldl_append, List.foldl_cons, List.foldl_nil]
  -- The draft grows by one field at a time, in the order of the keys.
  have hdescription : (optionalMember "description" description?).foldl (@reader Unit).put
      (named "") = ⟨"", none, description?, none, none, none, false⟩ :=
    foldl_optionalMember _ (f := fun v => Parameter.mk "" none v none none none false) rfl
      (fun _ => rfl) _
  have hdisplayName : (optionalMember "displayName" displayName?).foldl
      (@reader Unit).put ⟨"", none, description?, none, none, none, false⟩ =
        ⟨"", displayName?, description?, none, none, none, false⟩ :=
    foldl_optionalMember _ (f := fun v => Parameter.mk "" v description? none none none false) rfl
      (fun _ => rfl) _
  have hfrom : (optionalMember "from" expression?).foldl (@reader Unit).put
      ⟨"", displayName?, description?, none, none, none, false⟩ =
        ⟨"", displayName?, description?, none, none, expression?, false⟩ :=
    foldl_optionalMember _ (f := fun v => Parameter.mk "" displayName? description? none none v false)
      rfl (fun _ => rfl) _
  have hgenerate : (optionalMember "generate" generate?).foldl (@reader Unit).put
      ⟨"", displayName?, description?, none, none, expression?, false⟩ =
        ⟨"", displayName?, description?, none, generate?, expression?, false⟩ :=
    foldl_optionalMember _
      (f := fun v => Parameter.mk "" displayName? description? none v expression? false) rfl
      (fun _ => rfl) _
  have hname : (@reader Unit).put
      ⟨"", displayName?, description?, none, generate?, expression?, false⟩
      ("name", .string name) =
        ⟨name, displayName?, description?, none, generate?, expression?, false⟩ := rfl
  have hrequired : (requiredMember ⟨name, displayName?, description?, value?, generate?, expression?,
      required⟩).foldl (@reader Unit).put
        ⟨name, displayName?, description?, none, generate?, expression?, false⟩ =
          ⟨name, displayName?, description?, none, generate?, expression?, required⟩ := by
    cases required <;> rfl
  rw [hdescription, hdisplayName, hfrom, hgenerate, hname, hrequired]
  exact foldl_optionalMember _
    (f := fun v => Parameter.mk name displayName? description? v generate? expression? required) rfl
    (fun _ => rfl) _

/-- A parameter that is written is read again. -/
theorem read_ofJson_toJson (positional : Bool) (p : Parameter) :
    read positional (Node.ofJson p.toJson) = .ok p := by
  have hnodup : (p.members.map Prod.fst).Nodup :=
    p.keys_members_sublist.nodup (by decide)
  have hentries := (@reader Unit).readEntries_ofMembers
    (.mapping () true (Node.ofMembers p.members)) [] (named "") hnodup (by simp) p.takes_members
  have hname : "name" ∈ p.members.map Prod.fst := by simp [members]
  rw [p.foldl_members] at hentries
  rw [p.toJson_eq]
  cases positional <;>
    simp [read, RecordReader.read, RecordReader.surplus?, Node.ofJson, Node.entries, hentries,
      hname]

end Parameter

/-! ## Templates -/

namespace Template

/-- Parameters that are written are read again in their order. -/
theorem readParameters_ofItems (positional : Bool) (index : Nat) (parameters : List Parameter) :
    readParameters positional index (Node.ofItems (parameters.map Parameter.toJson)) =
      .ok parameters := by
  induction parameters generalizing index with
  | nil => rfl
  | cons p rest ih =>
      simp only [List.map_cons, Node.ofItems, readParameters, p.read_ofJson_toJson, ih (index + 1)]
      rfl

/-- Labels that are written are read again, each behind those before it. -/
theorem readLabels_ofMembers {before labels : Dict String} (h : Dict.Ordered (before ++ labels)) :
    readLabels before (Node.ofMembers (labels.mapValues Json.string)) = .ok (before ++ labels) := by
  induction labels generalizing before with
  | nil => simp [Dict.mapValues, Node.ofMembers, readLabels]
  | cons label rest ih =>
      obtain ⟨key, value⟩ := label
      have hinsert := Dict.insert_of_ordered_append h value
      have hnext : Dict.Ordered ((before ++ [(key, value)]) ++ rest) := by
        rwa [List.append_assoc]
      have hrest := ih hnext
      simp only [Dict.mapValues] at hrest
      simp only [Dict.mapValues, List.map_cons, Node.ofMembers, readLabels, Node.ofJson,
        Node.text_string, hinsert, hrest, List.append_assoc, List.singleton_append]

/-- The member that tells the labels. -/
def labelsMember (t : Template) : List (String × Json) :=
  if t.labels.isEmpty then [] else [("labels", .object (t.labels.mapValues Json.string))]

/-- The members of a template in the order of their keys. -/
def members (t : Template) : List (String × Json) :=
  [("apiVersion", .string t.apiVersion), ("kind", .string t.kind)] ++ t.labelsMember ++
    optionalMember "message" t.message? ++
    [("metadata", t.metadata.toJson), ("objects", .array t.objects),
      ("parameters", .array (t.parameters.map Parameter.toJson))]

theorem keys_labelsMember_sublist (t : Template) :
    (t.labelsMember.map Prod.fst).Sublist ["labels"] := by
  unfold labelsMember
  split
  · exact List.nil_sublist _
  · exact List.Sublist.refl _

theorem keys_members_sublist (t : Template) :
    (t.members.map Prod.fst).Sublist
      ["apiVersion", "kind", "labels", "message", "metadata", "objects", "parameters"] := by
  simp only [members, List.map_append]
  exact (((List.Sublist.refl _).append t.keys_labelsMember_sublist).append
    (keys_optionalMember_sublist _ _)).append (List.Sublist.refl _)

theorem ordered_members (t : Template) : Dict.Ordered t.members :=
  List.pairwise_map.mp (List.Pairwise.sublist t.keys_members_sublist (by decide))

theorem toJson_eq (t : Template) : t.toJson = .object t.members := by
  refine congrArg Json.object (t.ordered_members.ofList_eq_of_perm ?_)
  classical
  refine List.perm_iff_count.mpr fun member => ?_
  simp only [members, labelsMember, List.count_append, List.count_cons, List.count_nil]
  omega

section Members

variable {t : Template} {positional : Bool} (draft : Template)

theorem set_labels (hlabels : t.labels.Ordered) :
    (reader positional).set draft "labels"
      (Node.ofJson (.object (t.labels.mapValues Json.string))) =
        .ok { draft with labels := t.labels } := by
  change (readLabels [] (Node.ofMembers (t.labels.mapValues Json.string))).map _ = _
  have hread : readLabels [] (Node.ofMembers (t.labels.mapValues Json.string)) = .ok t.labels :=
    readLabels_ofMembers hlabels
  rw [hread]
  rfl

theorem set_metadata
    (hmetadata : Resource.readMetadata (Node.ofJson t.metadata.toJson) = .ok t.metadata) :
    (reader positional).set draft "metadata" (Node.ofJson t.metadata.toJson) =
      .ok { draft with metadata := t.metadata } := by
  change (Resource.readMetadata (Node.ofJson t.metadata.toJson)).map _ = _
  rw [hmetadata]
  rfl

theorem set_objects (hobjects : Json.CanonicalItems t.objects) :
    (reader positional).set draft "objects" (Node.ofJson (.array t.objects)) =
      .ok { draft with objects := t.objects } := by
  change (Node.values 0 (Node.ofItems t.objects)).map _ = _
  rw [Node.values_ofItems hobjects]
  rfl

theorem set_parameters (parameters : List Parameter) :
    (reader positional).set draft "parameters"
      (Node.ofJson (.array (parameters.map Parameter.toJson))) =
        .ok { draft with parameters := parameters } := by
  change (readParameters positional 0 (Node.ofItems (parameters.map Parameter.toJson))).map _ = _
  rw [readParameters_ofItems]
  rfl

end Members

section RoundTrip

variable (positional : Bool) {t : Template}
  (hmetadata : Resource.readMetadata (Node.ofJson t.metadata.toJson) = .ok t.metadata)
  (hobjects : Json.CanonicalItems t.objects) (hlabels : t.labels.Ordered)
include hmetadata hobjects hlabels

/-- Every member of a template is a field of it. -/
theorem takes_members : ∀ member ∈ t.members, (reader positional).Takes member := by
  intro member hmember
  simp only [members, labelsMember, List.mem_append, mem_optionalMember, List.mem_cons,
    List.not_mem_nil, or_false, or_assoc] at hmember
  rcases hmember with rfl | rfl | hmember | ⟨s, -, rfl⟩ | rfl | rfl | rfl
  · exact RecordReader.takes_of_set (f := fun d => { d with apiVersion := t.apiVersion })
      (by simp [reader, fieldNames]) fun _ => rfl
  · exact RecordReader.takes_of_set (f := fun d => { d with kind := t.kind })
      (by simp [reader, fieldNames]) fun _ => rfl
  · split at hmember
    · exact absurd hmember List.not_mem_nil
    · obtain rfl := List.mem_singleton.mp hmember
      exact RecordReader.takes_of_set (by simp [reader, fieldNames])
        fun draft => set_labels draft hlabels
  · exact RecordReader.takes_of_set (f := fun d => { d with message? := some s })
      (by simp [reader, fieldNames]) fun _ => rfl
  · exact RecordReader.takes_of_set (by simp [reader, fieldNames])
      fun draft => set_metadata draft hmetadata
  · exact RecordReader.takes_of_set (by simp [reader, fieldNames])
      fun draft => set_objects draft hobjects
  · exact RecordReader.takes_of_set (by simp [reader, fieldNames])
      fun draft => set_parameters draft t.parameters

/-- Set one after the other in the empty template, the members give the template. -/
theorem foldl_members : t.members.foldl (reader positional).put empty = t := by
  -- Labels that are not written are none, as in the empty template.
  have hlabelled : ∀ draft : Template, draft.labels = [] →
      t.labelsMember.foldl (reader positional).put draft = { draft with labels := t.labels } := by
    intro draft hdraft
    unfold labelsMember
    split
    next h => rw [List.isEmpty_iff.mp h, ← hdraft]; rfl
    next => exact RecordReader.put_of_set (set_labels draft hlabels)
  have hmessage : ∀ draft : Template, draft.message? = none →
      (optionalMember "message" t.message?).foldl (reader positional).put draft =
        { draft with message? := t.message? } := by
    intro draft hdraft
    refine foldl_optionalMember draft (f := fun v => { draft with message? := v }) ?_ (fun _ => rfl) _
    simp only [← hdraft]
  have hversion : ∀ draft : Template, (reader positional).put draft
      ("apiVersion", .string t.apiVersion) = { draft with apiVersion := t.apiVersion } :=
    fun _ => rfl
  have hkind : ∀ draft : Template, (reader positional).put draft ("kind", .string t.kind) =
      { draft with kind := t.kind } := fun _ => rfl
  simp only [members, List.foldl_append, List.foldl_cons, List.foldl_nil]
  rw [hversion, hkind, hlabelled _ rfl, hmessage _ rfl,
    RecordReader.put_of_set (set_metadata _ hmetadata),
    RecordReader.put_of_set (set_objects _ hobjects),
    RecordReader.put_of_set (set_parameters _ t.parameters)]

/-- A template that is written as a value is read from it again, whether or not records may be
written as lists. -/
theorem read_written : read positional (Node.ofJson t.toJson) = .ok t := by
  have hnodup : (t.members.map Prod.fst).Nodup := t.keys_members_sublist.nodup (by decide)
  have htakes := takes_members positional hmetadata hobjects hlabels
  have hentries := (reader positional).readEntries_ofMembers
    (.mapping () true (Node.ofMembers t.members)) [] empty hnodup (by simp) htakes
  rw [foldl_members positional hmetadata hobjects hlabels] at hentries
  rw [t.toJson_eq]
  cases positional <;>
    simp [read, RecordReader.read, RecordReader.surplus?, Node.ofJson, Node.entries, hentries]

end RoundTrip

/-- A template in which empty texts and missing ones stand side by side: an empty message, a
parameter with an empty value and one without, and an object with an empty key. -/
def sparse : Template :=
  { Template.empty with
    metadata := ⟨[("labels", .object [("tier", .string "")]), ("name", .string "sparse")]⟩
    message? := some ""
    objects := [.object [("", .null), ("kind", .string "Secret")], .number (.negative 0)]
    parameters := [
      ⟨"B", none, some "", some "", none, some "[a-z]{8}", true⟩,
      ⟨"A", some "", none, none, some "", none, false⟩]
    labels := [("", ""), ("a", "${A}")] }

theorem read_written_sparse :
    Resource.readMetadata (Node.ofJson sparse.metadata.toJson) = .ok sparse.metadata ∧
      Json.CanonicalItems sparse.objects ∧ sparse.labels.Ordered ∧
      read true (Node.ofJson sparse.toJson) = .ok sparse := by
  have hmetadata : Resource.readMetadata (Node.ofJson sparse.metadata.toJson) =
    .ok sparse.metadata :=
    by rfl
  have hobjects : Json.CanonicalItems sparse.objects :=
    ⟨⟨List.pairwise_pair.mpr (by decide), trivial, trivial, trivial⟩, trivial, trivial⟩
  have hlabels : sparse.labels.Ordered := List.pairwise_pair.mpr (by decide)
  exact ⟨hmetadata, hobjects, hlabels, read_written true hmetadata hobjects hlabels⟩

end Template

end ResourceTemplate
