import Mathlib.Data.List.Basic
import ResourceTemplate.Yaml.Document

/-!
# What has a content

The keys of every mapping in a content are different, at whatever depth it stands, though a document
may well repeat a key.  Contents are compared with themselves as equal, and mappings without regard
to the order of their entries.

A text that has a content was read to its end without a fault.  So what is told when it cannot be
read at a type is about the type, with the place where the type is broken.
-/

namespace ResourceTemplate.Yaml

namespace Content

/-! ## Distinct keys -/

/-- No entry has the key of an entry before it. -/
def KeysDiffer (entries : List (Content × Content)) : Prop :=
  entries.Pairwise fun earlier later => same later.1 earlier.1 = false

mutual

/-- Every mapping has different keys. -/
def Distinct : Content → Prop
  | atom _ => True
  | text _ => True
  | sequence items => DistinctItems items
  | mapping entries => KeysDiffer entries ∧ DistinctEntries entries
  | tagged _ content => content.Distinct

/-- Items in which every mapping has different keys. -/
def DistinctItems : List Content → Prop
  | [] => True
  | item :: rest => item.Distinct ∧ DistinctItems rest

/-- Keys and values in which every mapping has different keys. -/
def DistinctEntries : List (Content × Content) → Prop
  | [] => True
  | (key, value) :: rest => key.Distinct ∧ value.Distinct ∧ DistinctEntries rest

end

theorem distinctEntries_append {first second : List (Content × Content)} :
    DistinctEntries (first ++ second) ↔ DistinctEntries first ∧ DistinctEntries second := by
  induction first with
  | nil => simp [DistinctEntries]
  | cons entry first ih =>
      obtain ⟨key, value⟩ := entry
      simp only [List.cons_append, DistinctEntries, ih, and_assoc]

theorem distinct_mark {content : Content} (h : content.Distinct) (tag? : Option Tag) :
    (mark tag? content).Distinct := by
  unfold mark
  split
  next name => exact h
  next => exact h

theorem distinct_of_ofScalar? {tag? : Option Tag} {style : Style} {written : String}
    {content : Content} (h : ofScalar? tag? style written = some content) : content.Distinct := by
  unfold ofScalar? at h
  split at h
  next => simp at h
  next => simp at h
  next r _ _ =>
    obtain rfl := Option.some.inj h
    refine distinct_mark ?_ tag?
    split <;> trivial

/-- An entry with another key than those before is added behind them. -/
theorem KeysDiffer.concat {before : List (Content × Content)} {key value : Content}
    (h : KeysDiffer before) (hnew : (before.any fun entry => same key entry.1) = false) :
    KeysDiffer (before ++ [(key, value)]) := by
  refine List.pairwise_append.mpr
    ⟨h, List.pairwise_singleton _ _, fun entry hentry other hother => ?_⟩
  obtain rfl := List.mem_singleton.mp hother
  exact Bool.eq_false_iff.mpr (List.any_eq_false.mp hnew entry hentry)

mutual

/-- A content has different keys in all of its mappings. -/
theorem distinct_of_ofTree? : ∀ (tree : Tree) {content : Content},
    ofTree? tree = some content → content.Distinct
  | .scalar _ _ _ _ _, _, h => distinct_of_ofScalar? h
  | .sequence _ tag? items, _, h => by
      obtain ⟨contents, hcontents, rfl⟩ := Option.map_eq_some_iff.mp h
      have hitems : (sequence contents).Distinct := distinct_of_ofItems? items hcontents
      exact distinct_mark hitems tag?
  | .mapping _ tag? entries, _, h => by
      obtain ⟨contents, hcontents, rfl⟩ := Option.map_eq_some_iff.mp h
      have hentries : (mapping contents).Distinct :=
        distinct_of_ofEntries? entries .nil trivial hcontents
      exact distinct_mark hentries tag?
  | .beyond _, _, h => by simp [ofTree?] at h

theorem distinct_of_ofItems? : ∀ (items : List Tree) {contents : List Content},
    ofItems? items = some contents → DistinctItems contents
  | [], _, h => by
      obtain rfl := Option.some.inj h
      trivial
  | item :: rest, _, h => by
      unfold ofItems? at h
      cases hitem : ofTree? item with
      | none => simp [hitem] at h
      | some content =>
          simp only [hitem] at h
          obtain ⟨contents, hcontents, rfl⟩ := Option.map_eq_some_iff.mp h
          exact ⟨distinct_of_ofTree? item hitem, distinct_of_ofItems? rest hcontents⟩

theorem distinct_of_ofEntries? : ∀ (entries : List (Tree × Tree))
    {before contents : List (Content × Content)}, KeysDiffer before → DistinctEntries before →
      ofEntries? before entries = some contents → KeysDiffer contents ∧ DistinctEntries contents
  | [], _, _, hkeys, hbefore, h => by
      obtain rfl := Option.some.inj h
      exact ⟨hkeys, hbefore⟩
  | (key, value) :: rest, before, _, hkeys, hbefore, h => by
      unfold ofEntries? at h
      split at h
      next k v hkey hvalue =>
        split at h
        next => simp at h
        next hnew =>
          refine distinct_of_ofEntries? rest (hkeys.concat (Bool.eq_false_iff.mpr hnew)) ?_ h
          exact distinctEntries_append.mpr
            ⟨hbefore, distinct_of_ofTree? key hkey, distinct_of_ofTree? value hvalue, trivial⟩
      next => simp at h

end

/-! ## Equal contents -/

theorem sameReading_self (r : Reading) : sameReading r r = true := by
  cases r <;> simp [sameReading]

mutual

theorem same_self : ∀ content : Content, same content content = true
  | atom r => sameReading_self r
  | text s => by simp [same]
  | sequence items => sameItems_self items
  | mapping entries => by
      simp only [same, decide_true, Bool.true_and]
      exact sameEntries_of_subset entries fun _ hentry => hentry
  | tagged name content => by simp [same, same_self content]

theorem sameItems_self : ∀ items : List Content, sameItems items items = true
  | [] => rfl
  | item :: rest => by simp [sameItems, same_self item, sameItems_self rest]

theorem sameEntries_of_subset : ∀ (entries : List (Content × Content))
    {others : List (Content × Content)}, entries ⊆ others → sameEntries entries others = true
  | [], _, _ => rfl
  | (key, value) :: rest, others, h => by
      have hfound : (others.any fun entry => same key entry.1 && same value entry.2) = true :=
        List.any_eq_true.mpr ⟨(key, value), h List.mem_cons_self, by
          simp [same_self key, same_self value]⟩
      simp only [sameEntries, hfound, Bool.true_and]
      exact sameEntries_of_subset rest fun _ hentry => h (List.mem_cons_of_mem _ hentry)

end

/-- The order of entries does not count. -/
theorem same_mapping_of_perm {entries others : List (Content × Content)} (h : entries.Perm others) :
    same (mapping entries) (mapping others) = true := by
  simp only [same, h.length_eq, decide_true, Bool.true_and]
  exact sameEntries_of_subset entries h.subset

end Content

/-! ## Texts with a content -/

/-- A text with a content is refused for nothing but what the type asks, at a place of the text. -/
theorem decode_of_hasContent {text : String} (h : hasContent text = true) :
    ∃ tree content, Content.ofTree? tree = some content ∧ content.Distinct ∧
      ∀ {α : Type} (read : Document.Node Mark → Except (Document.Violation Mark) α),
        decode read text =
          (read tree.node).mapError fun v => .violation v.cause v.path v.place := by
  unfold hasContent at h
  split at h
  next tree htree =>
    obtain ⟨content, hcontent⟩ := Option.isSome_iff_exists.mp h
    refine ⟨tree, content, hcontent, Content.distinct_of_ofTree? tree hcontent, fun read => ?_⟩
    simp only [decode, htree]
    cases read tree.node <;> rfl
  next => simp at h

end ResourceTemplate.Yaml
