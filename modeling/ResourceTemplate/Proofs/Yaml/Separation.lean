import ResourceTemplate.Listing
import ResourceTemplate.Proofs.Text.KeptLine
import ResourceTemplate.Proofs.Yaml.Ending

/-!
# Documents in a stream

Nothing that an object holds can be taken for the mark between two documents: of the lines of a
listing, those that begin with three dashes are the marks that stand in front of its documents.
What a line is differs, though.  To whom every break that the printer knows ends a line, as to the
reader of templates, the marks separate the documents in any case.  To whom only a newline does,
they do as long as every document but the last one ends with a newline.
-/

namespace ResourceTemplate

namespace Yaml

/-- A line that begins a document. -/
def markLine : Line := Line.ofText dashes

theorem clean_markLine : markLine.Clean := Line.clean_ofText (unbroken_of_any rfl)

/-- To a reader to whom some of the breaks end lines, each line begins with a written one, and goes
on behind it only where the reader takes no notice of its ending. -/
theorem exists_line_of_mem_keptLines {isEnd : Char → Bool}
    (hbreak : ∀ c, isEnd c = true → isBreak c = true) {ls : List Line}
    (hclean : ∀ l ∈ ls, l.Clean) {line : List Char}
    (h : line ∈ Text.keptLines isEnd (ls.flatMap Line.toList)) :
    ∃ l ∈ ls, l.toList <+: line ∧ (isEnd l.ending = true → line = l.toList) := by
  induction ls generalizing line with
  | nil => simp [Text.keptLines] at h
  | cons l rest ih =>
      rw [List.forall_mem_cons] at hclean
      have htext : ∀ c ∈ l.text, isEnd c = false := fun c hc =>
        Bool.eq_false_iff.mpr fun hend => by simpa [hclean.1.text c hc] using hbreak c hend
      have hrest : ∀ {line}, line ∈ Text.keptLines isEnd (rest.flatMap Line.toList) →
          ∃ l' ∈ l :: rest, l'.toList <+: line ∧ (isEnd l'.ending = true → line = l'.toList) := by
        intro line hline
        obtain ⟨l', hl', hprefix⟩ := ih hclean.2 hline
        exact ⟨l', List.mem_cons_of_mem l hl', hprefix⟩
      rw [List.flatMap_cons] at h
      by_cases hending : isEnd l.ending = true
      · have hended : Text.Ended isEnd l.toList := Text.ended_concat_iff.mpr hending
        rw [Text.keptLines_append hended, Line.toList, Text.keptLines_line htext hending,
          List.singleton_append, List.mem_cons] at h
        rcases h with rfl | h
        · exact ⟨l, List.mem_cons_self, List.prefix_rfl, fun _ => rfl⟩
        · exact hrest h
      · -- The reader takes no notice of the ending, so what follows joins this line.
        have hline : ∀ c ∈ l.toList, isEnd c = false := by
          rw [Line.toList, List.forall_mem_append, List.forall_mem_singleton]
          exact ⟨htext, Bool.eq_false_iff.mpr hending⟩
        rcases Text.prefix_or_mem_keptLines (by simp [Line.toList]) hline h with h | h
        · exact ⟨l, List.mem_cons_self, h, fun hend => absurd hend hending⟩
        · exact hrest h

/-- What stands in front of each document of a stream. -/
def separator : List Char := documentMark.toList

theorem separator_eq : separator = markLine.toList := rfl

/-- The lines of a stream. -/
def streamLines (values : List Json) : List Line :=
  values.flatMap fun value => markLine :: documentLines value

theorem toList_stream (values : List Json) : (stream values).toList =
    (values.map fun value => (document value).toList).flatMap (separator ++ ·) := by
  simp [stream, separator, String.toList_join, List.flatMap_map]

theorem flatMap_streamLines (values : List Json) :
    (streamLines values).flatMap Line.toList = (stream values).toList := by
  simp [streamLines, toList_stream, document, separator_eq, List.flatMap_assoc, List.flatMap_map]

theorem clean_streamLines (values : List Json) : ∀ l ∈ streamLines values, l.Clean := by
  simp only [streamLines, List.mem_flatMap, List.mem_cons]
  rintro l ⟨value, -, rfl | hl⟩
  · exact clean_markLine
  · exact clean_documentLines value l hl

section

variable {isEnd : Char → Bool} (hbreak : ∀ c, isEnd c = true → isBreak c = true)
include hbreak

/-- No line of a document can be taken for a mark. -/
theorem not_dashes_prefix_of_mem_document (value : Json) {line : List Char}
    (h : line ∈ Text.keptLines isEnd (document value).toList) : ¬dashes <+: line := by
  rw [document, String.toList_ofList] at h
  obtain ⟨l, hl, hprefix, -⟩ := exists_line_of_mem_keptLines hbreak (clean_documentLines value) h
  exact fun hdashes => unmarked_documentLines value l hl
    ((clean_documentLines value l hl).dashes_before hprefix hdashes)

variable (hnewline : isEnd '\n' = true)
include hnewline

/-- A line of a stream that begins with dashes is a mark. -/
theorem eq_separator_of_mem_stream {values : List Json} {line : List Char}
    (h : line ∈ Text.keptLines isEnd (stream values).toList) (hdashes : dashes <+: line) :
    line = separator := by
  rw [← flatMap_streamLines] at h
  obtain ⟨l, hl, hprefix, hline⟩ := exists_line_of_mem_keptLines hbreak (clean_streamLines values) h
  have hmarked : dashes <+: l.text := (clean_streamLines values l hl).dashes_before hprefix hdashes
  simp only [streamLines, List.mem_flatMap, List.mem_cons] at hl
  obtain ⟨value, -, rfl | hl⟩ := hl
  · exact hline hnewline
  · exact absurd hmarked (unmarked_documentLines value l hl)

/-- The marks of a stream separate its documents as long as the documents in front of other ones end
with the end of a line. -/
theorem separates_stream_iff (values : List Json) :
    Text.Separates isEnd dashes separator (values.map fun value => (document value).toList)
        (stream values).toList ↔
      ∀ value ∈ values.dropLast, isEnd (breakBehind (closing? value)) = true := by
  have hdashes : ∀ c ∈ dashes, isEnd c = false := fun c hc =>
    Bool.eq_false_iff.mpr fun hend => by simpa [clean_markLine.text c hc] using hbreak c hend
  have hseparator : Text.keptLines isEnd separator = [separator] :=
    Text.keptLines_line hdashes hnewline
  have hended : Text.Ended isEnd separator :=
    (Text.ended_concat_iff : Text.Ended isEnd (dashes ++ ['\n']) ↔ _).mpr hnewline
  rw [toList_stream, Text.separates_iff hseparator hended (List.prefix_append dashes ['\n'])
    (List.forall_mem_map.mpr fun value _ line => not_dashes_prefix_of_mem_document hbreak value),
    ← List.map_dropLast, List.forall_mem_map]
  simp only [Text.Ended, getLast?_document, Option.mem_some_iff, forall_eq']

end

end Yaml

/-- The documents of a listing, to a reader of YAML and to one that goes by newlines.  To the first
the marks separate them whatever the objects hold.  To the second no line but a mark begins with
dashes either; the marks separate the documents unless one in front of others lacks a newline at its
end, as happens when a literal text that ends in a line or paragraph separator is written last. -/
theorem documents_are_separated (objects : List RenderedObject) :
    let text := (ListingFormat.yaml.list objects).toList
    let documents := objects.map fun object => (Yaml.document object.raw).toList
    Text.Separates Yaml.isBreak Yaml.dashes Yaml.separator documents text ∧
      (∀ line ∈ Text.keptLines Text.isNewline text, Yaml.dashes <+: line → line = Yaml.separator) ∧
      (Text.Separates Text.isNewline Yaml.dashes Yaml.separator documents text ↔
        ∀ object ∈ objects.dropLast, ¬Yaml.LacksNewline object.raw) := by
  intro text documents
  have hnewline : ∀ c, Text.isNewline c = true → Yaml.isBreak c = true := by
    intro c hc
    rw [of_decide_eq_true hc]
    rfl
  have hdocuments : documents =
      (objects.map RenderedObject.raw).map fun value => (Yaml.document value).toList := by
    rw [List.map_map]
    rfl
  refine ⟨?_, fun line => Yaml.eq_separator_of_mem_stream hnewline rfl, ?_⟩
  · rw [hdocuments]
    refine (Yaml.separates_stream_iff (fun _ => id) rfl _).mpr fun value _ => ?_
    exact Yaml.isBreak_breakBehind _
  · rw [hdocuments]
    refine (Yaml.separates_stream_iff hnewline rfl _).trans ?_
    rw [← List.map_dropLast, List.forall_mem_map]
    refine forall₂_congr fun object _ => ?_
    rw [← Yaml.breakBehind_closing_ne_newline_iff, ne_eq, not_not]
    exact decide_eq_true_iff

/-- A secret with a note that ends in a line separator, and a config map behind it. -/
def secretWithNote : List RenderedObject :=
  [⟨.object [("apiVersion", .string "v1"), ("kind", .string "Secret"),
      ("metadata", .object [("name", .string "a")]),
      ("stringData", .object [("note", .string "first\n\u2028")])], none⟩,
    ⟨.object [("apiVersion", .string "v1"), ("kind", .string "ConfigMap"),
      ("metadata", .object [("name", .string "b")])], none⟩]

/-- The mark in front of the config map stands in the last line of the secret, so that one line only
begins with dashes, and the config map is lost to a reader that goes by newlines. -/
theorem mark_is_hidden :
    (ListingFormat.yaml.list secretWithNote =
      "---\napiVersion: v1\nkind: Secret\nmetadata:\n  name: a\nstringData:\n  note: |+\n    first\n" ++
        "\u2028---\napiVersion: v1\nkind: ConfigMap\nmetadata:\n  name: b\n") ∧
      Text.markedLines Text.isNewline Yaml.dashes (ListingFormat.yaml.list secretWithNote).toList =
        [Yaml.separator] ∧
      ¬Text.Separates Text.isNewline Yaml.dashes Yaml.separator
        (secretWithNote.map fun object => (Yaml.document object.raw).toList)
        (ListingFormat.yaml.list secretWithNote).toList := by
  decide +kernel

end ResourceTemplate
