import TemplateLint.Proofs.Lists
import TemplateLint.Proofs.Source.Before
import TemplateLint.Proofs.Text.Bytes
import TemplateLint.Source.Label

/-!
# What labels cover

A label is placed by counting bytes, and a quotation is cut out of the lines of the source. Both are
about the same span, and where the source has that span the label covers the quotation.

## Main definitions

* `Source.Contains`: the spans that a source has
* `Source.quoteChecked?`: the quotation, with every access to the lines checked
* `Label.covered`: the bytes that a label covers

## Main statements

* `Source.quoteChecked?_eq_some`: no line is looked up that the source does not have
* `Source.before_finish`: the quotation stands between the ends of its span
* `Label.ofDiagnostic_covered`: a label lies in its source and covers the quotation
-/

namespace TemplateLint

namespace Source

/-! ### Spans in a source -/

/-- Whether a source has a span: it starts in some line, it does not end before it starts, and the
line in which it ends is one of the source. Its columns may lie behind the ends of their lines. -/
structure Contains (source : String) (span : Span) : Prop where
  one_le : 1 ≤ span.start.line
  ordered : span.start ≤ span.finish
  line_le : span.finish.line ≤ source.toList.count '\n' + 1

instance (source : String) (span : Span) : Decidable (Contains source span) :=
  decidable_of_iff
    (1 ≤ span.start.line ∧ span.start ≤ span.finish ∧
      span.finish.line ≤ source.toList.count '\n' + 1)
    ⟨fun ⟨h₁, h₂, h₃⟩ => ⟨h₁, h₂, h₃⟩, fun h => ⟨h.one_le, h.ordered, h.line_le⟩⟩

variable {source : String} {span : Span}

theorem not_contains_iff :
    ¬ Contains source span ↔ span.start.line = 0 ∨ ¬ span.start ≤ span.finish ∨
      (Text.lines source.toList).length < span.finish.line := by
  rw [Text.length_lines]
  constructor
  · intro h
    by_cases hline : span.start.line = 0
    · exact Or.inl hline
    · by_cases hordered : span.start ≤ span.finish
      · refine Or.inr (Or.inr (Nat.lt_of_not_le fun hle => h ⟨?_, hordered, hle⟩))
        exact Nat.one_le_iff_ne_zero.2 hline
      · exact Or.inr (Or.inl hordered)
  · rintro (hline | hordered | hlast) h
    · exact absurd h.one_le (by omega)
    · exact hordered h.ordered
    · exact absurd h.line_le (by omega)

/-- A span that the source does not have covers nothing. -/
theorem quote_of_not_contains (h : ¬ Contains source span) : quote source span = "" := by
  unfold quote quoteChars
  rw [if_pos (not_contains_iff.1 h)]

/-- The lines of a span in a source, counted from zero. -/
theorem Contains.lines (h : Contains source span) :
    ∃ first last, span.start.line = first + 1 ∧ span.finish.line = last + 1 ∧ first ≤ last ∧
      last < (Text.lines source.toList).length := by
  have hone := h.one_le
  have hle := h.line_le
  rw [← Text.length_lines] at hle
  have hordered : span.start.line ≤ span.finish.line := by
    rcases (Position.le_iff _ _).1 h.ordered with hlt | ⟨heq, -⟩
    · exact Nat.le_of_lt hlt
    · exact Nat.le_of_eq heq
  exact ⟨span.start.line - 1, span.finish.line - 1, by omega, by omega, by omega, by omega⟩

/-! ### Checked access to the lines -/

/-- The line of a number, counted from one, if there is one. -/
def line? (lines : List (List Char)) (n : Nat) : Option (List Char) :=
  if 1 ≤ n then lines[n - 1]? else none

/-- The lines from one index to before another one, if there are that many. -/
def linesBetween? (lines : List (List Char)) (first last : Nat) : Option (List (List Char)) :=
  if first ≤ last ∧ last ≤ lines.length then some ((lines.drop first).take (last - first)) else none

/-- The text that a span covers, if all lines that are looked up are there. -/
def quoteChecked? (source : List Char) (span : Span) : Option (List Char) :=
  let lines := Text.lines source
  if span.start.line = 0 ∨ ¬ span.start ≤ span.finish ∨ lines.length < span.finish.line then some []
  else if span.start.line = span.finish.line then do
    let line ← line? lines span.start.line
    some (slice line span.start.column span.finish.column)
  else do
    let first ← line? lines span.start.line
    let between ← linesBetween? lines span.start.line (span.finish.line - 1)
    let last ← line? lines span.finish.line
    some (joinLines (first.drop span.start.column) between (last.take span.finish.column))

theorem line?_succ {lines : List (List Char)} {n : Nat} (h : n < lines.length) :
    line? lines (n + 1) = some lines[n] := by
  unfold line?
  rw [if_pos (Nat.le_add_left 1 n)]
  exact List.getElem?_eq_getElem h

theorem linesBetween?_of_le {lines : List (List Char)} {first last : Nat} (h : first ≤ last)
    (hlast : last ≤ lines.length) :
    linesBetween? lines first last = some ((lines.drop first).take (last - first)) :=
  if_pos ⟨h, hlast⟩

/-! ### The two readings of a span -/

/-- The quotation of a span inside one line. -/
theorem quoteChars_of_eq {n a b : Nat} (h : Contains source ⟨⟨n + 1, a⟩, ⟨n + 1, b⟩⟩)
    (hn : n < (Text.lines source.toList).length) :
    quoteChars source.toList ⟨⟨n + 1, a⟩, ⟨n + 1, b⟩⟩ =
      slice (Text.lines source.toList)[n] a b := by
  unfold quoteChars
  rw [if_neg fun hnot => not_contains_iff.2 hnot h, if_pos rfl]
  simp [List.getElem?_eq_getElem hn]

/-- The quotation of a span over several lines. -/
theorem quoteChars_of_lt {m n a b : Nat} (h : Contains source ⟨⟨m + 1, a⟩, ⟨n + 1, b⟩⟩)
    (hlt : m < n) (hn : n < (Text.lines source.toList).length) :
    quoteChars source.toList ⟨⟨m + 1, a⟩, ⟨n + 1, b⟩⟩ =
      joinLines ((Text.lines source.toList)[m].drop a)
        (((Text.lines source.toList).drop (m + 1)).take (n - (m + 1)))
        ((Text.lines source.toList)[n].take b) := by
  have hne : ¬ m + 1 = n + 1 := by omega
  unfold quoteChars
  rw [if_neg fun hnot => not_contains_iff.2 hnot h, if_neg hne]
  simp [List.getElem?_eq_getElem hn, List.getElem?_eq_getElem (Nat.lt_trans hlt hn)]

/-- **Quoting never looks up a line that is not there**, whatever the span is. -/
theorem quoteChecked?_eq_some (source : String) (span : Span) :
    quoteChecked? source.toList span = some (quoteChars source.toList span) := by
  by_cases h : Contains source span
  · obtain ⟨⟨l, a⟩, ⟨l', b⟩⟩ := span
    obtain ⟨m, n, rfl, rfl, hmn, hn⟩ := h.lines
    -- Behind the guard all lines of the span are there, so that each access succeeds.
    have hguard := fun hnot => not_contains_iff.2 hnot h
    have hm : m < (Text.lines source.toList).length := Nat.lt_of_le_of_lt hmn hn
    unfold quoteChecked?
    rcases Nat.eq_or_lt_of_le hmn with rfl | hlt
    · rw [if_neg hguard, if_pos rfl, quoteChars_of_eq h hn, line?_succ hn]
      rfl
    · have hne : ¬ m + 1 = n + 1 := by omega
      rw [if_neg hguard, if_neg hne, quoteChars_of_lt h hlt hn, line?_succ hm, line?_succ hn,
        Nat.add_sub_cancel, linesBetween?_of_le hlt (Nat.le_of_lt hn)]
      rfl
  · have hnot := not_contains_iff.1 h
    unfold quoteChecked? quoteChars
    rw [if_pos hnot, if_pos hnot]

/-- Cutting a line at one column and then at another one. -/
theorem take_append_slice (line : List Char) {a b : Nat} (h : a ≤ b) :
    line.take a ++ slice line a b = line.take b := by
  unfold slice
  rw [← List.take_add, Nat.add_sub_cancel' h]

/-- **The quotation stands between the ends of its span.** -/
theorem before_finish (h : Contains source span) :
    before source span.finish = before source span.start ++ quoteChars source.toList span := by
  obtain ⟨⟨l, a⟩, ⟨l', b⟩⟩ := span
  obtain ⟨m, n, rfl, rfl, hmn, hn⟩ := h.lines
  have hm : m < (Text.lines source.toList).length := Nat.lt_of_le_of_lt hmn hn
  rw [before_eq_of_lt hn, before_eq_of_lt hm]
  rcases Nat.eq_or_lt_of_le hmn with rfl | hlt
  · have hcolumns : a ≤ b := by
      rcases (Position.le_iff _ _).1 h.ordered with hlt | ⟨-, hle⟩
      · exact absurd hlt (Nat.lt_irrefl _)
      · exact hle
    rw [quoteChars_of_eq h hn, ← take_append_slice _ hcolumns]
    rw [intercalate_append_cut, List.intercalate_singleton]
  · -- The first line is cut at the start of the span, and the lines after it are quoted whole.
    let line := (Text.lines source.toList)[m]
    let between := ((Text.lines source.toList).drop (m + 1)).take (n - (m + 1))
    let last := (Text.lines source.toList)[n].take b
    calc ['\n'].intercalate ((Text.lines source.toList).take n ++ [last])
        = ['\n'].intercalate ((Text.lines source.toList).take m ++
            (line.take a ++ line.drop a) :: (between ++ [last])) := by
          rw [take_eq_append_cons hlt hm, List.append_assoc, List.cons_append,
            List.take_append_drop]
      _ = ['\n'].intercalate ((Text.lines source.toList).take m ++ [line.take a]) ++
            ['\n'].intercalate (line.drop a :: (between ++ [last])) :=
          intercalate_append_cut _ _ _ _ _
      _ = _ := by
          rw [quoteChars_of_lt h hlt hn]
          rfl

end Source

namespace Label

/-! ### Labels -/

/-- The bytes of a source that a label covers. -/
def covered (label : Label) (source : String) : List UInt8 :=
  ((Text.bytes source).drop label.offset).take label.length

/-- The offsets at the ends of a span that the source has differ by the size of the quotation. -/
theorem offset_finish {source : String} {span : Span} (h : Source.Contains source span) :
    Source.offset source span.finish =
      Source.offset source span.start + (Source.quote source span).utf8ByteSize := by
  rw [← Source.size_before, Source.before_finish h, Source.size_append, Source.size_before]
  unfold Source.quote
  rw [Source.utf8ByteSize_ofList]

/-- A source with a span is the text before the span, the quotation and the rest. -/
theorem exists_eq_append {source : String} {span : Span} (h : Source.Contains source span) :
    ∃ rest, source =
      String.ofList (Source.before source span.start) ++ Source.quote source span ++ rest := by
  obtain ⟨rest, hrest⟩ := Source.before_isPrefix source span.finish
  refine ⟨String.ofList rest, ?_⟩
  rw [Source.before_finish h] at hrest
  unfold Source.quote
  rw [← String.ofList_append, ← String.ofList_append, hrest, String.ofList_toList]

/-- A label that starts with a span and is as long as the quotation covers the quotation. -/
theorem covered_eq_bytes_quote {source : String} {span : Span} {label : Label}
    (h : Source.Contains source span) (hoffset : label.offset = Source.offset source span.start)
    (hlength : label.length = (Source.quote source span).utf8ByteSize) :
    label.covered source = Text.bytes (Source.quote source span) := by
  obtain ⟨rest, hsource⟩ := exists_eq_append h
  have hstart : label.offset =
      (Text.bytes (String.ofList (Source.before source span.start))).length := by
    rw [hoffset, Text.length_bytes, Source.utf8ByteSize_ofList, Source.size_before]
  have hbytes : Text.bytes source = Text.bytes (String.ofList (Source.before source span.start)) ++
      (Text.bytes (Source.quote source span) ++ Text.bytes rest) := by
    rw [← List.append_assoc, ← Text.bytes_append, ← Text.bytes_append, ← hsource]
  unfold covered
  rw [hbytes, hstart, List.drop_left, hlength, ← Text.length_bytes, List.take_left]

/-- **What a label covers.**  The label of a diagnostic starts where its span does and ends where
its span does, or at its start when the span ends before. Both ends lie in the source and between
characters. When the source has the span, the bytes between them are those of the quotation, and
otherwise the quotation is empty; the quotation never looks up a line that is not there. -/
theorem ofDiagnostic_covered (d : Diagnostic) (source : String) :
    let label := Label.ofDiagnostic d source
    label.offset = Source.offset source d.span.start ∧
    label.offset + label.length =
      max (Source.offset source d.span.finish) (Source.offset source d.span.start) ∧
    label.offset + label.length ≤ source.utf8ByteSize ∧
    (⟨label.offset⟩ : String.Pos.Raw).IsValid source ∧
    (⟨label.offset + label.length⟩ : String.Pos.Raw).IsValid source ∧
    (Source.Contains source d.span →
      label.covered source = Text.bytes (Source.quote source d.span)) ∧
    (¬ Source.Contains source d.span → Source.quote source d.span = "") ∧
    Source.quoteChecked? source.toList d.span =
      some (Source.quoteChars source.toList d.span) := by
  intro label
  let first := Source.offset source d.span.start
  let last := Source.offset source d.span.finish
  have hstop : label.offset + label.length = max last first :=
    Nat.add_sub_cancel' (Nat.le_max_right last first)
  refine ⟨rfl, hstop, ?_, Source.isValid_offset source _, ?_, fun h => ?_,
    Source.quote_of_not_contains, Source.quoteChecked?_eq_some source d.span⟩
  · rw [hstop]
    exact Nat.max_le.2 ⟨Source.offset_le source _, Source.offset_le source _⟩
  · rw [hstop]
    rcases Nat.le_total first last with hle | hle
    · rw [Nat.max_eq_left hle]
      exact Source.isValid_offset source _
    · rw [Nat.max_eq_right hle]
      exact Source.isValid_offset source _
  · refine covered_eq_bytes_quote h rfl ?_
    have hfinish : last = first + (Source.quote source d.span).utf8ByteSize := offset_finish h
    have hoffset : label.offset = first := rfl
    omega

example :
    let d : Diagnostic :=
      { rule := "denylist", severity := .error, message := "", span := ⟨⟨1, 1⟩, ⟨2, 9⟩⟩ }
    (Label.ofDiagnostic d "né\nà b").covered "né\nà b" = Text.bytes "é\nà b" := by
  decide

end Label

end TemplateLint
