import Mathlib.Data.List.DropRight
import Mathlib.Order.Bounds.Defs
import TemplateLint.Proofs.Source.Before
import TemplateLint.Proofs.Text.Tokens
import TemplateLint.Source.Excerpt

/-!
# Counting lines and characters

The position of a place in a source is found by counting: the line feeds before it, and the
characters since the last of them. Offsets go the other way, from positions to places, and also
from positions that no place has.

Both ways are tied together by one equivalence. A text from the start of a source ends at or before
a position exactly if it is a beginning of the text before that position. It is proved along the
lines of the source, and all else follows from it: the offset of a position is the last place whose
position is at or before it.

## Main definitions

* `Source.positionAfter`: the position at the end of a text
* `Source.IsBoundary`: the places between characters
* `Source.positionAt`: the position of such a place

## Main statements

* `Source.positionAfter_le_iff`: which beginnings of a source end at or before a position
* `Source.positionAt_le_iff`: positions and offsets, tied together
* `Source.offset_isGreatest`: what an offset is
-/

namespace TemplateLint

namespace Text

/-- No line holds a line feed. -/
theorem not_mem_of_mem_lines {cs line : List Char} (h : line ∈ lines cs) : '\n' ∉ line := by
  intro hfeed
  have hpiece := mem_splitOnP_iff.1 h
  exact hpiece.no_separator '\n' hfeed rfl

end Text

namespace Source

/-! ### Positions by counting -/

/-- **The position at the end of a text**: its line feeds are counted, and its characters behind the
last line feed. -/
def positionAfter (text : List Char) : Position :=
  ⟨1 + text.count '\n', (text.rtakeWhile (· ≠ '\n')).length⟩

/-- Characters that are no line feeds move a position within its line. -/
theorem positionAfter_append (text : List Char) {more : List Char} (h : '\n' ∉ more) :
    positionAfter (text ++ more) =
      ⟨(positionAfter text).line, (positionAfter text).column + more.length⟩ := by
  have hcolumns : (text ++ more).rtakeWhile (· ≠ '\n') =
      text.rtakeWhile (· ≠ '\n') ++ more := by
    refine rtakeWhile_append_of_pos fun c hc => decide_eq_true ?_
    rintro rfl
    exact h hc
  unfold positionAfter
  rw [List.count_append, List.count_eq_zero.2 h, hcolumns, List.length_append]
  rfl

/-- In a text without line feeds the columns are its characters. -/
theorem positionAfter_of_not_mem {text : List Char} (h : '\n' ∉ text) :
    positionAfter text = ⟨1, text.length⟩ := by
  have hstart := positionAfter_append [] h
  simpa [positionAfter] using hstart

/-- A line feed starts a new line, and there the columns are counted anew. -/
theorem positionAfter_append_cons {line : List Char} (h : '\n' ∉ line) (text : List Char) :
    positionAfter (line ++ '\n' :: text) =
      ⟨(positionAfter text).line + 1, (positionAfter text).column⟩ := by
  have hcolumns : (line ++ '\n' :: text).rtakeWhile (· ≠ '\n') = text.rtakeWhile (· ≠ '\n') :=
    rtakeWhile_append_cons_of_neg (by simp) line text
  unfold positionAfter
  rw [List.count_append, List.count_eq_zero.2 h, List.count_cons_self, hcolumns]
  simp only [Position.mk.injEq, and_true]
  omega

/-- A longer text does not end at or before the end of its beginning. -/
theorem not_positionAfter_append_le (text : List Char) {more : List Char} (h : more ≠ []) :
    ¬ positionAfter (text ++ more) ≤ positionAfter text := by
  rw [Position.le_iff]
  by_cases hfeed : '\n' ∈ more
  · have hlines : 0 < more.count '\n' := List.count_pos_iff.2 hfeed
    simp only [positionAfter, List.count_append]
    omega
  · rw [positionAfter_append text hfeed]
    have hlength : 0 < more.length := List.length_pos_iff.2 h
    dsimp only
    omega

/-! ### Beginnings of a source -/

section

variable {line text : List Char}

/-- The beginning of a line ends at or before a column of that line, when it is not longer. -/
theorem positionAfter_le_iff_take (hline : '\n' ∉ line) (h : text <+: line) (column : Nat) :
    positionAfter text ≤ ⟨1, column⟩ ↔ text <+: line.take column := by
  rw [positionAfter_of_not_mem fun hfeed => hline (h.subset hfeed), Position.le_iff,
    List.prefix_take_iff]
  simp [h]

/-- The beginning of a line ends before every later line. -/
theorem positionAfter_le_below (hline : '\n' ∉ line) (h : text <+: line) (n column : Nat) :
    positionAfter text ≤ ⟨n + 2, column⟩ := by
  rw [positionAfter_of_not_mem fun hfeed => hline (h.subset hfeed), Position.le_iff]
  left
  show 1 < n + 2
  omega

/-- **Which beginnings of joined lines end at or before a position**: those of the text before it.
The induction goes from one line to the next one. -/
theorem positionAfter_le_iff_inLines {ls : List (List Char)} (hls : ∀ line ∈ ls, '\n' ∉ line)
    (h : text <+: ['\n'].intercalate ls) (n column : Nat) :
    positionAfter text ≤ ⟨n + 1, column⟩ ↔ text <+: beforeInLines ls n column := by
  fun_induction beforeInLines ls n column generalizing text with
  | case1 n column =>
      obtain rfl : text = [] := List.prefix_nil.1 h
      refine iff_of_true ?_ List.prefix_rfl
      show 1 < n + 1 ∨ 1 = n + 1 ∧ 0 ≤ column
      omega
  | case2 last column =>
      rw [List.intercalate_singleton] at h
      exact positionAfter_le_iff_take (hls last (List.mem_singleton.2 rfl)) h column
  | case3 last n column =>
      rw [List.intercalate_singleton] at h
      exact iff_of_true (positionAfter_le_below (hls last (List.mem_singleton.2 rfl)) h n column) h
  | case4 line next more column =>
      have hline : '\n' ∉ line := hls line List.mem_cons_self
      rw [List.intercalate_cons_cons, List.append_assoc, List.singleton_append] at h
      rcases isPrefix_append_cons_iff.1 h with hshort | ⟨rest, rfl, -⟩
      · exact positionAfter_le_iff_take hline hshort column
      · refine iff_of_false ?_ fun hlong => ?_
        · rw [positionAfter_append_cons hline, Position.le_iff]
          simp [positionAfter]
        · have hlength := hlong.length_le.trans (List.length_take_le' column line)
          simp only [List.length_append, List.length_cons] at hlength
          omega
  | case5 line next more n column ih =>
      have hline : '\n' ∉ line := hls line List.mem_cons_self
      rw [List.intercalate_cons_cons, List.append_assoc, List.singleton_append] at h
      rcases isPrefix_append_cons_iff.1 h with hshort | ⟨rest, rfl, hrest⟩
      · refine iff_of_true (positionAfter_le_below hline hshort n column) ?_
        exact hshort.trans (List.prefix_append line _)
      · have hmore := ih (fun l hl => hls l (List.mem_cons_of_mem line hl)) hrest
        rw [List.prefix_append_right_inj, List.cons_prefix_cons, ← hmore,
          positionAfter_append_cons hline, Position.le_iff, Position.le_iff]
        simp

end

/-- **Which beginnings of a source end at or before a position**: those of the text before it. -/
theorem positionAfter_le_iff {source : String} {text : List Char} (h : text <+: source.toList)
    {p : Position} (hline : 1 ≤ p.line) :
    positionAfter text ≤ p ↔ text <+: before source p := by
  obtain ⟨line, column⟩ := p
  obtain ⟨n, rfl⟩ : ∃ n, line = n + 1 := ⟨line - 1, (Nat.sub_add_cancel hline).symm⟩
  have hlines : ['\n'].intercalate (Text.lines source.toList) = source.toList :=
    List.intercalate_splitOn '\n'
  rw [← hlines] at h
  exact positionAfter_le_iff_inLines (fun _ => Text.not_mem_of_mem_lines) h n column

/-- The text before the end of a beginning of a source is that beginning. -/
theorem before_positionAfter {source : String} {text : List Char} (h : text <+: source.toList) :
    before source (positionAfter text) = text := by
  have hline : 1 ≤ (positionAfter text).line := Nat.le_add_right 1 _
  have hprefix := before_isPrefix source (positionAfter text)
  obtain ⟨more, hmore⟩ := (positionAfter_le_iff h hline).1 (Position.le_refl _)
  have hend := (positionAfter_le_iff hprefix hline).2 List.prefix_rfl
  rw [← hmore] at hend ⊢
  by_cases hnil : more = []
  · rw [hnil, List.append_nil]
  · exact absurd hend (not_positionAfter_append_le text hnil)

/-! ### Places in a source -/

/-- Whether a place in a source, counted in bytes, is its start, its end, or between two
characters. -/
def IsBoundary (source : String) (b : Nat) : Prop :=
  (⟨b⟩ : String.Pos.Raw).IsValid source

/-- The position of a place in a source: the one at the end of the text before it. -/
def positionAt (source : String) (b : Nat) : Position :=
  positionAfter (takeBytes source.toList b)

/-- As many bytes as a text has are that text. -/
theorem takeBytes_size (text rest : List Char) : takeBytes (text ++ rest) (size text) = text := by
  induction text with
  | nil => cases rest <;> rfl
  | cons c text ih =>
      have hsize : size (c :: text) ≠ 0 := by
        rw [size_cons]
        have hc := c.utf8Size_pos
        omega
      rw [List.cons_append, takeBytes, if_neg hsize, size_cons, Nat.add_sub_cancel_left, ih]

theorem positionAt_size {source : String} {text : List Char} (h : text <+: source.toList) :
    positionAt source (size text) = positionAfter text := by
  obtain ⟨rest, hrest⟩ := h
  unfold positionAt
  rw [← hrest, takeBytes_size]

/-- **Positions and offsets, tied together.**  A place between characters has a position at or
before a given one exactly when it is not behind the offset of that one. -/
theorem positionAt_le_iff {source : String} {b : Nat} (hb : IsBoundary source b) {p : Position}
    (hline : 1 ≤ p.line) : positionAt source b ≤ p ↔ b ≤ offset source p := by
  obtain ⟨text, htext, rfl⟩ := isValid_iff_isPrefix.1 hb
  rw [positionAt_size htext, positionAfter_le_iff htext hline,
    isPrefix_iff_size_le htext (before_isPrefix source p), size_before]

theorem offset_of_line_eq_zero (source : String) {p : Position} (h : p.line = 0) :
    offset source p = 0 :=
  if_pos h

/-- Offsets grow with positions. -/
theorem offset_mono (source : String) {p q : Position} (h : p ≤ q) :
    offset source p ≤ offset source q := by
  by_cases hp : p.line = 0
  · rw [offset_of_line_eq_zero source hp]
    exact Nat.zero_le _
  · have hpline : 1 ≤ p.line := Nat.one_le_iff_ne_zero.2 hp
    have hqline : 1 ≤ q.line := by
      rcases (Position.le_iff p q).1 h with hlt | ⟨heq, -⟩ <;> omega
    have hb : IsBoundary source (offset source p) := isValid_offset source p
    have hat : positionAt source (offset source p) ≤ p :=
      (positionAt_le_iff hb hpline).2 (Nat.le_refl _)
    exact (positionAt_le_iff hb hqline).1 (Position.le_trans hat h)

/-- **What an offset is.**  The offset of a position in some line is the last place between
characters whose position is at or before it; line zero stands for the start. So an offset is always
such a place, the offset of the position of such a place is that place, and offsets grow with
positions. -/
theorem offset_isGreatest (source : String) :
    (∀ p : Position, 1 ≤ p.line →
      IsGreatest {b | IsBoundary source b ∧ positionAt source b ≤ p} (offset source p)) ∧
    (∀ column, offset source ⟨0, column⟩ = 0) ∧
    (∀ p, IsBoundary source (offset source p)) ∧
    (∀ b, IsBoundary source b → offset source (positionAt source b) = b) ∧
    ∀ p q : Position, p ≤ q → offset source p ≤ offset source q := by
  have hboundary : ∀ p, IsBoundary source (offset source p) := isValid_offset source
  refine ⟨fun p hline => ⟨?_, ?_⟩, fun column => ?_, hboundary, fun b hb => ?_,
    fun p q => offset_mono source⟩
  · exact ⟨hboundary p, (positionAt_le_iff (hboundary p) hline).2 (Nat.le_refl _)⟩
  · rintro b ⟨hb, hle⟩
    exact (positionAt_le_iff hb hline).1 hle
  · exact offset_of_line_eq_zero source rfl
  · obtain ⟨text, htext, rfl⟩ := isValid_iff_isPrefix.1 hb
    rw [positionAt_size htext, ← size_before, before_positionAfter htext]

example : offset "né\nà b" ⟨2, 1⟩ = 6 ∧ offset "né\nà b" ⟨1, 9⟩ = 3 ∧
    offset "né\nà b" ⟨7, 0⟩ = 8 := by
  decide

end Source

end TemplateLint
