import TemplateLint.Source.Label

/-!
# The text before a position

The offset of a position is the size of the text before it, and that text is a beginning of the
source. A position in a line of the source has all earlier lines before it, and what its own line
holds up to its column.

## Main definitions

* `Source.before`: the text before a position

## Main statements

* `Source.size_before`: the size of that text is the offset of the position
* `Source.before_isPrefix`: that text is a beginning of the source
* `Source.before_eq_of_lt`: that text as lines
-/

namespace TemplateLint

namespace Text

/-! ### Lines -/

/-- There is one line more than there are line feeds. -/
theorem length_lines (cs : List Char) : (lines cs).length = cs.count '\n' + 1 := by
  induction cs with
  | nil => rfl
  | cons c cs ih =>
      unfold lines at ih ⊢
      rw [List.splitOn_cons_eq_if_modifyHead]
      by_cases hc : c = '\n'
      · rw [if_pos (beq_iff_eq.2 hc), hc, List.length_cons, ih, List.count_cons_self]
      · rw [if_neg (mt beq_iff_eq.1 hc), List.length_modifyHead, ih, List.count_cons_of_ne hc]

end Text

namespace Source

/-! ### Sizes -/

@[simp]
theorem size_nil : size [] = 0 := rfl

@[simp]
theorem size_cons (c : Char) (cs : List Char) : size (c :: cs) = c.utf8Size + size cs := rfl

@[simp]
theorem size_append (cs ds : List Char) : size (cs ++ ds) = size cs + size ds := by
  induction cs with
  | nil => simp
  | cons c cs ih => rw [List.cons_append, size_cons, size_cons, ih, Nat.add_assoc]

theorem utf8ByteSize_ofList (cs : List Char) : (String.ofList cs).utf8ByteSize = size cs := by
  induction cs with
  | nil => rfl
  | cons c cs ih =>
      rw [← List.singleton_append, String.ofList_append, String.utf8ByteSize_append, ih,
        size_append]
      simp

theorem size_toList (s : String) : size s.toList = s.utf8ByteSize := by
  rw [← utf8ByteSize_ofList, String.ofList_toList]

@[simp]
theorem size_eq_zero_iff {cs : List Char} : size cs = 0 ↔ cs = [] := by
  cases cs with
  | nil => simp
  | cons c cs =>
      have hc := c.utf8Size_pos
      rw [size_cons]
      simp
      omega

/-- Of two beginnings of a text the one that is not longer is a beginning of the other one. -/
theorem isPrefix_iff_size_le {cs text text' : List Char} (h : text <+: cs) (h' : text' <+: cs) :
    text <+: text' ↔ size text ≤ size text' := by
  constructor
  · rintro ⟨more, rfl⟩
    rw [size_append]
    exact Nat.le_add_right _ _
  · intro hsize
    rcases List.prefix_or_prefix_of_prefix h h' with hprefix | ⟨more, rfl⟩
    · exact hprefix
    · rw [size_append] at hsize
      obtain rfl : more = [] := size_eq_zero_iff.1 (by omega)
      simp

/-- A place stands between two characters when the bytes before it are a beginning of the text. -/
theorem isValid_iff_isPrefix {s : String} {b : Nat} :
    (⟨b⟩ : String.Pos.Raw).IsValid s ↔ ∃ text, text <+: s.toList ∧ size text = b := by
  rw [String.Pos.Raw.isValid_iff_exists_append]
  constructor
  · rintro ⟨front, back, rfl, hb⟩
    refine ⟨front.toList, ⟨back.toList, (String.toList_append).symm⟩, ?_⟩
    rw [size_toList]
    exact (congrArg String.Pos.Raw.byteIdx hb).symm
  · rintro ⟨text, ⟨rest, hrest⟩, rfl⟩
    refine ⟨String.ofList text, String.ofList rest, ?_, ?_⟩
    · rw [← String.ofList_append, hrest, String.ofList_toList]
    · rw [← utf8ByteSize_ofList]
      rfl

/-! ### Positions in lines -/

/-- The text before a position whose line is counted from zero, in a source given by its lines. -/
def beforeInLines : List (List Char) → Nat → Nat → List Char
  | [], _, _ => []
  | [last], 0, column => last.take column
  | [last], _ + 1, _ => last
  | line :: _ :: _, 0, column => line.take column
  | line :: next :: more, n + 1, column => line ++ '\n' :: beforeInLines (next :: more) n column

theorem size_beforeInLines (ls : List (List Char)) (n column : Nat) :
    size (beforeInLines ls n column) = offsetInLines ls n column := by
  fun_induction beforeInLines ls n column with
  | case1 => rfl
  | case2 => rfl
  | case3 => rfl
  | case4 => rfl
  | case5 line next more n column ih =>
      have hfeed : Char.utf8Size '\n' = 1 := rfl
      rw [size_append, size_cons, ih, hfeed, offsetInLines, Nat.add_assoc]

theorem beforeInLines_isPrefix (ls : List (List Char)) (n column : Nat) :
    beforeInLines ls n column <+: ['\n'].intercalate ls := by
  fun_induction beforeInLines ls n column with
  | case1 => exact List.nil_prefix
  | case2 last column =>
      rw [List.intercalate_singleton]
      exact List.take_prefix column last
  | case3 last => exact ⟨[], by rw [List.append_nil, List.intercalate_singleton]⟩
  | case4 line next more column =>
      rw [List.intercalate_cons_cons, List.append_assoc]
      exact (List.take_prefix column line).trans (List.prefix_append line _)
  | case5 line next more n column ih =>
      obtain ⟨rest, hrest⟩ := ih
      refine ⟨rest, ?_⟩
      rw [List.intercalate_cons_cons, List.append_assoc, List.cons_append, hrest, List.append_assoc,
        List.singleton_append]

/-- A position in a line has the lines before that line in front of it. -/
theorem beforeInLines_eq_of_lt {ls : List (List Char)} {n : Nat} (h : n < ls.length)
    (column : Nat) :
    beforeInLines ls n column = ['\n'].intercalate (ls.take n ++ [ls[n].take column]) := by
  induction ls generalizing n with
  | nil => cases h
  | cons line rest ih =>
      cases n with
      | zero =>
          have hfirst : beforeInLines (line :: rest) 0 column = line.take column := by
            cases rest <;> rfl
          rw [hfirst]
          exact List.intercalate_singleton.symm
      | succ n =>
          -- A line feed follows the first line, since the position stands in a later one.
          have hn : n < rest.length := Nat.lt_of_succ_lt_succ h
          cases rest with
          | nil => cases hn
          | cons next more =>
              rw [beforeInLines, ih hn, List.take_succ_cons, List.cons_append,
                List.intercalate_cons_of_ne_nil (by simp), List.append_assoc,
                List.singleton_append]
              rfl

/-! ### Positions -/

/-- The text before a position. -/
def before (source : String) (p : Position) : List Char :=
  if p.line = 0 then [] else beforeInLines (Text.lines source.toList) (p.line - 1) p.column

/-- **An offset counts the text before the position.** -/
theorem size_before (source : String) (p : Position) :
    size (before source p) = offset source p := by
  unfold before offset
  split
  · rfl
  · exact size_beforeInLines _ _ _

/-- **The text before a position is a beginning of the source.** -/
theorem before_isPrefix (source : String) (p : Position) : before source p <+: source.toList := by
  unfold before
  split
  · exact List.nil_prefix
  · have h := beforeInLines_isPrefix (Text.lines source.toList) (p.line - 1) p.column
    rwa [Text.lines, List.intercalate_splitOn] at h

/-- The text before a position whose line the source has. -/
theorem before_eq_of_lt {source : String} {n : Nat}
    (h : n < (Text.lines source.toList).length) (column : Nat) :
    before source ⟨n + 1, column⟩ =
      ['\n'].intercalate ((Text.lines source.toList).take n ++
        [(Text.lines source.toList)[n].take column]) :=
  beforeInLines_eq_of_lt h column

/-- The bytes before a position are part of the source. -/
theorem offset_le (source : String) (p : Position) : offset source p ≤ source.utf8ByteSize := by
  obtain ⟨rest, hrest⟩ := before_isPrefix source p
  rw [← size_before, ← size_toList, ← hrest, size_append]
  exact Nat.le_add_right _ _

/-- An offset stands between two characters. -/
theorem isValid_offset (source : String) (p : Position) :
    (⟨offset source p⟩ : String.Pos.Raw).IsValid source :=
  isValid_iff_isPrefix.2 ⟨before source p, before_isPrefix source p, size_before source p⟩

end Source

end TemplateLint
