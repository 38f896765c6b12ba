/-!
# Lines, tokens and sets of characters

A text is a list of characters. Its lines stand between line feeds, and its tokens are its longest
runs of characters that are not blank; a class attribute, for instance, holds one token per class
name.

A set of characters is a list of ranges of code points, in increasing order and apart from each
other. It is written as text: the ranges stand between blanks, and a range is one hexadecimal
number, or two with a hyphen between them.

## Main definitions

* `Text.lines`: what stands between line feeds
* `Text.isBlank`: the characters with the Unicode property `White_Space`
* `Text.tokens`: the tokens of a text
* `Text.CharSet`, `Text.CharSet.ofText`: a set of characters, and the set that a text spells
* `Text.CharSet.contains`: whether a character is in a set
-/

namespace TemplateLint.Text

/-- The lines of a text: what stands between its line feeds. -/
def lines (cs : List Char) : List (List Char) :=
  cs.splitOn '\n'

/-! ### Tokens -/

/-- The ranges of code points with the property `White_Space`, both ends included. -/
def blankRanges : List (Nat × Nat) :=
  [(0x09, 0x0D), (0x20, 0x20), (0x85, 0x85), (0xA0, 0xA0), (0x1680, 0x1680), (0x2000, 0x200A),
    (0x2028, 0x2029), (0x202F, 0x202F), (0x205F, 0x205F), (0x3000, 0x3000)]

/-- Whether a character has the property `White_Space`. -/
def isBlank (c : Char) : Bool :=
  blankRanges.any fun (first, last) => first ≤ c.toNat && c.toNat ≤ last

/-- The tokens of a text in order. -/
def tokens (cs : List Char) : List (List Char) :=
  (cs.splitOnP isBlank).filter (! ·.isEmpty)

/-! ### Sets of characters -/

/-- A set of characters: the first and the last code points of its ranges. -/
structure CharSet where
  ranges : Array (Nat × Nat)

namespace CharSet

/-- The number that a hexadecimal digit stands for; other characters stand for zero. -/
def digitValue (c : Char) : Nat :=
  if c.isDigit then c.toNat - '0'.toNat
  else if 'A' ≤ c ∧ c ≤ 'F' then c.toNat - 'A'.toNat + 10
  else 0

/-- The number that hexadecimal digits spell. -/
def number (digits : List Char) : Nat :=
  digits.foldl (fun n c => 16 * n + digitValue c) 0

/-- The range that is written as `first-last`, or as one number. -/
def rangeOf (token : List Char) : Nat × Nat :=
  match token.splitOn '-' with
  | [first, last] => (number first, number last)
  | _ => (number token, number token)

/-- The set that a text spells. -/
def ofText (s : String) : CharSet :=
  ⟨((tokens s.toList).map rangeOf).toArray⟩

/-- Whether a code point is in one of the ranges whose places are at least `low` and below
`high`. The range in the middle tells in which half to go on. -/
def containsBetween (ranges : Array (Nat × Nat)) (n low high : Nat) : Bool :=
  if low < high then
    let middle := (low + high) / 2
    match ranges[middle]? with
    | none => false
    | some (first, last) =>
      if n < first then containsBetween ranges n low middle
      else if last < n then containsBetween ranges n (middle + 1) high
      else true
  else false
termination_by high - low

/-- Whether a character is in a set. -/
def contains (s : CharSet) (c : Char) : Bool :=
  containsBetween s.ranges c.toNat 0 s.ranges.size

end CharSet

end TemplateLint.Text
