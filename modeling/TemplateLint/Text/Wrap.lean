import TemplateLint.Text.Alphanumeric
import TemplateLint.Text.Glyph
import TemplateLint.Text.LineBreak

/-!
# Wrapping text

A text is broken into lines no wider than a given width. A word ends where a line may be broken,
but a hyphen ends a word only between two letters or digits, and a soft hyphen never does; spaces
at a break are dropped. Words are put on a line as long as they fit, and a word that is wider than
a line is cut.

The end of a text is a place for a break too. The last of all these places is not used: it is the
end itself, unless the text ends with a hyphen.

Control sequences take no columns and are never cut by a break: a break stands before the sequences
that stand before a character.

## Main definitions

* `Text.Word`: a piece that stays together
* `Text.words`: the words of a text for a width
* `Text.wrap`: the lines of a text
-/

namespace TemplateLint.Text

/-! ### Places for breaks -/

/-- Whether a character is a hyphen or a soft hyphen. -/
def isHyphen (c : Char) : Bool :=
  c = '-' || c = '\xAD'

/-- The marks without those behind a hyphen; `last` is the character before the first mark. -/
def withoutHyphens (last : Option Char) : List Char → List Bool → List Bool
  | c :: cs, b :: bs => (b && ! last.any isHyphen) :: withoutHyphens (some c) cs bs
  | _, _ => []

/-- The marks without the last one that is set. -/
def withoutLast : List Bool → List Bool
  | [] => []
  | b :: bs => if bs.any id then b :: withoutLast bs else false :: bs

/-- For every character that is shown, whether a word begins with it. The text itself is the
first word. -/
def wordStarts (cs : List Char) : List Bool :=
  let marks := withoutHyphens none cs (breaks cs)
  if cs.getLast?.any isHyphen then withoutLast marks else marks

/-- Glyphs cut before the marked ones and the sequences that stand before those. `piece` is the
current piece and `pending` the sequences after it, both in reverse. -/
def cutGlyphs (piece pending : List Char) : List Glyph → List Bool → List (List Char)
  | .control sequence :: gs, bs => cutGlyphs piece (sequence.reverse ++ pending) gs bs
  | .shown c :: gs, b :: bs =>
    if b then piece.reverse :: cutGlyphs (c :: pending) [] gs bs
    else cutGlyphs (c :: (pending ++ piece)) [] gs bs
  | _, _ => [(pending ++ piece).reverse]

/-- The pieces of a text between the places for breaks. -/
def pieces (cs : List Char) : List (List Char) :=
  let gs := glyphs cs
  cutGlyphs [] [] gs (wordStarts (gs.filterMap Glyph.char?))

/-! ### Words -/

/-- A piece that stays together, and the spaces after it. -/
structure Word where
  chars : List Char
  spaces : Nat
  deriving DecidableEq, Repr

/-- A piece of text with the spaces at its end apart. -/
def Word.ofPiece (piece : List Char) : Word :=
  let chars := (piece.reverse.dropWhile (· = ' ')).reverse
  ⟨chars, piece.length - chars.length⟩

/-- A word cut after every hyphen between two letters or digits. -/
def splitHyphens : List Char → List (List Char)
  | a :: '-' :: b :: rest =>
    if isAlphanumeric a ∧ isAlphanumeric b then [a, '-'] :: splitHyphens (b :: rest)
    else match splitHyphens ('-' :: b :: rest) with
      | [] => [[a]]
      | piece :: more => (a :: piece) :: more
  | a :: rest =>
    match splitHyphens rest with
    | [] => [[a]]
    | piece :: more => (a :: piece) :: more
  | [] => []

/-- Glyphs cut into pieces of at most `width` columns. `piece` is the current piece in reverse and
`used` the number of its columns. -/
def chunks (width : Nat) (piece : List Char) (used : Nat) : List Glyph → List (List Char)
  | [] => [piece.reverse]
  | .control sequence :: gs => chunks width (sequence.reverse ++ piece) used gs
  | .shown c :: gs =>
    let columns := charWidth .unicode17 c
    if 0 < used ∧ width < used + columns then piece.reverse :: chunks width [c] columns gs
    else chunks width (c :: piece) (used + columns) gs

/-- A word that is wider than `width` cut into pieces. -/
def fitting (width : Nat) (cs : List Char) : List (List Char) :=
  if displayWidth cs ≤ width then [cs] else chunks width [] 0 (glyphs cs)

/-- The parts of a word, of which the last one has the spaces of the word. -/
def Word.parts (w : Word) (pieces : List (List Char)) : List Word :=
  match pieces.reverse with
  | [] => [w]
  | last :: front => front.reverse.map (⟨·, 0⟩) ++ [⟨last, w.spaces⟩]

/-- The words of a text for lines of a given width. -/
def words (width : Nat) (cs : List Char) : List Word :=
  let whole := (pieces cs).map Word.ofPiece
  let split := whole.flatMap fun w => w.parts (splitHyphens w.chars)
  split.flatMap fun w => w.parts (fitting width w.chars)

/-! ### Lines -/

/-- Words put on lines as long as they fit. `line` is the current line, `used` the number of
columns that it takes with the spaces after it, and `gap` the number of these spaces. -/
def fill (width : Nat) (line : List Char) (used gap : Nat) : List Word → List (List Char)
  | [] => [line]
  | w :: ws =>
    let columns := displayWidth w.chars
    if width < used + columns then line :: fill width w.chars (columns + w.spaces) w.spaces ws
    else
      fill width (line ++ List.replicate gap ' ' ++ w.chars) (used + columns + w.spaces) w.spaces ws

/-- The lines of a text that itself has no line breaks. -/
def wrap (width : Nat) (cs : List Char) : List (List Char) :=
  fill width [] 0 0 (words width cs)

end TemplateLint.Text
