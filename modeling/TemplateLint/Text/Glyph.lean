import TemplateLint.Text.Width

/-!
# Control sequences of terminals

A text for a terminal may hold sequences that begin with the escape character and are not shown,
such as those that switch colours. A sequence that begins with a bracket goes on to its first
letter or sign from `@` to `~`; a command to the operating system goes on to a bell, or to an
escape character with a backslash after it; every other sequence is the escape character and the
one after it. A sequence that has no end takes all the rest of the text.

## Main definitions

* `Text.Glyph`: a character that is shown, or a sequence
* `Text.glyphs`: the glyphs of a text
* `Text.displayWidth`: the columns that a text takes
-/

namespace TemplateLint.Text

/-- A piece of a text for a terminal. -/
inductive Glyph where
  /-- A character that is shown. -/
  | shown (c : Char)
  /-- A control sequence. -/
  | control (sequence : List Char)
  deriving DecidableEq, Repr

/-- Where a reader of glyphs is. -/
inductive Glyph.Reading where
  /-- Between two glyphs. -/
  | text
  /-- Behind an escape character. -/
  | escaped
  /-- In a sequence that began with a bracket. -/
  | bracketed
  /-- In a command; `closing` tells whether the last character was an escape character. -/
  | command (closing : Bool)
  deriving DecidableEq, Repr

/-- Where a reader is behind one more character of a sequence. -/
def Glyph.Reading.next (r : Glyph.Reading) (c : Char) : Glyph.Reading :=
  match r with
  | .text => .text
  | .escaped => if c = '[' then .bracketed else if c = ']' then .command false else .text
  | .bracketed => if '@' ≤ c ∧ c ≤ '~' then .text else .bracketed
  | .command closing =>
    if c = '\x07' ∨ (c = '\\' ∧ closing) then .text else .command (c = '\x1b')

/-- The glyphs of the rest of a text; `sequence` is what has been read of a sequence, in
reverse. -/
def glyphsFrom (r : Glyph.Reading) (sequence : List Char) : List Char → List Glyph
  | [] => if sequence.isEmpty then [] else [.control sequence.reverse]
  | c :: cs =>
    if r = .text then
      if c = '\x1b' then glyphsFrom .escaped [c] cs
      else .shown c :: glyphsFrom .text [] cs
    else if r.next c = .text then .control (c :: sequence).reverse :: glyphsFrom .text [] cs
    else glyphsFrom (r.next c) (c :: sequence) cs

/-- The glyphs of a text. -/
def glyphs (cs : List Char) : List Glyph :=
  glyphsFrom .text [] cs

/-- The character of a glyph, if it is shown. -/
def Glyph.char? : Glyph → Option Char
  | .shown c => some c
  | .control _ => none

/-- How many columns a text takes. -/
def displayWidth (cs : List Char) : Nat :=
  (((glyphs cs).filterMap Glyph.char?).map (charWidth .unicode17)).foldr (· + ·) 0

end TemplateLint.Text
