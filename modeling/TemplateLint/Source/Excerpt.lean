import TemplateLint.Source.Label

/-!
# Excerpts of a source

A label is shown in an excerpt of its source: the lines that it touches, with one more line before
and after. For the choice of the excerpt, and for the place in its heading, a line ends with a line
feed, with a carriage return, or with both. The excerpt itself is shown in lines that end with a
line feed, before which a carriage return may stand; any other carriage return stays in its line.

All places are counted in bytes.

## Main definitions

* `Source.LineEnd`, `Source.lineEnds`: where the lines of a source end
* `Excerpt`: the place of a label and the rows around it
* `Excerpt.of`: the excerpt of a source for a label
-/

namespace TemplateLint

namespace Source

/-- The end of a line: its first and its last byte. -/
structure LineEnd where
  first : Nat
  last : Nat
  deriving DecidableEq, Repr

/-- The ends of the lines in the rest of a source, which begins at `offset`. -/
def lineEndsFrom (offset : Nat) : List Char → List LineEnd
  | '\r' :: '\n' :: cs => ⟨offset, offset + 1⟩ :: lineEndsFrom (offset + 2) cs
  | '\r' :: cs => ⟨offset, offset⟩ :: lineEndsFrom (offset + 1) cs
  | '\n' :: cs => ⟨offset, offset⟩ :: lineEndsFrom (offset + 1) cs
  | c :: cs => lineEndsFrom (offset + c.utf8Size) cs
  | [] => []

/-- The ends of the lines of a source. -/
def lineEnds (cs : List Char) : List LineEnd :=
  lineEndsFrom 0 cs

/-- A text without its first bytes. -/
def dropBytes : List Char → Nat → List Char
  | [], _ => []
  | c :: cs, n => if n = 0 then c :: cs else dropBytes cs (n - c.utf8Size)

/-- The first bytes of a text. -/
def takeBytes : List Char → Nat → List Char
  | [], _ => []
  | c :: cs, n => if n = 0 then [] else c :: takeBytes cs (n - c.utf8Size)

end Source

/-- A line of an excerpt. -/
structure Excerpt.Row where
  /-- The number that is shown before the line. -/
  number : Nat
  /-- The place of its first byte in the source. -/
  offset : Nat
  /-- The number of its bytes, its end included. -/
  length : Nat
  /-- What stands before its end. -/
  text : List Char
  deriving DecidableEq, Repr

/-- The place of a label, and the rows around it. -/
structure Excerpt where
  /-- The line of the label and the column of its first byte, both counted from one. -/
  line : Nat
  column : Nat
  rows : List Excerpt.Row
  deriving DecidableEq, Repr

namespace Excerpt

/-- The rows of an excerpt. `number` is the number of lines before the current one, `offset` is
where it begins and `text` is what has been read of it, in reverse. The last row has the number of
the row before it when all that ends it is a carriage return. -/
def rowsFrom (number offset : Nat) (text : List Char) : List Char → List Row
  | [] =>
    if text.isEmpty then []
    else
      let last := if text.head? = some '\r' then number else number + 1
      [⟨last, offset, Source.size text, text.reverse⟩]
  | '\r' :: '\n' :: cs =>
    let length := Source.size text + 2
    ⟨number + 1, offset, length, text.reverse⟩ :: rowsFrom (number + 1) (offset + length) [] cs
  | '\n' :: cs =>
    let length := Source.size text + 1
    ⟨number + 1, offset, length, text.reverse⟩ :: rowsFrom (number + 1) (offset + length) [] cs
  | c :: cs => rowsFrom number offset (c :: text) cs

/-- Where the last but one of some line ends lies behind, or the start of the source. -/
def startOf (before : List Source.LineEnd) : Nat :=
  match before.reverse with
  | _ :: e :: _ => e.last + 1
  | _ => 0

/-- Where the second of some line ends lies behind, or the end of the source. -/
def stopOf (after : List Source.LineEnd) (size : Nat) : Nat :=
  match after with
  | _ :: e :: _ => e.last + 1
  | _ => size

/-- The column of a byte, counted from one, given the line ends before it. A carriage return does
not count when the line feed that belongs to it is the byte itself. -/
def columnOf (ends before : List Source.LineEnd) (offset : Nat) : Nat :=
  let start := (before.getLast?.map (·.last + 1)).getD 0
  let straddled := ends.any fun e => e.first < offset ∧ e.last = offset
  offset - start - (if straddled then 1 else 0) + 1

/-- The excerpt of a source for a label. -/
def ofLabel (source : String) (label : Label) : Excerpt :=
  let cs := source.toList
  let ends := Source.lineEnds cs
  let before := ends.filter (·.last < label.offset)
  let after := ends.filter (label.offset + label.length - 1 < ·.first)
  let start := startOf before
  let stop := stopOf after (Source.size cs)
  { line := before.length + 1
    column := columnOf ends before label.offset
    rows := rowsFrom (before.length - 1) start []
      (Source.takeBytes (Source.dropBytes cs start) (stop - start)) }

end Excerpt

end TemplateLint
