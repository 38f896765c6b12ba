import TemplateLint.Diagnostic
import TemplateLint.Text.Basic

/-!
# Offsets and labels

The place of a position in the UTF-8 form of a source. A column beyond the end of its line stands
for the end of the line, and a line beyond the last one for the end of the source; line zero stands
for the start.

A diagnostic marks a stretch of bytes of its source and puts a label under it. A span that ends
before it starts marks nothing at its start.

## Main definitions

* `Source.size`: the length of a text in bytes
* `Source.offset`: the offset of a position in bytes
* `Label`: a marked stretch and its text
* `Label.ofDiagnostic`: the label of a diagnostic in a source
* `Diagnostic.headline`: the line above an annotated source
-/

namespace TemplateLint

/-! ### Offsets -/

namespace Source

/-- The length of a text in bytes of UTF-8. -/
def size : List Char → Nat
  | [] => 0
  | c :: cs => c.utf8Size + size cs

/-- The offset of a position whose line is counted from zero, in a source given by its lines. -/
def offsetInLines : List (List Char) → Nat → Nat → Nat
  | [], _, _ => 0
  | [last], 0, column => size (last.take column)
  | [last], _ + 1, _ => size last
  | line :: _ :: _, 0, column => size (line.take column)
  | line :: next :: more, n + 1, column => size line + 1 + offsetInLines (next :: more) n column

/-- The offset of a position in bytes. -/
def offset (source : String) (p : Position) : Nat :=
  if p.line = 0 then 0
  else offsetInLines (Text.lines source.toList) (p.line - 1) p.column

end Source

/-! ### Labels -/

/-- A marked stretch of a source, in bytes, and what is said about it. -/
structure Label where
  offset : Nat
  length : Nat
  text : String
  deriving DecidableEq, Repr

/-- The label of a diagnostic in a source. -/
def Label.ofDiagnostic (d : Diagnostic) (source : String) : Label :=
  let first := Source.offset source d.span.start
  let last := max (Source.offset source d.span.finish) first
  ⟨first, last - first, d.severity.name ++ ": forbidden here"⟩

/-- What stands above an annotated source. -/
def Diagnostic.headline (d : Diagnostic) : String :=
  "[" ++ d.rule ++ "] " ++ d.message

end TemplateLint
