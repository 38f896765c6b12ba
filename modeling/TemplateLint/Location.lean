import TemplateLint.Json.Decode
import TemplateLint.Text.Basic

/-!
# Locations

Positions and spans in the source of a template. Lines are counted from one and columns, in
characters, from zero; the end of a span is the position after its last character.

A span covers the text between its two positions. A span that begins at line zero, that ends before
it starts, or that ends in a line which the source does not have covers nothing. Columns beyond the
end of a line stand for its end.

## Main definitions

* `Position`, ordered by line and then by column
* `Span`: a start and an end
* encoders and decoders for both
* `Source.slice`: a part of a line
* `Source.quote`: the text covered by a span
-/

namespace TemplateLint

open Json (Place Record Decoder)

/-- A position in a source. -/
structure Position where
  /-- The line, counted from one. -/
  line : Nat
  /-- The column in characters, counted from zero. -/
  column : Nat
  deriving DecidableEq, Repr, Inhabited

namespace Position

/-- One position is at or before another one when its line is smaller, or the line is the same and
the column is not greater. -/
instance : LE Position where
  le p q := p.line < q.line ∨ p.line = q.line ∧ p.column ≤ q.column

instance (p q : Position) : Decidable (p ≤ q) :=
  inferInstanceAs (Decidable (p.line < q.line ∨ p.line = q.line ∧ p.column ≤ q.column))

theorem le_iff (p q : Position) :
    p ≤ q ↔ p.line < q.line ∨ p.line = q.line ∧ p.column ≤ q.column := Iff.rfl

theorem le_refl (p : Position) : p ≤ p := Or.inr ⟨rfl, Nat.le_refl _⟩

theorem le_trans {p q r : Position} (h₁ : p ≤ q) (h₂ : q ≤ r) : p ≤ r := by
  simp only [le_iff] at *
  omega

theorem le_total (p q : Position) : p ≤ q ∨ q ≤ p := by
  simp only [le_iff]
  omega

theorem le_antisymm {p q : Position} (h₁ : p ≤ q) (h₂ : q ≤ p) : p = q := by
  cases p
  cases q
  simp only [le_iff, mk.injEq] at *
  omega

/-- Positions in increasing order. -/
def sort (ps : List Position) : List Position :=
  ps.mergeSort fun p q => p ≤ q

/-- The fields of a position. -/
def record : Record := ⟨"Position", ["line", "column"]⟩

/-- A position as data. -/
def encode (p : Position) : Json :=
  .obj [("line", .nat p.line), ("column", .nat p.column)]

/-- Reads a position. -/
def decode (place : Place) : Decoder Position :=
  record.decode place fun s =>
    mk <$> s.required "line" Json.natural <*> s.required "column" Json.natural

end Position

/-- A stretch of a source. -/
structure Span where
  start : Position
  /-- The position after the last character. -/
  finish : Position
  deriving DecidableEq, Repr

namespace Span

/-- The span of a node that does not say where it stands: line zero, which is in no source. -/
def unknown : Span := ⟨⟨0, 0⟩, ⟨0, 0⟩⟩

instance : Inhabited Span := ⟨unknown⟩

/-- The fields of a span. -/
def record : Record := ⟨"SourceLocation", ["start", "end"]⟩

/-- A span as data. -/
def encode (s : Span) : Json :=
  .obj [("start", s.start.encode), ("end", s.finish.encode)]

/-- Reads a span. -/
def decode (place : Place) : Decoder Span :=
  record.decode place fun s =>
    mk <$> s.required "start" (Position.decode place) <*> s.required "end" (Position.decode place)

end Span

/-! ### Quotations -/

namespace Source

/-- The characters of a line from one column to before another one. -/
def slice (line : List Char) (first last : Nat) : List Char :=
  (line.drop first).take (last - first)

/-- The lines of a text between two lines, both included, of which the first one is cut at the
front and the last one at the end. -/
def joinLines (first : List Char) (between : List (List Char)) (last : List Char) : List Char :=
  ['\n'].intercalate (first :: between ++ [last])

/-- The text that a span covers in a source. -/
def quoteChars (source : List Char) (span : Span) : List Char :=
  let lines := Text.lines source
  if span.start.line = 0 ∨ ¬ span.start ≤ span.finish ∨ lines.length < span.finish.line then []
  else
    let line (n : Nat) : List Char := lines[n - 1]?.getD []
    if span.start.line = span.finish.line then
      slice (line span.start.line) span.start.column span.finish.column
    else
      joinLines ((line span.start.line).drop span.start.column)
        ((lines.drop span.start.line).take (span.finish.line - 1 - span.start.line))
        ((line span.finish.line).take span.finish.column)

/-- The text that a span covers in a source. -/
def quote (source : String) (span : Span) : String :=
  String.ofList (quoteChars source.toList span)

end Source

end TemplateLint
