import TemplateLint.Source.Excerpt
import TemplateLint.Text.Wrap

/-!
# Annotated sources

A diagnostic is shown above an excerpt of the source that it is about. A label inside one row is
underlined, and its text hangs from the middle of the underline. A label that runs over several rows
is drawn along their left side, and its text follows the row in which it ends. A label that lies
behind the last byte of the source is not drawn.

## Main definitions

* `Annotation.header`: the message, wrapped
* `Annotation.Stretch`: the marked bytes, and how they lie to a row
* `Annotation.render`: the annotated source
-/

namespace TemplateLint.Annotation

/-! ### The message -/

/-- How many columns of the terminal are used. -/
def pageWidth : Nat := 78

/-- The columns that the head of a line takes before the message. -/
def indent : Nat := 4

/-- Heads put before the lines of a message: one before the first line and another one before
those after it. -/
def headed (first rest : String) : List (List Char) → String
  | [] => ""
  | line :: more =>
    first ++ String.ofList line ++ "\n" ++
      String.join (more.map fun l => rest ++ String.ofList l ++ "\n")

/-- The message of a diagnostic, wrapped. -/
def header (message : String) : String :=
  headed "  × " "  │ " <|
    (Text.lines message.toList).flatMap (Text.wrap (pageWidth - indent))

/-! ### Columns of a row -/

/-- How wide a tab may be. -/
def tabWidth : Nat := 4

/-- The characters of a row with the columns that they take. A tab goes on to the next multiple of
its width, and an escape character hides everything up to the next `m`; `column` is where the row
goes on, and `hidden` tells whether it is hidden there. -/
def columns (column : Nat) (hidden : Bool) : List Char → List (Char × Nat)
  | [] => []
  | c :: cs =>
    if hidden then (c, 0) :: columns column (c ≠ 'm') cs
    else if c = '\x1b' then (c, 0) :: columns column true cs
    else
      let width := if c = '\t' then tabWidth - column % tabWidth else Text.charWidth .unicode15 c
      (c, width) :: columns (column + width) false cs

/-- A row with spaces in place of its tabs. -/
def expandTabs (text : List Char) : List Char :=
  (columns 0 false text).flatMap fun (c, width) =>
    if c = '\t' then List.replicate width ' ' else [c]

/-- The column at which a byte of the source is shown. Whatever lies behind the text of its row is
one column behind the text. -/
def columnAt (row : Excerpt.Row) (offset : Nat) : Nat :=
  let bytes := offset - row.offset
  let before := Source.takeBytes row.text bytes
  ((columns 0 false before).map (·.2)).foldr (· + ·) 0 +
    if Source.size row.text < bytes then 1 else 0

/-! ### How a label lies to a row -/

/-- The marked bytes: the first one, and the one behind the last one. -/
structure Stretch where
  first : Nat
  behind : Nat
  deriving DecidableEq, Repr

namespace Stretch

variable (s : Stretch) (r : Excerpt.Row)

/-- The byte behind a stretch that is no shorter than a byte. -/
def reach : Nat := max s.behind (s.first + 1)

/-- Whether the stretch lies inside a row. -/
def isInside : Bool :=
  r.offset ≤ s.first && s.behind ≤ r.offset + r.length

/-- Whether the first byte is in a row. -/
def startsIn : Bool :=
  r.offset ≤ s.first && s.first < r.offset + r.length

/-- Whether the last byte is in a row. -/
def endsIn : Bool :=
  r.offset < s.reach && s.reach ≤ r.offset + r.length

/-- Whether the stretch covers a row and goes on behind it. -/
def passes : Bool :=
  s.first < r.offset && r.offset + r.length < s.reach

/-- Whether a row has something of the stretch. -/
def meets : Bool :=
  s.startsIn r || s.passes r || s.endsIn r

/-- Whether the stretch is drawn at the side of a row. -/
def isAside : Bool :=
  s.meets r && ! (s.startsIn r && s.endsIn r)

/-- Whether the text of the label follows a row. -/
def closesAt : Bool :=
  s.first < r.offset && r.offset ≤ s.behind && s.behind ≤ r.offset + r.length

end Stretch

/-! ### Rows -/

/-- A number at the end of a field. -/
def alignRight (width n : Nat) : String :=
  let digits := toString n
  String.ofList (List.replicate (width - digits.length) ' ') ++ digits

/-- A number of spaces. -/
def blanks (n : Nat) : String :=
  String.ofList (List.replicate n ' ')

/-- Blanks in the place of a row's number, with those around it. -/
def gutter (width : Nat) : String :=
  blanks (width + 2)

/-- What is drawn of a label at the side of a row, if anything is drawn at the side of any row. -/
def side (s : Stretch) (r : Excerpt.Row) : String :=
  if ! s.isAside r then "    "
  else if r.offset ≤ s.first then "╭─▶ "
  else if s.closesAt r then "├─▶ "
  else if s.passes r then "│   "
  else "    "

/-- The columns of an underline: the first one and the one behind the last one. It is never
empty. -/
def underlined (s : Stretch) (r : Excerpt.Row) : Nat × Nat :=
  let first := columnAt r s.first
  (first, max (columnAt r s.behind) (first + 1))

/-- The underline of a stretch with the start of the label's hook; an empty stretch is pointed
at. -/
def underline (s : Stretch) (first behind : Nat) : String :=
  let hook := (first + behind) / 2
  blanks first ++ String.ofList (List.replicate (hook - first) '─') ++
    (if s.behind = s.first then "▲" else "┬") ++
    String.ofList (List.replicate (behind - hook - 1) '─')

/-- The label on its hook. -/
def hook (first behind : Nat) (text : String) : String :=
  blanks ((first + behind) / 2) ++ "╰── " ++ text

/-- What is drawn of a label below a row. -/
def below (width : Nat) (s : Stretch) (r : Excerpt.Row) (text : String) : String :=
  let marked := gutter width ++ "· "
  if s.isInside r then
    if s.meets r then
      let (first, behind) := underlined s r
      marked ++ underline s first behind ++ "\n" ++ marked ++ hook first behind text ++ "\n"
    else ""
  else if s.meets r && s.closesAt r then marked ++ "╰──── " ++ text ++ "\n"
  else ""

/-- A row with its number and what is drawn of a label. -/
def row (width : Nat) (aside : Bool) (s : Stretch) (text : String) (r : Excerpt.Row) : String :=
  " " ++ alignRight width r.number ++ " │ " ++ (if aside then side s r else "") ++
    String.ofList (expandTabs r.text) ++ "\n" ++ below width s r text

/-- The excerpt of a source around a label. -/
def snippet (name source : String) (label : Label) : String :=
  let excerpt := Excerpt.ofLabel source label
  let stretch : Stretch := ⟨label.offset, label.offset + label.length⟩
  let rows := excerpt.rows
  let width := (toString ((rows.getLast?.map (·.number)).getD 0)).length
  let aside := rows.any fun r => ! stretch.isInside r && stretch.isAside r
  gutter width ++ "╭─[" ++ name ++ ":" ++ toString excerpt.line ++ ":" ++
    toString excerpt.column ++ "]\n" ++
    String.join (rows.map (row width aside stretch label.text)) ++ gutter width ++ "╰────\n"

/-- A diagnostic above the source that it is about, which is known under a name. -/
def render (d : Diagnostic) (name source : String) : String :=
  header d.headline ++ snippet name source (Label.ofDiagnostic d source)

end TemplateLint.Annotation
