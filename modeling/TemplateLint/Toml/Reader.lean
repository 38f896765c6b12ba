import TemplateLint.Toml.DateTime
import TemplateLint.Toml.Number
import TemplateLint.Toml.Table
import TemplateLint.Toml.Text

/-!
# Reading TOML text

A text is a sequence of lines: a header, a key with its value, or nothing; each of them may end with
a comment. Keys belong to the table of the last header above them.

## Main definitions

* `Toml.value`: a value at the front of a text
* `Toml.Progress`: the tables read so far and the table of the last header
* `Toml.ofText?`: the tables of a text as one JSON object
* `Toml.nestingLimit`: how deep arrays and inline tables may be nested
-/

namespace TemplateLint.Toml

/-- One more than the number of arrays and inline tables that may be open at once, and one more
than the number of parts that a key may have. -/
def nestingLimit : Nat := 80

/-! ### Blanks and comments -/

/-- The text after a comment, if it begins with one. -/
def skipComment : List Char → List Char
  | '#' :: rest => rest.dropWhile isPlain
  | cs => cs

/-- The text after the end of a line: spaces, a comment and a line break or the end of the text. -/
def endOfLine? (cs : List Char) : Option (List Char) :=
  match skipComment (skipSpaces cs) with
  | [] => some []
  | rest => afterBreak? rest

/-- The text after blanks, line breaks and comments; every comment ends with its line. -/
def skipLines (inComment : Bool) : List Char → Option (List Char)
  | [] => if inComment then none else some []
  | '\n' :: rest => skipLines false rest
  | '\r' :: '\n' :: rest => skipLines false rest
  | c :: rest =>
    if inComment then
      if isPlain c then skipLines true rest else none
    else if isSpace c then skipLines false rest
    else if c = '#' then skipLines true rest
    else some (c :: rest)

/-! ### Keys -/

/-- Whether a character may stand in a key without marks. -/
def isBare (c : Char) : Bool :=
  c.isAlphanum || c = '-' || c = '_'

/-- One part of a key at the front of a text. -/
def simpleKey? (cs : List Char) : Option (String × List Char) :=
  match cs with
  | '"' :: _ => lineString? cs
  | '\'' :: _ => lineString? cs
  | _ =>
    match cs.takeWhile isBare with
    | [] => none
    | bare => some (String.ofList bare, cs.dropWhile isBare)

/-- The parts of a key at the front of a text, with the spaces around them. -/
def keyParts : Nat → List Char → Option (List String × List Char)
  | 0, _ => none
  | fuel + 1, cs => do
    let (part, rest) ← simpleKey? (skipSpaces cs)
    match skipSpaces rest with
    | '.' :: rest => do
      let (parts, after) ← keyParts fuel rest
      return (part :: parts, after)
    | rest => some ([part], rest)

/-- A key at the front of a text: all parts but the last one, and the last one. -/
def key? (cs : List Char) : Option ((List String × String) × List Char) := do
  let (parts, rest) ← keyParts cs.length cs
  if nestingLimit ≤ parts.length then none
  let last ← parts.getLast?
  return ((parts.dropLast, last), rest)

/-! ### Values -/

/-- A value that holds no other values. -/
def scalar? (cs : List Char) : Option (Json × List Char) :=
  match cs with
  | '"' :: _ => (string? cs).map fun (s, rest) => (.str s, rest)
  | '\'' :: _ => (string? cs).map fun (s, rest) => (.str s, rest)
  | 't' :: 'r' :: 'u' :: 'e' :: rest => some (.bool true, rest)
  | 'f' :: 'a' :: 'l' :: 's' :: 'e' :: rest => some (.bool false, rest)
  | _ =>
    match dateTime? cs with
    | some (d, rest) => some (d.toJson, rest)
    | none => number? cs

mutual

/-- A value at the front of a text; `room` is one more than the number of arrays and inline tables
that may be opened in it. -/
def value : Nat → Nat → List Char → Option (Json × List Char)
  | 0, _, _ => none
  | fuel + 1, room, cs =>
    match cs with
    | '[' :: rest => do
      if room ≤ 1 then none
      let (items, after) ← arrayItems fuel (room - 1) rest
      return (.arr items, after)
    | '\x7b' :: rest => do
      if room ≤ 1 then none
      match skipSpaces rest with
      | '\x7d' :: after => return (.obj [], after)
      | _ =>
        let (entries, after) ← inlineEntries fuel (room - 1) [] rest
        return (.obj (entriesToMembers entries), after)
    | _ => scalar? cs

/-- The items of an array up to its closing bracket; a comma may follow the last one. -/
def arrayItems : Nat → Nat → List Char → Option (List Json × List Char)
  | 0, _, _ => none
  | fuel + 1, room, cs => do
    match ← skipLines false cs with
    | ']' :: after => some ([], after)
    | start => do
      let (item, rest) ← value fuel room start
      match ← skipLines false rest with
      | ',' :: more => do
        let (items, after) ← arrayItems fuel room more
        return (item :: items, after)
      | ']' :: after => some ([item], after)
      | _ => none

/-- The entries of an inline table that is not empty, up to its closing brace, added to those
before them. -/
def inlineEntries : Nat → Nat → Entries → List Char → Option (Entries × List Char)
  | 0, _, _, _ => none
  | fuel + 1, room, entries, cs => do
    let ((path, last), rest) ← key? cs
    let rest ← after? '=' rest
    let (j, rest) ← value fuel room (skipSpaces rest)
    let entries ← insertKey path last j .header entries
    match skipSpaces rest with
    | ',' :: more => inlineEntries fuel room entries more
    | '\x7d' :: after => some (entries, after)
    | _ => none

end

/-! ### Lines -/

/-- The tables read so far and the path of the table of the last header. -/
structure Progress where
  root : Entries := []
  current : List String := []

namespace Progress

/-- Changes the root. -/
def change (p : Progress) (c : Change) (current : List String) : Option Progress :=
  (c .header p.root).map fun root => ⟨root, current⟩

/-- Reads the header that begins at the front of a text, up to the end of its line. -/
def header? (p : Progress) (cs : List Char) : Option (Progress × List Char) :=
  match cs with
  | '[' :: '[' :: rest => do
    let ((path, last), rest) ← key? rest
    let rest ← after? ']' rest
    let rest ← after? ']' rest
    let rest ← endOfLine? rest
    return (← p.change (openElement path last) (path ++ [last]), rest)
  | '[' :: rest => do
    let ((path, last), rest) ← key? rest
    let rest ← after? ']' rest
    let rest ← endOfLine? rest
    return (← p.change (openTable path last) (path ++ [last]), rest)
  | _ => none

/-- Reads a key and its value at the front of a text, up to the end of the line. -/
def assignment? (p : Progress) (cs : List Char) : Option (Progress × List Char) := do
  let ((path, last), rest) ← key? cs
  let rest ← after? '=' rest
  let start := skipSpaces rest
  let (j, rest) ← value (2 * start.length + 2) nestingLimit start
  let rest ← endOfLine? rest
  return (← p.change (descend false p.current (insertKey path last j)) p.current, rest)

/-- Reads the lines of a text. Every line but the last takes a character, which bounds them. -/
def lines : Nat → Progress → List Char → Option Progress
  | 0, p, cs => if cs.isEmpty then some p else none
  | fuel + 1, p, cs =>
    match skipSpaces cs with
    | [] => some p
    | '[' :: rest => do
      let (p, rest) ← p.header? ('[' :: rest)
      lines fuel p rest
    | c :: rest =>
      match endOfLine? (c :: rest) with
      | some rest => lines fuel p rest
      | none => do
        let (p, rest) ← p.assignment? (c :: rest)
        lines fuel p rest

end Progress

/-- The text after a byte order mark, if it begins with one. -/
def skipMark : List Char → List Char
  | '\uFEFF' :: rest => rest
  | cs => cs

/-- The tables of a text as one JSON object. -/
def ofText? (text : String) : Option Json := do
  let cs := skipMark text.toList
  let p ← Progress.lines (cs.length + 1) {} cs
  return .obj (entriesToMembers p.root)

end TemplateLint.Toml
