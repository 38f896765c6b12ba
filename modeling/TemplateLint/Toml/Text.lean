import TemplateLint.Json.Reader

/-!
# TOML strings

Strings stand between quotation marks, with escapes, or between apostrophes, without. Both kinds
have a form with three marks that may run over several lines; a line break right after the opening
marks does not count, and every other one is a line feed.

## Main definitions

* `Toml.string?`: a string at the front of a text
* `Toml.lineString?`: a string on one line at the front of a text
-/

namespace TemplateLint.Toml

/-- Whether a character may stand in a comment or, if it is not a mark, in a string. -/
def isPlain (c : Char) : Bool :=
  c = '\t' || (0x20 ≤ c.toNat && c.toNat ≠ 0x7F)

/-- Whether a character is a space or a tab. -/
def isSpace (c : Char) : Bool := c = ' ' || c = '\t'

/-- The text after its leading spaces and tabs. -/
def skipSpaces (cs : List Char) : List Char := cs.dropWhile isSpace

/-- The text after a line break, if it begins with one. -/
def afterBreak? : List Char → Option (List Char)
  | '\n' :: rest => some rest
  | '\r' :: '\n' :: rest => some rest
  | _ => none

/-- The character with the code point that hexadecimal digits spell, if there is one. -/
def charOfHex? (digits : List Char) : Option Char := do
  let n ← Json.Reader.hexNumber? digits
  if n.isValidChar then some (Char.ofNat n) else none

/-- The character that an escape stands for, and the text after it; the escape is given without
its backslash. -/
def escape? : List Char → Option (Char × List Char)
  | '"' :: rest => some ('"', rest)
  | '\\' :: rest => some ('\\', rest)
  | 'b' :: rest => some ('\x08', rest)
  | 'f' :: rest => some ('\x0c', rest)
  | 'n' :: rest => some ('\n', rest)
  | 'r' :: rest => some ('\r', rest)
  | 't' :: rest => some ('\t', rest)
  | 'u' :: rest =>
    if rest.length < 4 then none else (charOfHex? (rest.take 4)).map fun c => (c, rest.drop 4)
  | 'U' :: rest =>
    if rest.length < 8 then none else (charOfHex? (rest.take 8)).map fun c => (c, rest.drop 8)
  | _ => none

/-- The text after its leading spaces, tabs and line breaks. -/
def skipBreaks : List Char → List Char
  | '\r' :: '\n' :: rest => skipBreaks rest
  | '\n' :: rest => skipBreaks rest
  | ' ' :: rest => skipBreaks rest
  | '\t' :: rest => skipBreaks rest
  | cs => cs

/-- The text after an escaped line break: the break, and the blanks before and after it. -/
def afterEscapedBreak? (cs : List Char) : Option (List Char) :=
  (afterBreak? (skipSpaces cs)).map skipBreaks

/-- The rest of a string on one line with escapes. -/
def basicLine : Nat → List Char → Option (List Char × List Char)
  | _, '"' :: rest => some ([], rest)
  | fuel + 1, '\\' :: rest => do
    let (c, rest) ← escape? rest
    let (cs, after) ← basicLine fuel rest
    return (c :: cs, after)
  | fuel + 1, c :: rest => do
    if ! isPlain c then none
    let (cs, after) ← basicLine fuel rest
    return (c :: cs, after)
  | _, _ => none

/-- The rest of a string on one line without escapes. -/
def literalLine : List Char → Option (List Char × List Char)
  | '\'' :: rest => some ([], rest)
  | c :: rest => do
    if ! isPlain c then none
    let (cs, after) ← literalLine rest
    return (c :: cs, after)
  | [] => none

/-- The closing marks at the front of a text: three of them, with up to two more that belong to the
string before them. -/
def closing? (mark : Char) (cs : List Char) : Option (List Char × List Char) :=
  let marks := cs.takeWhile (· = mark)
  let count := min marks.length 5
  if count < 3 then none else some (List.replicate (count - 3) mark, cs.drop count)

/-- The rest of a string over several lines; `escapes` tells whether it has escapes. -/
def multiLine (mark : Char) (escapes : Bool) : Nat → List Char → Option (List Char × List Char)
  | 0, _ => none
  | fuel + 1, cs =>
    match closing? mark cs with
    | some closed => some closed
    | none =>
      match afterBreak? cs with
      | some rest => do
        let (text, after) ← multiLine mark escapes fuel rest
        return ('\n' :: text, after)
      | none =>
        match cs with
        | [] => none
        | c :: rest =>
          if escapes ∧ c = '\\' then
            match afterEscapedBreak? rest with
            | some rest => multiLine mark escapes fuel rest
            | none => do
              let (e, rest) ← escape? rest
              let (text, after) ← multiLine mark escapes fuel rest
              return (e :: text, after)
          else if isPlain c then do
            let (text, after) ← multiLine mark escapes fuel rest
            return (c :: text, after)
          else none

/-- The text after a line break right after the opening marks. -/
def skipFirstBreak (cs : List Char) : List Char :=
  (afterBreak? cs).getD cs

/-- A string on one line at the front of a text. -/
def lineString? : List Char → Option (String × List Char)
  | '"' :: rest => (basicLine rest.length rest).map fun (cs, after) => (String.ofList cs, after)
  | '\'' :: rest => (literalLine rest).map fun (cs, after) => (String.ofList cs, after)
  | _ => none

/-- A string at the front of a text. -/
def string? (cs : List Char) : Option (String × List Char) :=
  match cs with
  | '"' :: '"' :: '"' :: rest =>
    (multiLine '"' true (rest.length + 1) (skipFirstBreak rest)).map fun (cs, after) =>
      (String.ofList cs, after)
  | '\'' :: '\'' :: '\'' :: rest =>
    (multiLine '\'' false (rest.length + 1) (skipFirstBreak rest)).map fun (cs, after) =>
      (String.ofList cs, after)
  | _ => lineString? cs

end TemplateLint.Toml
