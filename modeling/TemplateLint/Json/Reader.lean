import TemplateLint.Json.Document

/-!
# Reading JSON text

The grammar of JSON: blanks are the space, the tab, the line feed and the carriage return; a text
holds one value and nothing else but blanks around it. Each function returns what it read together
with the text after it, or nothing where the grammar is broken.

## Main definitions

* `Json.Reader.document?`: the tree of a text
* `Json.ofText?`: the canonical value of a text
* `Json.ofTextBy?`: the value of the parts of a text that an outline uses
-/

namespace TemplateLint.Json.Reader

/-- The text after its leading blanks. -/
def skipBlanks (cs : List Char) : List Char :=
  cs.dropWhile fun c => c = ' ' || c = '\t' || c = '\n' || c = '\r'

/-! ### Strings -/

/-- The value of a hexadecimal digit. -/
def hexValue? (c : Char) : Option Nat :=
  if '0' ≤ c ∧ c ≤ '9' then some (c.toNat - '0'.toNat)
  else if 'a' ≤ c ∧ c ≤ 'f' then some (c.toNat - 'a'.toNat + 10)
  else if 'A' ≤ c ∧ c ≤ 'F' then some (c.toNat - 'A'.toNat + 10)
  else none

/-- The number that hexadecimal digits spell. -/
def hexNumber? (cs : List Char) : Option Nat :=
  cs.foldlM (fun n c => (hexValue? c).map (16 * n + ·)) 0

/-- The character of an escape of one letter. -/
def plainEscape? : Char → Option Char
  | '"' => some '"'
  | '\\' => some '\\'
  | '/' => some '/'
  | 'b' => some '\x08'
  | 'f' => some '\x0c'
  | 'n' => some '\n'
  | 'r' => some '\r'
  | 't' => some '\t'
  | _ => none

/-- A piece of a string: a character, or the 16-bit unit of a numeric escape. -/
inductive Piece where
  | char (c : Char)
  | unit (n : Nat)

/-- The pieces of a string up to the closing quotation mark. -/
def pieces : List Char → Option (List Piece × List Char)
  | '"' :: rest => some ([], rest)
  | '\\' :: 'u' :: a :: b :: c :: d :: rest => do
    let n ← hexNumber? [a, b, c, d]
    let (ps, after) ← pieces rest
    return (.unit n :: ps, after)
  | '\\' :: e :: rest => do
    let c ← plainEscape? e
    let (ps, after) ← pieces rest
    return (.char c :: ps, after)
  | c :: rest => do
    if c.toNat < 0x20 then none
    let (ps, after) ← pieces rest
    return (.char c :: ps, after)
  | [] => none

/-- Whether a unit is the first half of a surrogate pair. -/
def isHighSurrogate (n : Nat) : Bool := 0xD800 ≤ n && n < 0xDC00

/-- Whether a unit is the second half of a surrogate pair. -/
def isLowSurrogate (n : Nat) : Bool := 0xDC00 ≤ n && n < 0xE000

/-- The characters that pieces spell; half a surrogate pair spells none. -/
def spell? : List Piece → Option (List Char)
  | [] => some []
  | .char c :: rest => (spell? rest).map (c :: ·)
  | .unit high :: .unit low :: rest =>
    if isHighSurrogate high then
      if isLowSurrogate low then
        let n := 0x10000 + (high - 0xD800) * 0x400 + (low - 0xDC00)
        (spell? rest).map (Char.ofNat n :: ·)
      else none
    else if isLowSurrogate high then none
    else (spell? (.unit low :: rest)).map (Char.ofNat high :: ·)
  | .unit n :: rest =>
    if isHighSurrogate n || isLowSurrogate n then none
    else (spell? rest).map (Char.ofNat n :: ·)

/-- The rest of a string after its opening quotation mark; the string may have no value. -/
def string (cs : List Char) : Option (Option String × List Char) := do
  let (ps, rest) ← pieces cs
  return ((spell? ps).map String.ofList, rest)

/-! ### Numbers -/

/-- The number that decimal digits spell. -/
def decimal (digits : List Char) : Nat :=
  digits.foldl (fun n c => 10 * n + (c.toNat - '0'.toNat)) 0

/-- The longest run of decimal digits at the front of a text. -/
def digits (cs : List Char) : List Char × List Char :=
  (cs.takeWhile Char.isDigit, cs.dropWhile Char.isDigit)

/-- The digits before the point: a single zero, or digits that do not begin with zero. -/
def wholePart : List Char → Option (List Char × List Char)
  | '0' :: rest => some (['0'], rest)
  | cs =>
    match digits cs with
    | ([], _) => none
    | (ds, rest) => some (ds, rest)

/-- The digits after the point, if there is a point; there has to be one digit then. -/
def fraction : List Char → Option (Option (List Char) × List Char)
  | '.' :: rest =>
    match digits rest with
    | ([], _) => none
    | (ds, after) => some (some ds, after)
  | cs => some (none, cs)

/-- The power of ten, if there is one; it has to have a digit then. -/
def power (cs : List Char) : Option (Option Int × List Char) :=
  match cs with
  | e :: rest =>
    if e = 'e' ∨ e = 'E' then
      let (negative, unsigned) : Bool × List Char := match rest with
        | '+' :: r => (false, r)
        | '-' :: r => (true, r)
        | r => (false, r)
      match digits unsigned with
      | ([], _) => none
      | (ds, after) =>
        let n : Int := decimal ds
        some (some (if negative then -n else n), after)
    else some (none, cs)
  | [] => some (none, cs)

/-- The least and the greatest number that are kept as integers. -/
def integerRange : Int × Int := (-9223372036854775808, 18446744073709551615)

/-- The value of a number. Without point and power it is an integer where it fits, except that
minus zero is no integer; all else is a floating point number. -/
def numberValue (negative : Bool) (whole : List Char) (fraction : Option (List Char))
    (power : Option Int) : Document :=
  let n : Int := if negative then -(decimal whole : Int) else decimal whole
  let ofDecimal (digits : List Char) (power : Int) : Document :=
    match Binary64.ofDecimal? negative (decimal digits) power with
    | some x => .float x
    | none => .valueless
  match fraction, power with
  | none, none =>
    if integerRange.1 ≤ n ∧ n ≤ integerRange.2 ∧ ¬ (negative ∧ n = 0) then .int n
    else ofDecimal whole 0
  | some ds, p => ofDecimal (whole ++ ds) (p.getD 0 - ds.length)
  | none, some p => ofDecimal whole p

/-- A number. -/
def number (cs : List Char) : Option (Document × List Char) := do
  let (negative, unsigned) : Bool × List Char := match cs with
    | '-' :: rest => (true, rest)
    | rest => (false, rest)
  let (whole, rest) ← wholePart unsigned
  let (frac, rest) ← fraction rest
  let (pow, rest) ← power rest
  return (numberValue negative whole frac pow, rest)

/-! ### Values -/

mutual

/-- A value, with at most `fuel` nested steps. -/
def value : Nat → List Char → Option (Document × List Char)
  | 0, _ => none
  | fuel + 1, cs =>
    match skipBlanks cs with
    | '"' :: rest => do
      let (s, after) ← string rest
      return (match s with | some s => .str s | none => .valueless, after)
    | '[' :: rest =>
      match skipBlanks rest with
      | ']' :: after => some (.arr [], after)
      | _ => do
        let (ds, after) ← items fuel rest
        return (.arr ds, after)
    | '\x7b' :: rest =>
      match skipBlanks rest with
      | '\x7d' :: after => some (.obj [], after)
      | _ => do
        let (ms, after) ← members fuel rest
        return (.obj ms, after)
    | 'n' :: 'u' :: 'l' :: 'l' :: rest => some (.null, rest)
    | 't' :: 'r' :: 'u' :: 'e' :: rest => some (.bool true, rest)
    | 'f' :: 'a' :: 'l' :: 's' :: 'e' :: rest => some (.bool false, rest)
    | rest => number rest

/-- The items of an array that is not empty, up to its closing bracket. -/
def items : Nat → List Char → Option (List Document × List Char)
  | 0, _ => none
  | fuel + 1, cs => do
    let (d, rest) ← value fuel cs
    match skipBlanks rest with
    | ',' :: more => do
      let (ds, after) ← items fuel more
      return (d :: ds, after)
    | ']' :: after => some ([d], after)
    | _ => none

/-- The members of an object that is not empty, up to its closing brace. -/
def members : Nat → List Char → Option (List (Option String × Document) × List Char)
  | 0, _ => none
  | fuel + 1, cs =>
    match skipBlanks cs with
    | '"' :: rest => do
      let (name, rest) ← string rest
      match skipBlanks rest with
      | ':' :: rest => do
        let (d, rest) ← value fuel rest
        match skipBlanks rest with
        | ',' :: more => do
          let (ms, after) ← members fuel more
          return ((name, d) :: ms, after)
        | '\x7d' :: after => some ([(name, d)], after)
        | _ => none
      | _ => none
    | _ => none

end

/-- The tree of a text. Every second step takes a character, which bounds the steps. -/
def document? (text : String) : Option Document := do
  let cs := text.toList
  let (d, rest) ← value (2 * cs.length + 2) cs
  if (skipBlanks rest).isEmpty then some d else none

end Reader

/-- The value of the parts of a text that an outline uses. Members keep the order of the text, and
repeated ones are all there. -/
def ofTextBy? (o : Outline) (text : String) : Option Json := do
  let d ← Reader.document? text
  d.value? o

/-- The canonical value of a text. -/
def ofText? (text : String) : Option Json :=
  (ofTextBy? .whole text).map canonical

end TemplateLint.Json
