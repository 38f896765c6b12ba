import TemplateLint.Json.Reader

/-!
# TOML numbers

Integers are decimal with a sign, or hexadecimal, octal or binary without one, and fit 64 bits.
Floating point numbers have a point or a power of ten. Between two digits there may be a low line.
Infinities and what is not a number have no place in JSON and become null there.

## Main definitions

* `Toml.float?`, `Toml.integer?`: a number at the front of a text
-/

namespace TemplateLint.Toml

/-- A run of digits at the front of a text, without its low lines. Every low line stands between
two digits. -/
def digitRun (isDigit : Char → Bool) : List Char → List Char × List Char
  | c :: '_' :: d :: rest =>
    if isDigit c then
      if isDigit d then
        let (ds, after) := digitRun isDigit (d :: rest)
        (c :: ds, after)
      else ([c], '_' :: d :: rest)
    else ([], c :: '_' :: d :: rest)
  | c :: rest =>
    if isDigit c then
      let (ds, after) := digitRun isDigit rest
      (c :: ds, after)
    else ([], c :: rest)
  | [] => ([], [])

/-- The text after an optional sign, and whether the sign is minus. -/
def sign : List Char → Bool × List Char
  | '+' :: rest => (false, rest)
  | '-' :: rest => (true, rest)
  | cs => (false, cs)

/-- The digits of a decimal integer: a single zero, or digits that do not begin with zero. -/
def wholeDigits? : List Char → Option (List Char × List Char)
  | '0' :: rest => some (['0'], rest)
  | cs =>
    match digitRun Char.isDigit cs with
    | ([], _) => none
    | (ds, rest) => some (ds, rest)

/-- The digits after the point; there has to be one. -/
def fraction? : List Char → Option (List Char × List Char)
  | '.' :: rest =>
    match digitRun Char.isDigit rest with
    | ([], _) => none
    | (ds, after) => some (ds, after)
  | _ => none

/-- The power of ten; it has to have a digit. -/
def power? : List Char → Option (Int × List Char)
  | e :: rest =>
    if e = 'e' ∨ e = 'E' then
      let (negative, unsigned) := sign rest
      match digitRun Char.isDigit unsigned with
      | ([], _) => none
      | (ds, after) =>
        let n : Int := Json.Reader.decimal ds
        some (if negative then -n else n, after)
    else none
  | [] => none

/-- The number of a decimal. A positive one that is too large is refused; a negative one stands for
the infinity below all numbers. -/
def floatValue? (negative : Bool) (digits : List Char) (power : Int) : Option Json :=
  match Binary64.ofDecimal? negative (Json.Reader.decimal digits) power with
  | some x => some (.float x)
  | none => if negative then some .null else none

/-- An infinity, or what is not a number, at the front of a text. -/
def special? (cs : List Char) : Option (Json × List Char) :=
  match (sign cs).2 with
  | 'i' :: 'n' :: 'f' :: rest => some (.null, rest)
  | 'n' :: 'a' :: 'n' :: rest => some (.null, rest)
  | _ => none

/-- A decimal with a point or a power of ten at the front of a text. The outer option is empty when
there is none, the inner one when it is too large. -/
def decimal? (cs : List Char) : Option (Option Json × List Char) := do
  let (negative, unsigned) := sign cs
  let (whole, rest) ← wholeDigits? unsigned
  match fraction? rest with
  | some (ds, rest) =>
    let (p, rest) := (power? rest).getD (0, rest)
    return (floatValue? negative (whole ++ ds) (p - ds.length), rest)
  | none =>
    let (p, rest) ← power? rest
    return (floatValue? negative whole p, rest)

/-- Whether a character is a digit to the given base. -/
def isDigitOf (base : Nat) (c : Char) : Bool :=
  match Json.Reader.hexValue? c with
  | some n => n < base
  | none => false

/-- The least and the greatest integer. -/
def integerRange : Int × Int := (-9223372036854775808, 9223372036854775807)

/-- An integer that fits. -/
def fitting? (n : Int) : Option Json :=
  if integerRange.1 ≤ n ∧ n ≤ integerRange.2 then some (.int n) else none

/-- The digits of an integer to the given base. -/
def basedInteger? (base : Nat) (cs : List Char) : Option (Json × List Char) := do
  match digitRun (isDigitOf base) cs with
  | ([], _) => none
  | (ds, rest) =>
    let n := ds.foldl (fun n c => base * n + (Json.Reader.hexValue? c).getD 0) 0
    return (← fitting? n, rest)

/-- An integer at the front of a text. -/
def integer? (cs : List Char) : Option (Json × List Char) :=
  match cs with
  | '0' :: 'x' :: rest => basedInteger? 16 rest
  | '0' :: 'o' :: rest => basedInteger? 8 rest
  | '0' :: 'b' :: rest => basedInteger? 2 rest
  | _ => do
    let (negative, unsigned) := sign cs
    let (ds, rest) ← wholeDigits? unsigned
    let n : Int := Json.Reader.decimal ds
    return (← fitting? (if negative then -n else n), rest)

/-- A number at the front of a text. -/
def number? (cs : List Char) : Option (Json × List Char) :=
  match decimal? cs with
  | some (j, rest) => j.map fun j => (j, rest)
  | none => special? cs <|> integer? cs

end TemplateLint.Toml
