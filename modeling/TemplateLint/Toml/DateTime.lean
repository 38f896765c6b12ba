import TemplateLint.Json.Reader

/-!
# TOML dates and times

A date, a time, or a date with a time and, perhaps, an offset from universal time. The canonical
form joins date and time by `T`, writes `Z` in upper case and drops the zeros at the end of the
fraction of a second, of which nine digits count.

## Main definitions

* `Toml.DateTime` and `Toml.DateTime.render`, its canonical form
* `Toml.dateTime?`: a date, a time or both at the front of a text
-/

namespace TemplateLint.Toml

/-- A day. -/
structure Date where
  year : Nat
  month : Nat
  day : Nat
  deriving DecidableEq, Repr

/-- A time of day. -/
structure Time where
  hour : Nat
  minute : Nat
  second : Nat
  nanosecond : Nat
  deriving DecidableEq, Repr

/-- An offset from universal time. -/
inductive Offset where
  | utc
  | minutes (behind : Bool) (count : Nat)
  deriving DecidableEq, Repr

/-- A date, a time or both. -/
structure DateTime where
  date : Option Date
  time : Option Time
  offset : Option Offset
  deriving DecidableEq, Repr

/-! ### Canonical form -/

/-- A number with at least `width` digits. -/
def padded (width n : Nat) : List Char :=
  let ds := Nat.toDigits 10 n
  List.replicate (width - ds.length) '0' ++ ds

/-- The canonical form of a day. -/
def Date.render (d : Date) : List Char :=
  padded 4 d.year ++ '-' :: padded 2 d.month ++ '-' :: padded 2 d.day

/-- The canonical form of a time of day. -/
def Time.render (t : Time) : List Char :=
  let digits := ((padded 9 t.nanosecond).reverse.dropWhile (· == '0')).reverse
  let fraction := if t.nanosecond = 0 then [] else '.' :: digits
  padded 2 t.hour ++ ':' :: padded 2 t.minute ++ ':' :: padded 2 t.second ++ fraction

/-- The canonical form of an offset; no offset at all is not behind. -/
def Offset.render : Offset → List Char
  | .utc => ['Z']
  | .minutes behind count =>
    (if behind ∧ 0 < count then '-' else '+') ::
      padded 2 (count / 60) ++ ':' :: padded 2 (count % 60)

/-- The canonical form of a date, a time or both. -/
def DateTime.render (d : DateTime) : String :=
  let date := (d.date.map Date.render).getD []
  let between := if d.date.isSome ∧ d.time.isSome then ['T'] else []
  let time := (d.time.map Time.render).getD []
  let offset := (d.offset.map Offset.render).getD []
  String.ofList (date ++ between ++ time ++ offset)

/-! ### Reading -/

/-- A number of exactly two digits, not above `most`. -/
def twoDigits? (most : Nat) : List Char → Option (Nat × List Char)
  | a :: b :: rest =>
    let n := Json.Reader.decimal [a, b]
    if a.isDigit ∧ b.isDigit ∧ n ≤ most then some (n, rest) else none
  | _ => none

/-- The text after a character that has to be there. -/
def after? (c : Char) : List Char → Option (List Char)
  | d :: rest => if d = c then some rest else none
  | [] => none

/-- The number of days of a month. -/
def daysIn (year month : Nat) : Nat :=
  if month = 2 then
    if year % 4 = 0 ∧ (year % 100 ≠ 0 ∨ year % 400 = 0) then 29 else 28
  else if month = 4 ∨ month = 6 ∨ month = 9 ∨ month = 11 then 30
  else 31

/-- A day at the front of a text. -/
def date? (cs : List Char) : Option (Date × List Char) := do
  let (century, rest) ← twoDigits? 99 cs
  let (year, rest) ← twoDigits? 99 rest
  let year := 100 * century + year
  let rest ← after? '-' rest
  let (month, rest) ← twoDigits? 12 rest
  let rest ← after? '-' rest
  let (day, rest) ← twoDigits? 31 rest
  if 1 ≤ month ∧ 1 ≤ day ∧ day ≤ daysIn year month then some (⟨year, month, day⟩, rest) else none

/-- The fraction of a second in nanoseconds at the front of a text, where there is one. -/
def nanoseconds? : List Char → Nat × List Char
  | '.' :: rest =>
    match Json.Reader.digits rest with
    | ([], _) => (0, '.' :: rest)
    | (ds, after) =>
      let kept := ds.take 9
      (Json.Reader.decimal kept * Nat.pow 10 (9 - kept.length), after)
  | cs => (0, cs)

/-- A time of day at the front of a text. -/
def time? (cs : List Char) : Option (Time × List Char) := do
  let (hour, rest) ← twoDigits? 23 cs
  let rest ← after? ':' rest
  let (minute, rest) ← twoDigits? 59 rest
  let rest ← after? ':' rest
  let (second, rest) ← twoDigits? 60 rest
  let (nanosecond, rest) := nanoseconds? rest
  return (⟨hour, minute, second, nanosecond⟩, rest)

/-- An offset at the front of a text. -/
def offset? : List Char → Option (Offset × List Char)
  | c :: rest =>
    if c = 'Z' ∨ c = 'z' then some (.utc, rest)
    else if c = '+' ∨ c = '-' then do
      let (hours, rest) ← twoDigits? 23 rest
      let rest ← after? ':' rest
      let (minutes, rest) ← twoDigits? 59 rest
      return (.minutes (c = '-') (60 * hours + minutes), rest)
    else none
  | [] => none

/-- The time of a date and its offset, after the character between them. -/
def timeOfDate? : List Char → Option ((Time × Option Offset) × List Char)
  | c :: rest =>
    if c = 'T' ∨ c = 't' ∨ c = ' ' then do
      let (time, rest) ← time? rest
      match offset? rest with
      | some (offset, rest) => return ((time, some offset), rest)
      | none => return ((time, none), rest)
    else none
  | [] => none

/-- A date, a time or both at the front of a text. -/
def dateTime? (cs : List Char) : Option (DateTime × List Char) :=
  match date? cs with
  | some (date, rest) =>
    match timeOfDate? rest with
    | some ((time, offset), rest) => some (⟨some date, some time, offset⟩, rest)
    | none => some (⟨some date, none, none⟩, rest)
  | none => do
    let (time, rest) ← time? cs
    return (⟨none, some time, none⟩, rest)

/-- The member under which a date or a time stands in JSON. -/
def dateTimeKey : String := "$__toml_private_datetime"

/-- A date or a time as JSON. -/
def DateTime.toJson (d : DateTime) : Json :=
  .obj [(dateTimeKey, .str d.render)]

end TemplateLint.Toml
