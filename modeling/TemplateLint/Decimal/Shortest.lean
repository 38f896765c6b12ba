import TemplateLint.Decimal.Binary64

/-!
# Shortest decimals

A binary64 number is written with the fewest digits that read back as it; of the decimals with that
many digits, the nearest one is taken. The decimals with `n` digits form a grid, and the first grid
with a point in the interval of reals that round to the number has one of the number's two
neighbours in that interval.

## Main definitions

* `Binary64.interval`: the reals that round to a number
* `Binary64.shortest`: the digits and the place of the point
* `Binary64.render`: the text of a number
-/

namespace TemplateLint.Binary64

/-- The magnitude of a number and the ends of the interval that rounds to it, as multiples of
`2 ^ (exponent - 2)`. Below a power of two the gap to the next number is half as wide. -/
def interval (x : Binary64) : Nat × Nat × Nat :=
  let m := x.significand
  let low := if m = Nat.pow 2 52 ∧ minExponent < x.exponent then 4 * m - 1 else 4 * m - 2
  (low, 4 * m, 4 * m + 2)

/-- The quotient `num / den` in units of `10 ^ power`. -/
def inUnits (num den : Nat) (power : Int) : Nat × Nat :=
  if 0 ≤ power then (num, den * Nat.pow 10 power.toNat)
  else (num * Nat.pow 10 (-power).toNat, den)

/-- The place of the decimal point of `num / den`: the least `k` with `num / den < 10 ^ k`. The
quotient is assumed to be at least `10 ^ (-400)`. -/
def pointOf (num den : Nat) : Int :=
  (digitCount (num * Nat.pow 10 400 / den) : Int) - 400

/-- The decimal with `count` digits that reads back as `x` and is nearest to it, in units of
`10 ^ (point - count)`. -/
def candidate? (x : Binary64) (point : Int) (count : Nat) : Option Nat :=
  let (low, value, high) := x.interval
  let power := point - count
  let ratio (n : Nat) : Nat × Nat :=
    let (num, den) := scale n 1 (x.exponent - 2)
    inUnits num den power
  let (num, den) := ratio value
  let lowNum := (ratio low).1
  let highNum := (ratio high).1
  let inside (c : Nat) : Bool :=
    if x.significand % 2 = 0 then lowNum ≤ c * den && c * den ≤ highNum
    else lowNum < c * den && c * den < highNum
  let below := num / den
  let above := below + 1
  let nearest := roundDiv num den
  match inside below, inside above with
  | true, true => some nearest
  | true, false => some below
  | false, true => some above
  | false, false => none

/-- The first grid with at most 17 digits that has a candidate. -/
def search (x : Binary64) (point : Int) : Nat → Nat → Nat × Nat
  | 0, count => (x.significand, count)
  | more + 1, count =>
    match x.candidate? point count with
    | some c => (c, count)
    | none => search x point more (count + 1)

/-- The digits of a number other than zero, without zeros at their end, and the place of the point:
`(ds, k)` stands for `0.ds * 10 ^ k`. -/
def shortest (x : Binary64) : List Char × Int :=
  let (num, den) := scale x.significand 1 x.exponent
  let point := pointOf num den
  let (c, count) := x.search point 17 1
  let digits := Nat.toDigits 10 c
  let kept := (digits.reverse.dropWhile (· == '0')).reverse
  (kept, point + digits.length - count)

/-! ### Layout -/

/-- How the digits of a number are laid out. -/
structure Layout where
  /-- The least place of the point that is written positionally. -/
  leastPoint : Int
  /-- The greatest place of the point that is written positionally. -/
  greatestPoint : Int
  /-- What stands before a positive power of ten. -/
  plus : String

/-- Numbers from `10 ^ (-5)` and below `10 ^ 16` are positional and have a digit after the point;
the power of ten of the others has a sign. -/
def layout : Layout := ⟨-4, 16, "+"⟩

/-- Digits with the point at `k`, and at least one digit on either side of it. -/
def positional (digits : List Char) (k : Int) : List Char :=
  if k ≤ 0 then
    ['0', '.'] ++ List.replicate (-k).toNat '0' ++ digits
  else if (digits.length : Int) ≤ k then
    digits ++ List.replicate (k.toNat - digits.length) '0' ++ ['.', '0']
  else
    digits.take k.toNat ++ '.' :: digits.drop k.toNat

/-- Digits with the point after the first one, followed by the power of ten. -/
def scientific (plus : String) (digits : List Char) (k : Int) : List Char :=
  let fraction := if digits.length ≤ 1 then [] else '.' :: digits.drop 1
  let power := k - 1
  let sign := if 0 ≤ power then plus.toList else ['-']
  digits.take 1 ++ fraction ++ 'e' :: sign ++ Nat.toDigits 10 power.natAbs

/-- The text of a number. -/
def render (x : Binary64) : String :=
  let sign := if x.negative then ['-'] else []
  if x.significand = 0 then String.ofList (sign ++ ['0', '.', '0'])
  else
    let (digits, k) := x.shortest
    let body :=
      if layout.leastPoint ≤ k ∧ k ≤ layout.greatestPoint then positional digits k
      else scientific layout.plus digits k
    String.ofList (sign ++ body)

end TemplateLint.Binary64
