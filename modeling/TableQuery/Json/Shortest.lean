import TableQuery.Json.Binary64

set_option autoImplicit false

/- `Binary64.shortest` looks for the least number of digits for which a decimal lies among the reals that
round to the number, and takes the nearest such decimal. `Binary64.text` writes it, positionally where the
decimal exponent is small and in scientific form elsewhere. -/
namespace TableQuery.Json

/-- A positive decimal: its digits, without trailing zeros, and the exponent of the first digit. -/
structure Decimal where
  digits : List Char
  exponent : Int
  deriving DecidableEq, Repr

namespace Decimal

def ofNat (coefficient : Nat) (power : Int) : Decimal :=
  let digits := Nat.toDigits 10 coefficient
  { digits := (digits.reverse.dropWhile (· == '0')).reverse
    exponent := power + digits.length - 1 }

/-- How a decimal is laid out. -/
structure Layout where
  /-- The least exponent written positionally. -/
  least : Int
  /-- The first exponent no longer written positionally. -/
  bound : Int

def layout : Layout := ⟨-5, 16⟩

def positional (d : Decimal) : List Char :=
  if d.exponent < 0 then
    '0' :: '.' :: List.replicate (d.exponent.natAbs - 1) '0' ++ d.digits
  else
    let whole := d.exponent.toNat + 1
    let padded := d.digits ++ List.replicate (whole - d.digits.length) '0'
    let fraction := padded.drop whole
    padded.take whole ++ '.' :: (if fraction.isEmpty then ['0'] else fraction)

/-- Scientific text: the exponent always carries its sign. -/
def scientific (d : Decimal) : List Char :=
  let mantissa := match d.digits with
    | [] => []
    | [digit] => [digit]
    | digit :: rest => digit :: '.' :: rest
  let sign := if d.exponent < 0 then '-' else '+'
  mantissa ++ 'e' :: sign :: Nat.toDigits 10 d.exponent.natAbs

def chars (d : Decimal) : List Char :=
  if layout.least ≤ d.exponent ∧ d.exponent < layout.bound then d.positional else d.scientific

end Decimal

def decimalExponent (num den : Nat) : Int :=
  if den ≤ num then ((Nat.toDigits 10 (num / den)).length : Int) - 1
  else
    match (List.range 400).find? (fun k => den ≤ num * Nat.pow 10 (k + 1)) with
    | some k => -((k : Int) + 1)
    | none => 0

/-- The reals that round to a number, all three values in quarters of a unit over `unitsPerOne`. -/
structure Interval where
  lower : Nat
  value : Nat
  upper : Nat
  closed : Bool

namespace Interval

/-- The reals that round to `x`: the ends belong to it where the significand is even. -/
def around (x : Binary64) : Interval :=
  let step := Nat.pow 2 x.shift
  let below := if x.significand = Nat.pow 2 52 ∧ x.shift ≠ 0 then step else 2 * step
  let value := 4 * x.magnitude
  { lower := value - below, value, upper := value + 2 * step, closed := x.significand % 2 = 0 }

def denominator : Nat := 4 * Binary64.unitsPerOne

/--
The decimal with the given last place that lies in the interval, nearest to its value; a tie goes to
the even coefficient.
-/
def onGrid? (i : Interval) (power : Int) : Option Nat :=
  let up := if power < 0 then Nat.pow 10 power.natAbs else 1
  let down := denominator * (if power < 0 then 1 else Nat.pow 10 power.natAbs)
  let holds (coefficient : Nat) : Bool :=
    let point := coefficient * down
    if i.closed then i.lower * up ≤ point ∧ point ≤ i.upper * up
    else i.lower * up < point ∧ point < i.upper * up
  let low := i.value * up / down
  let nearest := roundHalfEven (i.value * up) down
  if holds nearest then some nearest
  else if holds low then some low
  else if holds (low + 1) then some (low + 1)
  else none

def shortest? (i : Interval) : Option Decimal :=
  let exponent := decimalExponent i.value denominator
  (List.range 17).findSome? fun (extra : Nat) =>
    let power := exponent - extra
    (i.onGrid? power).map (Decimal.ofNat · power)

end Interval

namespace Binary64

/-- The shortest decimal that reads back as a number other than zero, less its sign. -/
def shortest (x : Binary64) : Decimal :=
  ((Interval.around x).shortest?).getD ⟨['0'], 0⟩

/-- The text of a number: zero is `0.0`, and a negative number starts with a minus sign. -/
def chars (x : Binary64) : List Char :=
  let body := if x.significand = 0 then ['0', '.', '0'] else x.shortest.chars
  if x.negative then '-' :: body else body

def text (x : Binary64) : String := String.ofList x.chars

end Binary64

end TableQuery.Json
