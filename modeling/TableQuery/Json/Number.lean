import TableQuery.Json.Shortest

set_option autoImplicit false

namespace TableQuery.Json

inductive Number where
  | integer (value : Int)
  | real (value : Binary64)
  deriving DecidableEq, Repr, Inhabited

def fitsInt64 (n : Int) : Bool := -(Int.pow 2 63) ≤ n ∧ n < Int.pow 2 63

namespace Number

def int64? : Number → Option Int
  | integer n => if fitsInt64 n then some n else none
  | real _ => none

/-- The value of an integer that is not negative. -/
def nat? : Number → Option Nat
  | integer (.ofNat n) => some n
  | _ => none

def approximation : Number → Int
  | integer n => n.sign * (nearestInteger n.natAbs * Binary64.unitsPerOne)
  | real x => x.units

/-- Equality of numbers: kinds never mix, and the two zeros are equal. -/
def equals : Number → Number → Bool
  | integer a, integer b => a == b
  | real a, real b => a.units == b.units
  | _, _ => false

/-- Order of numbers: exact on signed 64-bit integers, by rounded value on any other pair. -/
def order (a b : Number) : Ordering :=
  match a.int64?, b.int64? with
  | some x, some y => compare x y
  | _, _ => compare a.approximation b.approximation

/-- The text of a number: an integer in decimal, a double by its shortest decimal. -/
def text : Number → String
  | integer n => toString n
  | real x => x.text

end Number

end TableQuery.Json
