set_option autoImplicit false

namespace TableQuery.Json

/-- The quotient rounded to the nearest integer; a half goes to the even neighbour. -/
def roundHalfEven (num den : Nat) : Nat :=
  let quotient := num / den
  let twice := 2 * (num % den)
  if twice < den then quotient
  else if den < twice then quotient + 1
  else if quotient % 2 = 0 then quotient else quotient + 1

def nearestInteger (n : Nat) : Nat :=
  let shift := n.log2 - 52
  roundHalfEven n (Nat.pow 2 shift) * Nat.pow 2 shift

/-- A finite double-precision number. -/
structure Binary64 where
  negative : Bool
  significand : Nat
  shift : Nat
  significand_lt : significand < Nat.pow 2 53
  normal : shift = 0 ∨ Nat.pow 2 52 ≤ significand
  shift_le : shift ≤ 2045
  deriving DecidableEq, Repr

namespace Binary64

def zero : Binary64 := ⟨false, 0, 0, by decide, .inl rfl, by decide⟩

instance : Inhabited Binary64 := ⟨zero⟩

/-- How many units lie between zero and the reciprocal of the unit: `2 ^ 1074` of them make one. -/
def unitsPerOne : Nat := Nat.pow 2 1074

def magnitude (x : Binary64) : Nat := x.significand * Nat.pow 2 x.shift

/-- The value in units, with its sign; both zeros have value zero. -/
def units (x : Binary64) : Int := if x.negative then -(x.magnitude : Int) else x.magnitude

def ofParts? (negative : Bool) (significand shift : Nat) : Option Binary64 :=
  if h : significand < Nat.pow 2 53 ∧ (shift = 0 ∨ Nat.pow 2 52 ≤ significand) ∧ shift ≤ 2045 then
    some ⟨negative, significand, shift, h.1, h.2.1, h.2.2⟩
  else none

/-- The number nearest to `num / den` units; none where it would be infinite. -/
def ofRatio? (negative : Bool) (num den : Nat) : Option Binary64 :=
  let shift := (num / den).log2 - 52
  let significand := roundHalfEven num (den * Nat.pow 2 shift)
  if significand < Nat.pow 2 53 then ofParts? negative significand shift
  else ofParts? negative (significand / 2) (shift + 1)

def withSign (negative : Bool) (x : Binary64) : Binary64 := { x with negative }

/-- The magnitude times a power of ten, where the power is itself first rounded to a number. -/
def scaleUp? (x : Binary64) (exponent : Nat) : Option Binary64 :=
  ofRatio? x.negative (x.magnitude * nearestInteger (Nat.pow 10 exponent)) 1

def maxPowerOfTen : Nat := 308

/--
The magnitude over a power of ten. A power too large to be held is divided out in steps, each of
them rounded.
-/
def scaleDown? (x : Binary64) (exponent : Nat) : Option Binary64 :=
  steps (exponent / maxPowerOfTen) x exponent
where
  /-- At most `fuel` steps of `10 ^ maxPowerOfTen`. -/
  steps : Nat → Binary64 → Nat → Option Binary64
    | 0, x, exponent => ofRatio? x.negative x.magnitude (nearestInteger (Nat.pow 10 exponent))
    | fuel + 1, x, exponent =>
      if exponent ≤ maxPowerOfTen then
        ofRatio? x.negative x.magnitude (nearestInteger (Nat.pow 10 exponent))
      else if x.magnitude = 0 then some x
      else
        (ofRatio? x.negative x.magnitude (nearestInteger (Nat.pow 10 maxPowerOfTen))).bind
          (steps fuel · (exponent - maxPowerOfTen))

/--
The number read from a decimal: the significand is rounded first, then scaled by the power of ten.
None where the result is too large.
-/
def ofDecimal? (negative : Bool) (significand : Nat) (exponent : Int) : Option Binary64 :=
  match ofRatio? negative (significand * unitsPerOne) 1 with
  | none => none
  | some x =>
    if exponent < 0 then x.scaleDown? exponent.natAbs
    else if exponent.natAbs ≤ maxPowerOfTen then x.scaleUp? exponent.natAbs
    else if significand = 0 then some x
    else none

end Binary64

end TableQuery.Json
