set_option autoImplicit false

namespace TableQuery.Unicode

/-- Ascending ranges of code points, both ends included. -/
structure CodePoints where
  ranges : Array (Nat × Nat)
  deriving DecidableEq, Repr, Inhabited

def hexDigit? (c : Char) : Option Nat :=
  if '0' ≤ c ∧ c ≤ '9' then some (c.toNat - '0'.toNat)
  else if 'a' ≤ c ∧ c ≤ 'f' then some (c.toNat - 'a'.toNat + 10)
  else if 'A' ≤ c ∧ c ≤ 'F' then some (c.toNat - 'A'.toNat + 10)
  else none

def hexNumber? (digits : List Char) : Option Nat :=
  digits.foldl (fun value c => value.bind fun v => (hexDigit? c).map (16 * v + ·)) (some 0)

namespace CodePoints

/-- State of reading ranges: the ranges so far, the start of the current one, and its number so far. -/
structure Reading where
  ranges : Array (Nat × Nat)
  first : Option Nat
  number : Option Nat

def Reading.close (r : Reading) : Array (Nat × Nat) :=
  match r.number with
  | some last => r.ranges.push (r.first.getD last, last)
  | none => r.ranges

/-- Reads one more character; blanks and line ends part the ranges. -/
def Reading.step (r : Reading) (c : Char) : Reading :=
  match hexDigit? c with
  | some digit => { r with number := some (16 * r.number.getD 0 + digit) }
  | none => if c = '-' then ⟨r.ranges, r.number, none⟩ else ⟨r.close, none, none⟩

def ofText (text : String) : CodePoints := ⟨(text.toList.foldl Reading.step ⟨#[], none, none⟩).close⟩

/-- Binary search among the ranges from `low` on, before `high`. -/
def search (ranges : Array (Nat × Nat)) (code : Nat) : Nat → Nat → Nat → Bool
  | 0, _, _ => false
  | fuel + 1, low, high =>
    if low < high then
      let middle := (low + high) / 2
      match ranges[middle]? with
      | none => false
      | some (first, last) =>
        if code < first then search ranges code fuel low middle
        else if last < code then search ranges code fuel (middle + 1) high
        else true
    else false

def contains (s : CodePoints) (c : Char) : Bool :=
  search s.ranges c.toNat (s.ranges.size + 1) 0 s.ranges.size

end CodePoints

/-- The code points that a table of named sets gives under a name. -/
def namedSet? (table : List (List String × String)) (name : String) : Option CodePoints :=
  (table.find? (·.1.contains name)).map (CodePoints.ofText ·.2)

end TableQuery.Unicode
