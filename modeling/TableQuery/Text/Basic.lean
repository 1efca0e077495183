set_option autoImplicit false

namespace TableQuery.Text

section Blanks

/-- The characters with the Unicode property `White_Space`. -/
def isBlank (c : Char) : Bool :=
  let code := c.toNat
  (0x9 ≤ code && code ≤ 0xd) || code == 0x20 || code == 0x85 || code == 0xa0 || code == 0x1680 ||
    (0x2000 ≤ code && code ≤ 0x200a) || code == 0x2028 || code == 0x2029 || code == 0x202f ||
    code == 0x205f || code == 0x3000

/-- A list of characters without the blanks at its ends. -/
def trimChars (cs : List Char) : List Char :=
  ((cs.dropWhile isBlank).reverse.dropWhile isBlank).reverse

def trim (s : String) : String := String.ofList (trimChars s.toList)

/-- Whether a text holds nothing but blanks. -/
def isAllBlank (s : String) : Bool := s.toList.all isBlank

end Blanks

section Integers

def isDigit (c : Char) : Bool := '0' ≤ c && c ≤ '9'

def digitsValue (digits : List Char) : Nat :=
  digits.foldl (fun value c => 10 * value + (c.toNat - '0'.toNat)) 0

def digits? (cs : List Char) : Option Nat :=
  if !cs.isEmpty && cs.all isDigit then some (digitsValue cs) else none

def integer? : List Char → Option Int
  | '+' :: digits => (digits? digits).map Int.ofNat
  | '-' :: digits => (digits? digits).map (fun n => -Int.ofNat n)
  | digits => (digits? digits).map Int.ofNat

/-- An unsigned integer; a plus sign is allowed. -/
def natural? : List Char → Option Nat
  | '+' :: digits => digits? digits
  | digits => digits? digits

def int64? (cs : List Char) : Option Int64 :=
  (integer? cs).bind fun n => if -(Int.pow 2 63) ≤ n ∧ n < Int.pow 2 63 then some (Int64.ofInt n) else none

/-- A place in a list: an unsigned integer below `2 ^ 64`. -/
def index? (cs : List Char) : Option Nat :=
  (natural? cs).bind fun n => if n < Nat.pow 2 64 then some n else none

end Integers

/-- The parts of a text between the places of a separator; there is always at least one. -/
def split (separator : Char) : List Char → List (List Char)
  | [] => [[]]
  | c :: rest =>
    if c = separator then [] :: split separator rest
    else
      match split separator rest with
      | [] => [[c]]
      | first :: others => (c :: first) :: others

end TableQuery.Text
