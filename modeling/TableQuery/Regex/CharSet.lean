import TableQuery.Unicode.Case
import TableQuery.Unicode.Category

set_option autoImplicit false

namespace TableQuery.Regex

open TableQuery.Unicode (CodePoints namedSet? categories properties)

/-- A set of characters. -/
inductive CharSet where
  | none
  | range (first last : Char)
  | table (points : CodePoints)
  | union (a b : CharSet)
  | inter (a b : CharSet)
  | diff (a b : CharSet)
  | symDiff (a b : CharSet)
  | compl (a : CharSet)
  /-- Every character that differs in case alone from one of the set. -/
  | folded (a : CharSet)
  /-- As `folded`, but for the letters of ASCII only. -/
  | asciiFolded (a : CharSet)
  deriving Repr, Inhabited

def asciiOtherCase (c : Char) : Char :=
  if 'a' ≤ c ∧ c ≤ 'z' then Char.ofNat (c.toNat - 32)
  else if 'A' ≤ c ∧ c ≤ 'Z' then Char.ofNat (c.toNat + 32)
  else c

namespace CharSet

/-- Whether a character belongs to the set. -/
def contains : CharSet → Char → Bool
  | none, _ => false
  | range first last, c => first ≤ c && c ≤ last
  | table points, c => points.contains c
  | union a b, c => a.contains c || b.contains c
  | inter a b, c => a.contains c && b.contains c
  | diff a b, c => a.contains c && !b.contains c
  | symDiff a b, c => a.contains c != b.contains c
  | compl a, c => !a.contains c
  | folded a, c => (Unicode.caseVariants c).any a.contains
  | asciiFolded a, c => a.contains c || a.contains (asciiOtherCase c)

def single (c : Char) : CharSet := range c c

def unionAll (sets : List CharSet) : CharSet := sets.foldr union none

/-- The set of the characters of ASCII that a list of ranges holds. -/
def ofRanges (ranges : List (Char × Char)) : CharSet :=
  unionAll (ranges.map fun r => range r.1 r.2)

def any : CharSet := range '\x00' (Char.ofNat 0x10ffff)

/-- A rough number of the ranges that make up the set. -/
def complexity : CharSet → Nat
  | none => 0
  | range _ _ => 1
  | table points => points.ranges.size
  | union a b => a.complexity + b.complexity
  | inter a b => a.complexity + b.complexity
  | diff a b => a.complexity + b.complexity
  | symDiff a b => a.complexity + b.complexity
  | compl a => a.complexity + 1
  | folded a => 2 * a.complexity
  | asciiFolded a => 2 * a.complexity

/-- Whether the set is built from characters of ASCII alone. -/
def isAscii : CharSet → Bool
  | none => true
  | range _ last => last.toNat < 0x80
  | table points => points.ranges.all (·.2 < 0x80)
  | union a b => a.isAscii && b.isAscii
  | inter a b => a.isAscii || b.isAscii
  | diff a _ => a.isAscii
  | symDiff a b => a.isAscii && b.isAscii
  | compl _ => false
  | folded _ => false
  | asciiFolded a => a.isAscii

end CharSet

/-- Decimal digits of every script. -/
def digitSet : CodePoints := (namedSet? categories "nd").getD default

def blankSet : CodePoints := (namedSet? properties "whitespace").getD default

/-- Letters and other alphabetic characters. -/
def alphabeticSet : CodePoints := (namedSet? properties "alphabetic").getD default

def numericSet : CodePoints := (namedSet? categories "n").getD default

def markSet : CodePoints := (namedSet? categories "m").getD default

/-- Punctuation that connects, such as the underscore. -/
def connectorSet : CodePoints := (namedSet? categories "pc").getD default

/-- Characters that control joining. -/
def joinSet : CodePoints := (namedSet? properties "joincontrol").getD default

/-- Word characters: alphabetic, marks, decimal digits, connectors and join controls. -/
def isWordChar (c : Char) : Bool :=
  alphabeticSet.contains c || markSet.contains c || digitSet.contains c || connectorSet.contains c ||
    joinSet.contains c

def wordSet : CharSet :=
  .unionAll [.table alphabeticSet, .table markSet, .table digitSet, .table connectorSet,
    .table joinSet]

def isAsciiWordChar (c : Char) : Bool := c.isAlphanum || c == '_'

end TableQuery.Regex
