import TableQuery.Unicode.CaseRuns
import TableQuery.Unicode.CodePoints
import TableQuery.Unicode.Property

set_option autoImplicit false

namespace TableQuery.Unicode

namespace CaseRun

def image? (r : CaseRun) (code : Nat) : Option Nat :=
  if r.first ≤ code ∧ code ≤ r.last ∧ (code - r.first) % r.step = 0 then
    some (r.image + (code - r.first))
  else none

def origin? (r : CaseRun) (image : Nat) : Option Nat :=
  if r.image ≤ image ∧ image - r.image ≤ r.last - r.first ∧ (image - r.image) % r.step = 0 then
    some (r.first + (image - r.image))
  else none

end CaseRun

def mapCase (runs : List CaseRun) (code : Nat) : Nat := (runs.findSome? (·.image? code)).getD code

/-- The representative of the characters that differ from `c` in case alone. -/
def foldCase (c : Char) : Char := Char.ofNat (mapCase foldRuns c.toNat)

/-- All characters that differ from `c` in case alone, `c` among them. -/
def caseVariants (c : Char) : List Char :=
  let image := mapCase foldRuns c.toNat
  Char.ofNat image :: (foldRuns.filterMap (·.origin? image)).map Char.ofNat

/-- The lower-case letter of a character other than the capital I with a dot. -/
def lowerChar (c : Char) : Char := Char.ofNat (mapCase lowerRuns c.toNat)

def cased : CodePoints := (namedSet? properties "cased").getD default

/-- Characters passed over when the end of a word is looked for. -/
def caseIgnorable : CodePoints := (namedSet? properties "caseignorable").getD default

/-- Whether the first character that is not passed over has case. -/
def startsCased (cs : List Char) : Bool :=
  match cs.dropWhile caseIgnorable.contains with
  | c :: _ => cased.contains c
  | [] => false

/-- The lower-case form of a text, given the characters before it in reverse. -/
def lowerAfter (before : List Char) : List Char → List Char
  | [] => []
  | c :: rest =>
    let lower :=
      if c = 'Σ' then
        if startsCased before && !startsCased rest then ['ς'] else ['σ']
      else if c = 'İ' then ['i', '\u0307']
      else [lowerChar c]
    lower ++ lowerAfter (c :: before) rest

def toLower (cs : List Char) : List Char := lowerAfter [] cs

end TableQuery.Unicode
