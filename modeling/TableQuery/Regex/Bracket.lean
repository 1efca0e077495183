import TableQuery.Regex.Escapes

set_option autoImplicit false

namespace TableQuery.Regex

/-- A set together with how deep its written form nests. -/
structure NestedSet where
  set : CharSet
  height : Nat
  deriving Repr, Inhabited

/-- An operator between the parts of a class. -/
inductive SetOp where
  | inter
  | diff
  | symDiff
  deriving DecidableEq, Repr

def SetOp.apply : SetOp → CharSet → CharSet → CharSet
  | inter => .inter
  | diff => .diff
  | symDiff => .symDiff

/-- An open bracket: what was read in it so far. -/
structure OpenBracket where
  negated : Bool
  /-- The left side of an operator that still lacks its right side. -/
  left : Option (SetOp × NestedSet)
  /-- The parts since then, last first. -/
  parts : List NestedSet
  deriving Repr, Inhabited

namespace OpenBracket

def push (b : OpenBracket) (part : NestedSet) : OpenBracket := { b with parts := part :: b.parts }

def joined (b : OpenBracket) : NestedSet :=
  match b.parts with
  | [] => ⟨.none, 0⟩
  | [part] => part
  | parts => ⟨.unionAll (parts.reverse.map (·.set)), (parts.map (·.height)).foldl max 0 + 1⟩

def combined (b : OpenBracket) (m : Modes) : NestedSet :=
  match b.left with
  | none => b.joined
  | some (op, left) =>
    let right := b.joined
    ⟨op.apply (m.fold left.set) (m.fold right.set), max left.height right.height + 1⟩

def operator (b : OpenBracket) (m : Modes) (op : SetOp) : OpenBracket :=
  { b with left := some (op, b.combined m), parts := [] }

def close? (b : OpenBracket) (m : Modes) : Option NestedSet :=
  let inner := b.combined m
  (m.foldAndNegate? b.negated inner.set).map (⟨·, inner.height + 1⟩)

end OpenBracket

/-- A character as a member of a class; outside Unicode mode it has to be one of ASCII. -/
def memberSet? (m : Modes) (c : Char) : Option CharSet :=
  if m.unicode || c.toNat < 0x80 then some (.single c) else none

/-- Reads hyphens at the front of a class, which stand for themselves. -/
def leadingHyphens (m : Modes) : Nat → OpenBracket → List Char → OpenBracket × List Char
  | 0, b, cs => (b, cs)
  | fuel + 1, b, cs =>
    match cs with
    | '-' :: rest => leadingHyphens m fuel (b.push ⟨.single '-', 0⟩) (m.skip rest)
    | _ => (b, cs)

/-- Reads an opening bracket, a negation, and a leading bracket or hyphens, after the bracket itself. -/
def openBracket (m : Modes) (cs : List Char) : Option (OpenBracket × List Char) :=
  let cs := m.skip cs
  let (negated, cs) := match cs with
    | '^' :: rest => (true, m.skip rest)
    | cs => (false, cs)
  let (bracket, cs) := leadingHyphens m (cs.length + 1) ⟨negated, none, []⟩ cs
  match cs with
  | [] => none
  | ']' :: rest =>
    if bracket.parts.isEmpty then
      match m.skip rest with
      | [] => none
      | cs => some (bracket.push ⟨.single ']', 0⟩, cs)
    else some (bracket, cs)
  | cs => some (bracket, cs)

/-- Reads a class of ASCII such as `[:alpha:]` after its bracket. -/
def asciiBracket (m : Modes) (cs : List Char) : Option (CharSet × List Char) :=
  match cs with
  | ':' :: rest =>
    let (negated, rest) := match rest with
      | '^' :: rest => (true, rest)
      | rest => (false, rest)
    match rest.dropWhile (· ≠ ':') with
    | ':' :: ']' :: after => do
      let set ← asciiClass? (String.ofList (rest.takeWhile (· ≠ ':')))
      some (← m.foldAndNegate? negated set, after)
    | _ => none
  | _ => none

def isAsciiBracket (cs : List Char) : Bool :=
  (asciiBracket { unicode := true } cs).isSome

def bracketPrimitive (m : Modes) : List Char → Option (Primitive × List Char)
  | [] => none
  | '\\' :: rest => escape m rest
  | c :: rest => some (.literal c false, rest)

/-- The next character after the current one, less blanks and a comment mark in verbose mode. -/
def peekAfter (m : Modes) (cs : List Char) : Option Char :=
  let rest := cs.drop 1
  if m.verbose then
    match rest.dropWhile Text.isBlank with
    | '#' :: rest => (rest.dropWhile Text.isBlank).head?
    | rest => rest.head?
  else rest.head?

def partOf? (m : Modes) : Primitive → Option NestedSet
  | .literal c _ => (memberSet? m c).map (⟨·, 0⟩)
  | .set s => some ⟨s, 0⟩
  | .look _ => none

/-- Reads a part of a class: a character, an escape, or a range. -/
def bracketPart (m : Modes) (cs : List Char) : Option (NestedSet × List Char) := do
  let (low, rest) ← bracketPrimitive m cs
  let rest := m.skip rest
  let next := peekAfter m rest
  if rest.isEmpty then none
  else if rest.head? ≠ some '-' ∨ next = some ']' ∨ next = some '-' then
    some (← partOf? m low, rest)
  else
    let (high, rest) ← bracketPrimitive m (m.skip (rest.drop 1))
    match low, high with
    | .literal first _, .literal last _ =>
      let _ ← memberSet? m first
      let _ ← memberSet? m last
      if first ≤ last then some (⟨.range first last, 0⟩, rest) else none
    | _, _ => none

/-- Reads the rest of a class inside its open brackets, the innermost first, in at most `fuel` steps. -/
def bracketRest (m : Modes) :
    Nat → OpenBracket → List OpenBracket → List Char → Option (NestedSet × List Char)
  | 0, _, _, _ => none
  | fuel + 1, current, outer, cs =>
    match m.skip cs with
    | [] => none
    | '[' :: rest =>
      if isAsciiBracket rest then do
        let (set, rest) ← asciiBracket m rest
        bracketRest m fuel (current.push ⟨set, 0⟩) outer rest
      else do
        let (inner, rest) ← openBracket m rest
        bracketRest m fuel inner (current :: outer) rest
    | ']' :: rest => do
      let closed ← current.close? m
      match outer with
      | [] => some (closed, rest)
      | parent :: outer => bracketRest m fuel (parent.push closed) outer rest
    | '&' :: '&' :: rest => bracketRest m fuel (current.operator m .inter) outer rest
    | '-' :: '-' :: rest => bracketRest m fuel (current.operator m .diff) outer rest
    | '~' :: '~' :: rest => bracketRest m fuel (current.operator m .symDiff) outer rest
    | cs => do
      let (part, rest) ← bracketPart m cs
      bracketRest m fuel (current.push part) outer rest

def bracket (m : Modes) (cs : List Char) : Option (NestedSet × List Char) := do
  let (opened, rest) ← openBracket m cs
  bracketRest m (2 * cs.length + 2) opened [] rest

end TableQuery.Regex
