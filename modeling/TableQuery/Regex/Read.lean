import TableQuery.Regex.Bracket

set_option autoImplicit false

namespace TableQuery.Regex

/-- An expression together with how deep its written form nests. -/
structure Nested where
  regex : Regex Atom
  height : Nat
  deriving Repr, Inhabited

/-- How deep a pattern may nest. -/
def maxHeight : Nat := 250

/-- A part of a sequence. -/
inductive Item where
  | part (node : Nested)
  /-- Flags such as `(?i)`, which nothing can repeat. -/
  | flags
  deriving Repr, Inhabited

namespace Item

/-- The expression of a part; flags match the empty text. -/
def regex : Item → Regex Atom
  | part node => node.regex
  | flags => .empty

def height : Item → Nat
  | part node => node.height
  | flags => 0

end Item

def sequenceOf : List Item → Nested
  | [] => ⟨.empty, 0⟩
  | [item] => ⟨item.regex, item.height⟩
  | items =>
    ⟨items.foldl (fun rest item => .seq item.regex rest) .empty,
      (items.map Item.height).foldl max 0 + 1⟩

/-- The choice between the given alternatives, last first. -/
def choiceOf : List Nested → Nested
  | [] => ⟨.empty, 0⟩
  | [only] => only
  | last :: others =>
    ⟨others.foldl (fun rest alternative => .either alternative.regex rest) last.regex,
      ((last :: others).map (·.height)).foldl max 0 + 1⟩

/-- A group that is still open: what was read before it and the modes to return to. -/
structure OpenGroup where
  alternatives : List Nested
  items : List Item
  modes : Modes
  deriving Repr, Inhabited

/-- What was read of a pattern so far. -/
structure Reading where
  groups : List OpenGroup
  /-- The finished alternatives of the innermost group, last first. -/
  alternatives : List Nested
  /-- The parts of the current alternative, last first. -/
  items : List Item
  modes : Modes
  names : List (List Char)
  deriving Repr, Inhabited

namespace Reading

def push (r : Reading) (node : Nested) : Reading := { r with items := .part node :: r.items }

def pushAtom (r : Reading) (a : Atom) : Reading := r.push ⟨.atom a, 0⟩

def body (r : Reading) : Nested := choiceOf (sequenceOf r.items :: r.alternatives)

def openGroup (r : Reading) (modes : Modes) : Reading :=
  { r with
    groups := ⟨r.alternatives, r.items, r.modes⟩ :: r.groups
    alternatives := []
    items := []
    modes }

def closeGroup? (r : Reading) : Option Reading :=
  match r.groups with
  | [] => none
  | group :: groups =>
    let inner := r.body
    some
      { r with
        groups
        alternatives := group.alternatives
        items := .part ⟨inner.regex, inner.height + 1⟩ :: group.items
        modes := group.modes }

def nextAlternative (r : Reading) : Reading :=
  { r with alternatives := sequenceOf r.items :: r.alternatives, items := [] }

def repeat? (r : Reading) (wrap : Regex Atom → Regex Atom) : Option Reading :=
  match r.items with
  | .part node :: items => some { r with items := .part ⟨wrap node.regex, node.height + 1⟩ :: items }
  | _ => none

def finish? (r : Reading) : Option (Regex Atom) :=
  let whole := r.body
  if r.groups.isEmpty && whole.height ≤ maxHeight then some whole.regex else none

end Reading

def setMode? (m : Modes) (flag : Char) (on : Bool) : Option Modes :=
  match flag with
  | 'i' => some { m with ignoreCase := on }
  | 'm' => some { m with multiLine := on }
  | 's' => some { m with dotAll := on }
  | 'x' => some { m with verbose := on }
  | 'R' => some { m with returns := on }
  | 'u' => some { m with unicode := on }
  | 'U' => some m
  | _ => none

/--
Reads flags up to a colon or a closing parenthesis. Answers the modes, whether there were any flags,
and the rest from that character on.
-/
def readFlags (m : Modes) : List Char → Bool → List Char → Option (Modes × Bool × List Char)
  | _, _, [] => none
  | seen, negated, c :: rest =>
    if c = ':' ∨ c = ')' then
      if seen.head? = some '-' then none else some (m, !seen.isEmpty, c :: rest)
    else if seen.contains c then none
    else if c = '-' then readFlags m (c :: seen) true rest
    else
      match setMode? m c (!negated) with
      | some m => readFlags m (c :: seen) negated rest
      | none => none

/-- Whether a character may stand in the name of a group. -/
def isNameChar (first : Bool) (c : Char) : Bool :=
  c == '_' || alphabeticSet.contains c ||
    (!first && (c == '.' || c == '[' || c == ']' || numericSet.contains c))

/-- Reads the name of a group up to its closing angle bracket. -/
def groupName : List Char → List Char → Option (List Char × List Char)
  | _, [] => none
  | name, c :: rest =>
    if c = '>' then if name.isEmpty then none else some (name.reverse, rest)
    else if isNameChar name.isEmpty c then groupName (c :: name) rest
    else none

/-- Reads the start of a group, or flags, after the opening parenthesis. -/
def groupStart (r : Reading) (cs : List Char) : Option (Reading × List Char) :=
  match r.modes.skip cs with
  | '?' :: '=' :: _ => none
  | '?' :: '!' :: _ => none
  | '?' :: '<' :: '=' :: _ => none
  | '?' :: '<' :: '!' :: _ => none
  | '?' :: 'P' :: '<' :: rest => named rest
  | '?' :: '<' :: rest => named rest
  | '?' :: rest => do
    let (modes, any, rest) ← readFlags r.modes [] false rest
    match rest with
    | ')' :: rest =>
      if any then some ({ r with items := .flags :: r.items, modes }, rest) else none
    | ':' :: rest => some (r.openGroup modes, rest)
    | _ => none
  | rest => some (r.openGroup r.modes, rest)
where
  /-- Opens a group with a name, which no other group may have. -/
  named (cs : List Char) : Option (Reading × List Char) := do
    let (name, rest) ← groupName [] cs
    if r.names.contains name then none
    else some ({ r.openGroup r.modes with names := name :: r.names }, rest)

def maxCount : Nat := Nat.pow 2 32 - 1

/-- Reads a count, with blanks around it; none where there are no digits or the count is too large. -/
def readCount (m : Modes) (cs : List Char) : Option (Nat × List Char) :=
  let (digits, rest) := digitsFrom (cs.length + 1) [] (cs.dropWhile Text.isBlank)
  let value := Text.digitsValue digits
  if digits.isEmpty || maxCount < value then none else some (value, blanksFrom (rest.length + 1) rest)
where
  /-- Reads digits, in at most `fuel` steps. -/
  digitsFrom : Nat → List Char → List Char → List Char × List Char
    | 0, digits, cs => (digits.reverse, cs)
    | _ + 1, digits, [] => (digits.reverse, [])
    | fuel + 1, digits, c :: rest =>
      if Text.isDigit c then digitsFrom fuel (c :: digits) (m.skip rest)
      else (digits.reverse, c :: rest)
  /-- Passes over blanks, in at most `fuel` steps. -/
  blanksFrom : Nat → List Char → List Char
    | 0, cs => cs
    | _ + 1, [] => []
    | fuel + 1, c :: rest => if Text.isBlank c then blanksFrom fuel (m.skip rest) else c :: rest

def skipLazy : List Char → List Char
  | '?' :: rest => rest
  | rest => rest

def counted (r : Reading) (cs : List Char) : Option (Reading × List Char) := do
  let m := r.modes
  let (least, rest) ← readCount m (m.skip cs)
  let (most, rest) ← match rest with
    | ',' :: rest =>
      match m.skip rest with
      | [] => none
      | '\x7d' :: rest => some (none, '\x7d' :: rest)
      | rest => (readCount m rest).map fun (most, rest) => (some most, rest)
    | rest => some (some least, rest)
  match rest with
  | '\x7d' :: rest =>
    if most.any (· < least) then none
    else some (← r.repeat? (Regex.times · least most), skipLazy (m.skip rest))
  | _ => none

def literalAtom (m : Modes) (c : Char) : Atom := .char (m.fold (.single c))

/-- The atom of a primitive; outside Unicode mode a byte must be one of ASCII. -/
def Primitive.atom? (m : Modes) : Primitive → Option Atom
  | literal c byte =>
    if byte && !m.unicode && 0x80 ≤ c.toNat then none
    else some (literalAtom m c)
  | set s => some (.char s)
  | look condition => some (.look condition)

/-- The atom of the dot; outside Unicode mode there is none. -/
def dotAtom? (m : Modes) : Option Atom :=
  if !m.unicode then none
  else if m.dotAll then some (.char .any)
  else if m.returns then some (.char (.compl (.ofRanges [('\n', '\n'), ('\r', '\r')])))
  else some (.char (.compl (.single '\n')))

def startLook (m : Modes) : Look :=
  if m.multiLine then (if m.returns then .returnLineStart else .lineStart) else .textStart

def endLook (m : Modes) : Look :=
  if m.multiLine then (if m.returns then .returnLineEnd else .lineEnd) else .textEnd

def readPart (r : Reading) : List Char → Option (Reading × List Char)
  | [] => none
  | '(' :: rest => groupStart r rest
  | ')' :: rest => r.closeGroup?.map (·, rest)
  | '|' :: rest => some (r.nextAlternative, rest)
  | '[' :: rest => do
    let (s, rest) ← bracket r.modes rest
    some (r.push ⟨.atom (.char s.set), s.height⟩, rest)
  | '?' :: rest => (r.repeat? (Regex.times · 0 (some 1))).map (·, skipLazy rest)
  | '*' :: rest => (r.repeat? Regex.star).map (·, skipLazy rest)
  | '+' :: rest => (r.repeat? (Regex.times · 1 none)).map (·, skipLazy rest)
  | '\x7b' :: rest => counted r rest
  | '\\' :: rest => do
    let (primitive, rest) ← escape r.modes rest
    some (r.pushAtom (← primitive.atom? r.modes), rest)
  | '.' :: rest => (dotAtom? r.modes).map (r.pushAtom ·, rest)
  | '^' :: rest => some (r.pushAtom (.look (startLook r.modes)), rest)
  | '$' :: rest => some (r.pushAtom (.look (endLook r.modes)), rest)
  | c :: rest => some (r.pushAtom (literalAtom r.modes c), rest)

/-- Reads the parts of a pattern up to its end, at most `fuel` of them. -/
def readParts : Nat → Reading → List Char → Option Reading
  | 0, _, _ => none
  | fuel + 1, r, cs =>
    match r.modes.skip cs with
    | [] => some r
    | cs => (readPart r cs).bind fun (r, rest) => readParts fuel r rest

/-- The expression that a pattern writes, with or without regard to case. -/
def read? (ignoreCase : Bool) (pattern : List Char) : Option (Regex Atom) :=
  (readParts (pattern.length + 1)
    { groups := [], alternatives := [], items := [], modes := { ignoreCase }, names := [] }
    pattern).bind Reading.finish?

/-- How many bytes the compiled form of an atom takes, roughly. -/
def Atom.cost : Atom → Nat
  | char (.range first last) =>
    if first = last then 32 * first.utf8Size
    else if last.toNat < 0x80 then 40
    else 400
  | char (.folded (.range first last)) =>
    if first = last && first.toNat < 0x80 then 48 else 440
  | char set => if set.isAscii then 32 + 8 * set.complexity else 400 + 20 * set.complexity
  | look _ => 32

/-- How many bytes the compiled form of an expression takes, roughly. -/
def cost : Regex Atom → Nat
  | .empty => 32
  | .atom a => a.cost
  | .seq a b => a.cost + b.cost
  | .either a b => a.cost + b.cost + 40
  | .star a => a.cost + 40
  | .times a least most =>
    if a.onlyEmpty then a.cost + 40
    else match most with
      | none => a.cost * (max least 1) + 40
      | some most => a.cost * least + (a.cost + 40) * (most - least)

/-- How many bytes the compiled form may take. -/
def maxCost : Nat := 10 * Nat.pow 2 20

/-- Whether the compiled form is small enough, as far as its rough size tells. -/
def fits (r : Regex Atom) : Bool := cost r ≤ maxCost

end TableQuery.Regex
