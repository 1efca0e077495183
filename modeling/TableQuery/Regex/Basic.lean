import TableQuery.Regex.CharSet

set_option autoImplicit false

/- Places in a text are counted from zero, and a set of places is the natural number whose bit `i` tells
whether place `i` belongs to it. `Regex.ends` takes the set of places where a match may start to the set of
places where it may end, so a text is searched from all its places at once and no place is followed twice. -/
namespace TableQuery.Regex

/-- A condition on the characters before and after a place. -/
inductive Look where
  | textStart
  | textEnd
  | lineStart
  | lineEnd
  /-- As `lineStart`, where a carriage return also ends a line, alone or before a line feed. -/
  | returnLineStart
  | returnLineEnd
  /-- A word character on one side only; words of ASCII or of Unicode. -/
  | wordBoundary (ascii : Bool)
  | notWordBoundary (ascii : Bool)
  | wordStart (ascii : Bool)
  | wordEnd (ascii : Bool)
  | noWordBefore (ascii : Bool)
  | noWordAfter (ascii : Bool)
  deriving DecidableEq, Repr

def isWordAt (ascii : Bool) : Option Char → Bool
  | none => false
  | some c => if ascii then isAsciiWordChar c else isWordChar c

/-- Whether a condition holds between two characters, absent at the ends of the text. -/
def Look.holds (before after : Option Char) : Look → Bool
  | textStart => before.isNone
  | textEnd => after.isNone
  | lineStart => before.isNone || before == some '\n'
  | lineEnd => after.isNone || after == some '\n'
  | returnLineStart =>
    before.isNone || before == some '\n' || (before == some '\r' && after != some '\n')
  | returnLineEnd =>
    after.isNone || after == some '\r' || (after == some '\n' && before != some '\r')
  | wordBoundary ascii => isWordAt ascii before != isWordAt ascii after
  | notWordBoundary ascii => isWordAt ascii before == isWordAt ascii after
  | wordStart ascii => !isWordAt ascii before && isWordAt ascii after
  | wordEnd ascii => isWordAt ascii before && !isWordAt ascii after
  | noWordBefore ascii => !isWordAt ascii before
  | noWordAfter ascii => !isWordAt ascii after

/-- A part of an expression that is not made of others. -/
inductive Atom where
  /-- One character of a set. -/
  | char (set : CharSet)
  /-- No character, at a place where a condition holds. -/
  | look (condition : Look)
  deriving Repr, Inhabited

/-- An atom resolved against a text. -/
inductive Step where
  /-- From each place of a set to the next place. -/
  | advance (places : Nat)
  /-- From each place of a set to itself. -/
  | stay (places : Nat)
  deriving DecidableEq, Repr

end TableQuery.Regex

namespace TableQuery

/-- A regular expression over atoms. -/
inductive Regex (α : Type) where
  | empty
  | atom (a : α)
  | seq (a b : Regex α)
  | either (a b : Regex α)
  | star (a : Regex α)
  /-- At least `least` times, and at most `most` times where that is given. -/
  | times (a : Regex α) (least : Nat) (most : Option Nat)
  deriving Repr, Inhabited

namespace Regex

def map {α β : Type} (f : α → β) : Regex α → Regex β
  | empty => empty
  | atom a => atom (f a)
  | seq a b => seq (a.map f) (b.map f)
  | either a b => either (a.map f) (b.map f)
  | star a => star (a.map f)
  | times a least most => times (a.map f) least most

/-- The set of the places for which a list holds true. -/
def places (flags : List Bool) : Nat := flags.foldr (fun flag rest => 2 * rest + flag.toNat) 0

def surroundings (cs : List Char) : List (Option Char × Option Char) :=
  List.zip (none :: cs.map some) (cs.map some ++ [none])

def Atom.resolve (cs : List Char) : Atom → Step
  | char set => .advance (places (cs.map set.contains))
  | look condition => .stay (places ((surroundings cs).map fun s => condition.holds s.1 s.2))

def Step.ends (starts : Nat) : Step → Nat
  | advance allowed => 2 * (starts &&& allowed)
  | stay allowed => starts &&& allowed

/--
The places reached in at most `fuel` further rounds; `reached` holds all places so far and `recent`
those of the last round.
-/
def spread (next : Nat → Nat) : Nat → Nat → Nat → Nat
  | 0, reached, _ => reached
  | fuel + 1, reached, recent =>
    let found := (next recent ||| reached) ^^^ reached
    if found = 0 then reached else spread next fuel (reached ||| found) found

def rounds (next : Nat → Nat) : Nat → Nat → Nat
  | 0, starts => starts
  | count + 1, starts =>
    let ends := next starts
    if ends = starts then starts else rounds next count ends

/-- The places where a match may end that starts at one of `starts`, in a text of the given length. -/
def ends (length : Nat) : Regex Step → Nat → Nat
  | empty, starts => starts
  | atom step, starts => step.ends starts
  | seq a b, starts => b.ends length (a.ends length starts)
  | either a b, starts => a.ends length starts ||| b.ends length starts
  | star a, starts => spread (a.ends length) (length + 1) starts starts
  | times a least most, starts =>
    let reached := rounds (a.ends length) least starts
    spread (a.ends length) (match most with
      | none => length + 1
      | some most => most - least) reached reached

def occursIn (r : Regex Atom) (cs : List Char) : Bool :=
  (r.map (Atom.resolve cs)).ends cs.length (Nat.pow 2 (cs.length + 1) - 1) != 0

def onlyEmpty : Regex Atom → Bool
  | empty => true
  | atom (.char _) => false
  | atom (.look _) => true
  | seq a b => a.onlyEmpty && b.onlyEmpty
  | either a b => a.onlyEmpty && b.onlyEmpty
  | star a => a.onlyEmpty
  | times a _ most => a.onlyEmpty || most == some 0

end Regex

end TableQuery
