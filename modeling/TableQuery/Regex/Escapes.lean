import TableQuery.Regex.Basic
import TableQuery.Regex.Named
import TableQuery.Text.Basic

set_option autoImplicit false

namespace TableQuery.Regex

/-- The modes that flags such as `(?i)` switch on and off. -/
structure Modes where
  ignoreCase : Bool := false
  /-- `^` and `$` also hold at the ends of lines. -/
  multiLine : Bool := false
  /-- `.` matches line feeds too. -/
  dotAll : Bool := false
  /-- Blanks and comments in the pattern are passed over. -/
  verbose : Bool := false
  /-- Carriage returns end lines too. -/
  returns : Bool := false
  unicode : Bool := true
  deriving DecidableEq, Repr, Inhabited

namespace Modes

/-- Passes over a comment, up to and with the end of its line. -/
def skipComment : List Char → List Char
  | [] => []
  | c :: rest => if c = '\n' then rest else skipComment rest

/-- Passes over blanks and comments, in at most `fuel` steps. -/
def skipFrom : Nat → List Char → List Char
  | 0, cs => cs
  | _ + 1, [] => []
  | fuel + 1, c :: rest =>
    if Text.isBlank c then skipFrom fuel rest
    else if c = '#' then skipFrom fuel (skipComment rest)
    else c :: rest

def skip (m : Modes) (cs : List Char) : List Char :=
  if m.verbose then skipFrom (cs.length + 1) cs else cs

/-- The set closed under case, where case is ignored. -/
def fold (m : Modes) (s : CharSet) : CharSet :=
  if m.ignoreCase then (if m.unicode then .folded s else .asciiFolded s) else s

/-- The complement of a set; outside Unicode mode there is none. -/
def complement? (m : Modes) (s : CharSet) : Option CharSet :=
  if m.unicode then some (.compl s) else none

def foldAndNegate? (m : Modes) (negated : Bool) (s : CharSet) : Option CharSet :=
  if negated then m.complement? (m.fold s) else some (m.fold s)

end Modes

/-- A part of a pattern that stands for one character or for none. -/
inductive Primitive where
  /-- A character; `byte` where it is written as two hexadecimal digits. -/
  | literal (c : Char) (byte : Bool)
  | set (s : CharSet)
  | look (condition : Look)
  deriving Repr, Inhabited

/-- The characters with a meaning of their own, which a backslash takes away. -/
def isMeta (c : Char) : Bool :=
  c == '\\' || c == '.' || c == '+' || c == '*' || c == '?' || c == '(' || c == ')' || c == '|' ||
    c == '[' || c == ']' || c == '\x7b' || c == '\x7d' || c == '^' || c == '$' || c == '#' ||
    c == '&' || c == '-' || c == '~'

def isEscapable (c : Char) : Bool :=
  isMeta c || (c.toNat < 0x80 && !c.isAlphanum && c != '<' && c != '>')

def charOfCode? (code : Nat) : Option Char :=
  if h : code.isValidChar then some ⟨code.toUInt32, by
    rcases h with h | h <;> simp [UInt32.isValidChar, Nat.isValidChar] <;> omega⟩
  else none

def bracedHex (m : Modes) : Nat → List Char → List Char → Option (List Char × List Char)
  | 0, _, _ => none
  | _ + 1, _, [] => none
  | fuel + 1, digits, c :: rest =>
    if c = '\x7d' then some (digits.reverse, m.skip rest)
    else if (Unicode.hexDigit? c).isSome then bracedHex m fuel (c :: digits) (m.skip rest)
    else none

def fixedHex (m : Modes) : Nat → List Char → List Char → Option (List Char × List Char)
  | 0, digits, cs => some (digits.reverse, cs)
  | _ + 1, _, [] => none
  | count + 1, digits, c :: rest =>
    if (Unicode.hexDigit? c).isSome then fixedHex m count (c :: digits) (m.skip rest) else none

/-- Reads a character given by its code, after the letter `x`, `u` or `U`. -/
def hexEscape (m : Modes) (letter : Char) (cs : List Char) : Option (Primitive × List Char) := do
  let cs := m.skip cs
  match cs with
  | '\x7b' :: rest =>
    let (digits, rest) ← bracedHex m (rest.length + 1) [] (m.skip rest)
    if digits.isEmpty then none
    let c ← charOfCode? (← Unicode.hexNumber? digits)
    some (.literal c false, rest)
  | _ =>
    let count := if letter = 'x' then 2 else if letter = 'u' then 4 else 8
    let (digits, rest) ← fixedHex m count [] cs
    let c ← charOfCode? (← Unicode.hexNumber? digits)
    some (.literal c (letter = 'x'), rest)

def bracedName (m : Modes) : Nat → List Char → List Char → Option (List Char × List Char)
  | 0, _, _ => none
  | _ + 1, _, [] => none
  | fuel + 1, name, c :: rest =>
    if c = '\x7d' then some (name.reverse, rest)
    else bracedName m fuel (c :: name) (m.skip rest)

def unicodeEscape (m : Modes) (negated : Bool) (cs : List Char) :
    Option (Primitive × List Char) := do
  if !m.unicode then none
  let (found, rest) ← match m.skip cs with
    | [] => none
    | '\x7b' :: rest => do
      let (name, rest) ← bracedName m (rest.length + 1) [] (m.skip rest)
      some (bracedClass? name, rest)
    | '\\' :: _ => none
    | c :: rest => some (namedClass? [c], m.skip rest)
  some (.set (← m.foldAndNegate? negated (← found)), rest)

/-- Reads the letters of a word boundary such as `start`, up to a closing brace. -/
def boundaryName (m : Modes) : Nat → List Char → List Char → Option (List Char × List Char)
  | 0, _, _ => none
  | _ + 1, _, [] => none
  | fuel + 1, name, c :: rest =>
    if c = '\x7d' then some (name.reverse, rest)
    else if c.isAlpha || c = '-' then boundaryName m fuel (c :: name) (m.skip rest)
    else none

/-- Reads a word boundary after `\b`: braces that start with a letter give its kind. -/
def boundaryEscape (m : Modes) (cs : List Char) : Option (Primitive × List Char) :=
  let plain : Option (Primitive × List Char) := some (.look (.wordBoundary (!m.unicode)), cs)
  match cs with
  | '\x7b' :: rest =>
    match m.skip rest with
    | [] => none
    | c :: inner =>
      if c.isAlpha || c = '-' then do
        let (name, rest) ← boundaryName m (inner.length + 2) [] (c :: inner)
        let look ← match String.ofList name with
          | "start" => some (Look.wordStart (!m.unicode))
          | "end" => some (Look.wordEnd (!m.unicode))
          | "start-half" => some (Look.noWordBefore (!m.unicode))
          | "end-half" => some (Look.noWordAfter (!m.unicode))
          | _ => none
        some (.look look, rest)
      else plain
  | _ => plain

def escape (m : Modes) : List Char → Option (Primitive × List Char)
  | [] => none
  | c :: rest =>
    if c = 'x' ∨ c = 'u' ∨ c = 'U' then hexEscape m c rest
    else if c = 'p' ∨ c = 'P' then unicodeEscape m (c = 'P') rest
    else if c = 'd' ∨ c = 's' ∨ c = 'w' then some (.set (shorthand m.unicode c), rest)
    else if c = 'D' ∨ c = 'S' ∨ c = 'W' then do
      some (.set (← m.complement? (shorthand m.unicode c.toLower)), rest)
    else if isEscapable c then some (.literal c false, rest)
    else match c with
      | 'a' => some (.literal '\x07' false, rest)
      | 'f' => some (.literal '\x0c' false, rest)
      | 't' => some (.literal '\t' false, rest)
      | 'n' => some (.literal '\n' false, rest)
      | 'r' => some (.literal '\r' false, rest)
      | 'v' => some (.literal '\x0b' false, rest)
      | 'A' => some (.look .textStart, rest)
      | 'z' => some (.look .textEnd, rest)
      | 'b' => boundaryEscape m rest
      | 'B' => some (.look (.notWordBoundary (!m.unicode)), rest)
      | '<' => some (.look (.wordStart (!m.unicode)), rest)
      | '>' => some (.look (.wordEnd (!m.unicode)), rest)
      | _ => none

end TableQuery.Regex
