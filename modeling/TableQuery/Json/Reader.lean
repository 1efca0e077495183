import TableQuery.Json.Error
import TableQuery.Text.Basic

set_option autoImplicit false

namespace TableQuery.Json

/-- Reads something off the front of the characters. -/
abbrev Reader (α : Type) := List Char → Except Error (α × List Char)

/-- How deep arrays and objects may nest. -/
def maxDepth : Nat := 127

namespace Reader

def refuse {α : Type} (reason : TextError) : Except Error α := .error (.text reason)

def isBlank (c : Char) : Bool := c == ' ' || c == '\n' || c == '\t' || c == '\r'

def skipBlanks (cs : List Char) : List Char := cs.dropWhile isBlank

def word : List Char → List Char → Except Error (List Char)
  | [], rest => .ok rest
  | _ :: _, [] => refuse .endInValue
  | w :: ws, c :: rest => if w = c then word ws rest else refuse .expectedWord

def simpleEscape? : Char → Option Char
  | '"' => some '"'
  | '\\' => some '\\'
  | '/' => some '/'
  | 'b' => some '\x08'
  | 'f' => some '\x0c'
  | 'n' => some '\n'
  | 'r' => some '\r'
  | 't' => some '\t'
  | _ => none

def hex4? (a b c d : Char) : Option Nat := Unicode.hexNumber? [a, b, c, d]

/-- Whether a code is the first half of a surrogate pair. -/
def isLeading (code : Nat) : Bool := 0xd800 ≤ code && code < 0xdc00

/-- Whether a code is the second half of a surrogate pair. -/
def isTrailing (code : Nat) : Bool := 0xdc00 ≤ code && code < 0xe000

/-- Why an escape of fewer than four characters fails: too few bytes, or wrong digits. -/
def shortEscape (rest : List Char) : TextError :=
  if (String.ofList rest).utf8ByteSize < 4 then .endInString else .invalidEscape

/-- Reads the characters of a string up to its closing quote; `done` holds those before, reversed. -/
def stringBody (done : List Char) : List Char → Except Error (List Char × List Char)
  | [] => refuse .endInString
  | '"' :: rest => .ok (done.reverse, rest)
  | '\\' :: 'u' :: a :: b :: c :: d :: rest =>
    match hex4? a b c d with
    | none => refuse .invalidEscape
    | some code =>
      if isTrailing code then refuse .loneSurrogate
      else if isLeading code then
        match rest with
        | [] => refuse .endInString
        | ['\\'] => refuse .endInString
        | '\\' :: 'u' :: e :: f :: g :: h :: rest =>
          match hex4? e f g h with
          | none => refuse .invalidEscape
          | some second =>
            if isTrailing second then
              stringBody
                (Char.ofNat (0x10000 + (code - 0xd800) * 0x400 + (second - 0xdc00)) :: done) rest
            else refuse .loneSurrogate
        | '\\' :: 'u' :: short => refuse (shortEscape short)
        | _ => refuse .unfinishedSurrogate
      else stringBody (Char.ofNat code :: done) rest
  | '\\' :: 'u' :: short => refuse (shortEscape short)
  | '\\' :: c :: rest =>
    match simpleEscape? c with
    | some plain => stringBody (plain :: done) rest
    | none => refuse .invalidEscape
  | ['\\'] => refuse .endInString
  | c :: rest => if c.toNat < 0x20 then refuse .controlCharacter else stringBody (c :: done) rest

def stringRest : Reader String := fun cs =>
  (stringBody [] cs).map fun (body, rest) => (String.ofList body, rest)

/-- The largest integer that is kept exactly while a number is read. -/
def significandLimit : Nat := Nat.pow 2 64 - 1

/--
Appends digits to a number while it stays within `significandLimit`. Answers the number, how many
digits were appended and how many were left over.
-/
def absorb (significand taken : Nat) : List Char → Nat × Nat × Nat
  | [] => (significand, taken, 0)
  | c :: rest =>
    let next := 10 * significand + (c.toNat - '0'.toNat)
    if next ≤ significandLimit then absorb next (taken + 1) rest
    else (significand, taken, (c :: rest).length)

/-- The largest exponent that is computed with; a larger one stands for infinity. -/
def exponentLimit : Nat := Nat.pow 2 31 - 1

/-- The number of a double, or a refusal where there is none. -/
def realNumber : Option Binary64 → Except Error Number
  | some x => .ok (.real x)
  | none => refuse .numberTooLarge

/-- The double of a decimal, or a refusal where it is too large. -/
def real (negative : Bool) (significand : Nat) (exponent : Int) (rest : List Char) :
    Except Error (Number × List Char) :=
  (realNumber (Binary64.ofDecimal? negative significand exponent)).map (·, rest)

def exponentPart (negative : Bool) (significand : Nat) (exponent : Int) : Reader Number := fun cs =>
  let (down, cs) := match cs with
    | '+' :: rest => (false, rest)
    | '-' :: rest => (true, rest)
    | rest => (false, rest)
  match cs.takeWhile Text.isDigit, cs.dropWhile Text.isDigit with
  | [], [] => refuse .endInValue
  | [], _ => refuse .invalidNumber
  | digits, rest =>
    let shift := Text.digitsValue digits
    if exponentLimit < shift then
      if significand ≠ 0 && !down then refuse .numberTooLarge
      else .ok (.real (Binary64.zero.withSign negative), rest)
    else real negative significand (if down then exponent - shift else exponent + shift) rest

/-- Reads what follows the digits before a point: a fraction, an exponent or neither. -/
def fractionPart (negative : Bool) (significand : Nat) (exponent : Int) : Reader Number := fun cs =>
  match cs.takeWhile Text.isDigit, cs.dropWhile Text.isDigit with
  | [], [] => refuse .endInValue
  | [], _ => refuse .invalidNumber
  | digits, rest =>
    let (significand, taken, _) := absorb significand 0 digits
    let exponent := exponent - taken
    match rest with
    | 'e' :: rest => exponentPart negative significand exponent rest
    | 'E' :: rest => exponentPart negative significand exponent rest
    | rest => real negative significand exponent rest

/-- The integer of a literal without point and exponent; `-0` and what does not fit is a double. -/
def wholeNumber (negative : Bool) (significand left : Nat) (rest : List Char) :
    Except Error (Number × List Char) :=
  if left ≠ 0 then real negative significand left rest
  else if !negative then .ok (.integer significand, rest)
  else if significand = 0 ∨ Nat.pow 2 63 < significand then real true significand 0 rest
  else .ok (.integer (-significand), rest)

def number (negative : Bool) : Reader Number := fun cs =>
  match cs.takeWhile Text.isDigit, cs.dropWhile Text.isDigit with
  | [], [] => refuse .endInValue
  | [], _ => refuse .invalidNumber
  | '0' :: _ :: _, _ => refuse .invalidNumber
  | digits, rest =>
    let (significand, _, left) := absorb 0 0 digits
    match rest with
    | '.' :: rest => fractionPart negative significand left rest
    | 'e' :: rest => exponentPart negative significand left rest
    | 'E' :: rest => exponentPart negative significand left rest
    | rest => wholeNumber negative significand left rest

/--
Reads the items of an array after its opening bracket, the closing bracket included. `fuel` bounds
the number of items.
-/
def items {α : Type} (item : Reader α) : Nat → Bool → List α → Reader (List α)
  | 0, _, _, _ => refuse .endInList
  | fuel + 1, first, done, cs =>
    match skipBlanks cs with
    | [] => refuse .endInList
    | ']' :: rest => .ok (done.reverse, rest)
    | c :: rest =>
      if c = ',' && !first then
        match skipBlanks rest with
        | [] => refuse .endInValue
        | ']' :: _ => refuse .trailingComma
        | rest => do
          let (value, rest) ← item rest
          items item fuel false (value :: done) rest
      else if first then do
        let (value, rest) ← item (c :: rest)
        items item fuel false (value :: done) rest
      else refuse .expectedCommaOrBracket

def colon (cs : List Char) : Except Error (List Char) :=
  match skipBlanks cs with
  | ':' :: rest => .ok rest
  | [] => refuse .endInObject
  | _ :: _ => refuse .expectedColon

/--
Reads the members of an object after its opening brace, the closing brace included. `member` takes
the state so far and a key, and reads from the colon on. `fuel` bounds the number of members.
-/
def members {σ : Type} (member : σ → String → Reader σ) : Nat → Bool → σ → Reader σ
  | 0, _, _, _ => refuse .endInObject
  | fuel + 1, first, state, cs =>
    match skipBlanks cs with
    | [] => refuse .endInObject
    | '\x7d' :: rest => .ok (state, rest)
    | c :: rest =>
      if c = ',' && !first then
        match skipBlanks rest with
        | [] => refuse .endInValue
        | '"' :: rest => do
          let (key, rest) ← stringRest rest
          let (state, rest) ← member state key rest
          members member fuel false state rest
        | '\x7d' :: _ => refuse .trailingComma
        | _ => refuse .keyNotString
      else if first then
        if c = '"' then do
          let (key, rest) ← stringRest rest
          let (state, rest) ← member state key rest
          members member fuel false state rest
        else refuse .keyNotString
      else refuse .expectedCommaOrBrace

/-- Reads one value; `depth` levels of arrays and objects are left. -/
def value : Nat → Reader Value
  | depth, cs =>
    match skipBlanks cs with
    | [] => refuse .endInValue
    | 'n' :: rest => (word ['u', 'l', 'l'] rest).map (.null, ·)
    | 't' :: rest => (word ['r', 'u', 'e'] rest).map (.bool true, ·)
    | 'f' :: rest => (word ['a', 'l', 's', 'e'] rest).map (.bool false, ·)
    | '"' :: rest => (stringRest rest).map fun (s, rest) => (.string s, rest)
    | '-' :: rest => (number true rest).map fun (n, rest) => (.number n, rest)
    | '[' :: rest =>
      match depth with
      | 0 => refuse .tooDeep
      | depth + 1 =>
        (items (value depth) (rest.length + 1) true [] rest).map fun (vs, rest) => (.array vs, rest)
    | '\x7b' :: rest =>
      match depth with
      | 0 => refuse .tooDeep
      | depth + 1 =>
        (members
          (fun done key rest => do
            let (v, rest) ← value depth (← colon rest)
            pure (Members.insert key v done, rest))
          (rest.length + 1) true [] rest).map fun (ms, rest) => (.object ms, rest)
    | c :: rest =>
      if Text.isDigit c then (number false (c :: rest)).map fun (n, rest) => (.number n, rest)
      else refuse .expectedValue

/-- Reads a whole text: nothing but blanks may follow. -/
def whole {α : Type} (reader : Reader α) (text : String) : Except Error α := do
  let (result, rest) ← reader text.toList
  if (skipBlanks rest).isEmpty then pure result else refuse .trailingText

/-- Why the value at the front is not the one expected. -/
def mismatch (expected : String) (cs : List Char) : Error :=
  let unexpected (found : Found) : Error := .shape (.invalidType found expected)
  match cs with
  | '[' :: _ => unexpected .sequence
  | '\x7b' :: _ => unexpected .map
  | _ =>
    match value 0 cs with
    | .ok (v, _) => unexpected (.ofValue v)
    | .error e => e

def bool : Reader Bool := fun cs =>
  match skipBlanks cs with
  | [] => refuse .endInValue
  | 't' :: rest => (word ['r', 'u', 'e'] rest).map (true, ·)
  | 'f' :: rest => (word ['a', 'l', 's', 'e'] rest).map (false, ·)
  | cs => .error (mismatch "a boolean" cs)

def string : Reader String := fun cs =>
  match skipBlanks cs with
  | [] => refuse .endInValue
  | '"' :: rest => stringRest rest
  | cs => .error (mismatch "a string" cs)

def sequence (depth : Nat) : Reader (List Value) := fun cs =>
  match skipBlanks cs with
  | [] => refuse .endInValue
  | '[' :: rest =>
    match depth with
    | 0 => refuse .tooDeep
    | depth + 1 => items (value depth) (rest.length + 1) true [] rest
  | cs => .error (mismatch "a sequence" cs)

def natOfNumber : Number → Except Error Nat
  | .integer (.ofNat n) => .ok n
  | .integer n => .error (.shape (.invalidValue (.number (.integer n)) "u64"))
  | .real x => .error (.shape (.invalidType (.number (.real x)) "u64"))

def nat : Reader Nat := fun cs =>
  match skipBlanks cs with
  | [] => refuse .endInValue
  | '-' :: rest => do
    let (n, rest) ← number true rest
    pure (← natOfNumber n, rest)
  | c :: rest =>
    if Text.isDigit c then do
      let (n, rest) ← number false (c :: rest)
      pure (← natOfNumber n, rest)
    else .error (mismatch "u64" (c :: rest))

def optional {α : Type} (reader : Reader α) : Reader (Option α) := fun cs =>
  match skipBlanks cs with
  | 'n' :: rest => (word ['u', 'l', 'l'] rest).map (none, ·)
  | cs => (reader cs).map fun (a, rest) => (some a, rest)

end Reader

def parse (text : String) : Except Error Value := Reader.whole (Reader.value maxDepth) text

end TableQuery.Json
