import TableQuery.Json.Reader

set_option autoImplicit false

namespace TableQuery.Json.Reader

/-- Passes over a string after its opening quote. -/
def skipString : List Char → Except Error (List Char)
  | [] => refuse .endInString
  | '"' :: rest => .ok rest
  | '\\' :: 'u' :: a :: b :: c :: d :: rest =>
    match hex4? a b c d with
    | some _ => skipString rest
    | none => refuse .invalidEscape
  | '\\' :: 'u' :: short => refuse (shortEscape short)
  | '\\' :: c :: rest => if (simpleEscape? c).isSome then skipString rest else refuse .invalidEscape
  | ['\\'] => refuse .endInString
  | c :: rest => if c.toNat < 0x20 then refuse .controlCharacter else skipString rest

def skipDigits (cs : List Char) : Except Error (List Char) :=
  match cs with
  | c :: _ => if Text.isDigit c then .ok (cs.dropWhile Text.isDigit) else refuse .invalidNumber
  | [] => refuse .invalidNumber

/-- Passes over an exponent, if there is one. -/
def skipExponent : List Char → Except Error (List Char)
  | c :: rest =>
    if c = 'e' ∨ c = 'E' then
      match rest with
      | '+' :: rest => skipDigits rest
      | '-' :: rest => skipDigits rest
      | rest => skipDigits rest
    else .ok (c :: rest)
  | [] => .ok []

def skipNumber (cs : List Char) : Except Error (List Char) := do
  let rest ← skipDigits cs
  match cs with
  | '0' :: c :: _ => if Text.isDigit c then refuse .invalidNumber
  | _ => pure ()
  match rest with
  | '.' :: rest => skipExponent (← skipDigits rest)
  | rest => skipExponent rest

/-- What is open around a place in the text. -/
inductive Frame where
  | list
  | object
  deriving DecidableEq, Repr

/-- What is passed over next. -/
inductive Awaited where
  /-- A value. -/
  | value
  /-- The first part of the innermost frame, or its end. -/
  | opened
  /-- A comma, or the end of the innermost frame. -/
  | closing
  deriving DecidableEq, Repr

def skipKey (cs : List Char) : Except Error (List Char) :=
  match skipBlanks cs with
  | '"' :: rest => do colon (← skipString rest)
  | [] => refuse .endInObject
  | _ => refuse .keyNotString

/-- Passes over what leads to the next value of a frame. -/
def skipLead : Frame → List Char → Except Error (List Char)
  | .list, cs => .ok cs
  | .object, cs => skipKey cs

def Frame.endError : Frame → TextError
  | list => .endInList
  | object => .endInObject

/-- The error where neither a comma nor the end of a frame stands. -/
def Frame.commaError : Frame → TextError
  | list => .expectedCommaOrBracket
  | object => .expectedCommaOrBrace

def Frame.closer : Frame → Char
  | list => ']'
  | object => '\x7d'

/-- Passes over the rest of a value, with its open frames, in at most `fuel` steps. -/
def skipRest : Nat → List Frame → Awaited → List Char → Except Error (List Char)
  | 0, _, _, _ => refuse .endInValue
  | fuel + 1, frames, .value, cs =>
    let scalar (rest : List Char) : Except Error (List Char) :=
      if frames.isEmpty then .ok rest else skipRest fuel frames .closing rest
    match skipBlanks cs with
    | [] => refuse .endInValue
    | 'n' :: rest => do scalar (← word ['u', 'l', 'l'] rest)
    | 't' :: rest => do scalar (← word ['r', 'u', 'e'] rest)
    | 'f' :: rest => do scalar (← word ['a', 'l', 's', 'e'] rest)
    | '-' :: rest => do scalar (← skipNumber rest)
    | '"' :: rest => do scalar (← skipString rest)
    | '[' :: rest => skipRest fuel (.list :: frames) .opened rest
    | '\x7b' :: rest => skipRest fuel (.object :: frames) .opened rest
    | c :: rest => if Text.isDigit c then do scalar (← skipNumber (c :: rest)) else refuse .expectedValue
  | _ + 1, [], _, cs => .ok cs
  | fuel + 1, frame :: frames, awaited, cs =>
    match skipBlanks cs with
    | [] => refuse frame.endError
    | c :: rest =>
      if c = frame.closer then
        if frames.isEmpty then .ok rest else skipRest fuel frames .closing rest
      else if awaited = .opened then do
        skipRest fuel (frame :: frames) .value (← skipLead frame (c :: rest))
      else if c = ',' then do
        skipRest fuel (frame :: frames) .value (← skipLead frame rest)
      else refuse frame.commaError

def skip (cs : List Char) : Except Error (List Char) := skipRest (2 * cs.length + 2) [] .value cs

end TableQuery.Json.Reader
