import TableQuery.Json.Printer
import TableQuery.Text.Shown

set_option autoImplicit false

namespace TableQuery.Json

/-- Why a text is not JSON. -/
inductive TextError where
  | endInValue
  | endInList
  | endInObject
  | endInString
  | expectedValue
  | expectedWord
  | expectedColon
  | expectedCommaOrBracket
  | expectedCommaOrBrace
  | keyNotString
  | trailingComma
  | trailingText
  | invalidNumber
  | numberTooLarge
  | invalidEscape
  | loneSurrogate
  | unfinishedSurrogate
  | controlCharacter
  | tooDeep
  deriving DecidableEq, Repr

def TextError.message : TextError → String
  | endInValue => "EOF while parsing a value"
  | endInList => "EOF while parsing a list"
  | endInObject => "EOF while parsing an object"
  | endInString => "EOF while parsing a string"
  | expectedValue => "expected value"
  | expectedWord => "expected ident"
  | expectedColon => "expected `:`"
  | expectedCommaOrBracket => "expected `,` or `]`"
  | expectedCommaOrBrace => "expected `,` or `\x7d`"
  | keyNotString => "key must be a string"
  | trailingComma => "trailing comma"
  | trailingText => "trailing characters"
  | invalidNumber => "invalid number"
  | numberTooLarge => "number out of range"
  | invalidEscape => "invalid escape"
  | loneSurrogate => "lone leading surrogate in hex escape"
  | unfinishedSurrogate => "unexpected end of hex escape"
  | controlCharacter => "control character (\\u0000-\\u001F) found while parsing a string"
  | tooDeep => "recursion limit exceeded"

/-- What stands where something else was expected. -/
inductive Found where
  | null
  | bool (value : Bool)
  | number (value : Number)
  | string (value : String)
  | sequence
  | map
  deriving DecidableEq, Repr

namespace Found

/-- The kind of a value, with the value itself where it is short. -/
def ofValue : Value → Found
  | .null => null
  | .bool b => bool b
  | .number n => number n
  | .string s => string s
  | .array _ => sequence
  | .object _ => map

def describe : Found → String
  | null => "null"
  | bool b => "boolean `" ++ toString b ++ "`"
  | number (.integer n) => "integer `" ++ toString n ++ "`"
  | number (.real x) => "floating point `" ++ x.text ++ "`"
  | string s => "string " ++ Text.showText s
  | sequence => "sequence"
  | map => "map"

end Found

/-- Why a value has not the shape expected of it. -/
inductive ShapeError where
  | invalidType (found : Found) (expected : String)
  | invalidValue (found : Found) (expected : String)
  | invalidLength (length : Nat) (expected : String)
  | missingField (name : String)
  | duplicateField (name : String)
  deriving DecidableEq, Repr

def ShapeError.message : ShapeError → String
  | invalidType found expected => "invalid type: " ++ found.describe ++ ", expected " ++ expected
  | invalidValue found expected => "invalid value: " ++ found.describe ++ ", expected " ++ expected
  | invalidLength length expected =>
    "invalid length " ++ toString length ++ ", expected " ++ expected
  | missingField name => "missing field `" ++ name ++ "`"
  | duplicateField name => "duplicate field `" ++ name ++ "`"

/-- Why JSON is refused. -/
inductive Error where
  | text (reason : TextError)
  | shape (reason : ShapeError)
  deriving DecidableEq, Repr

def Error.message : Error → String
  | text reason => reason.message
  | shape reason => reason.message

end TableQuery.Json
