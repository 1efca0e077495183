import TableQuery.Json.Value

set_option autoImplicit false

namespace TableQuery.Json

/-- Four hexadecimal digits of a code below 65536. -/
def hex4 (code : Nat) : List Char :=
  [code / 4096 % 16, code / 256 % 16, code / 16 % 16, code % 16].map Nat.digitChar

def quoteChar (c : Char) : List Char :=
  if c = '"' then ['\\', '"']
  else if c = '\\' then ['\\', '\\']
  else if c = '\x08' then ['\\', 'b']
  else if c = '\x0c' then ['\\', 'f']
  else if c = '\n' then ['\\', 'n']
  else if c = '\r' then ['\\', 'r']
  else if c = '\t' then ['\\', 't']
  else if c.toNat < 0x20 then '\\' :: 'u' :: hex4 c.toNat
  else [c]

def quote (s : String) : String := String.ofList ('"' :: s.toList.flatMap quoteChar ++ ['"'])

namespace Value

/-- The compact text of a value. -/
def render : Value → String
  | .null => "null"
  | .bool true => "true"
  | .bool false => "false"
  | .number n => n.text
  | .string s => quote s
  | .array items => "[" ++ renderItems items ++ "]"
  | .object members => "\x7b" ++ renderMembers members ++ "\x7d"
where
  /-- The items of an array, parted by commas. -/
  renderItems : List Value → String
    | [] => ""
    | [item] => render item
    | item :: rest => render item ++ "," ++ renderItems rest
  /-- The members of an object, parted by commas. -/
  renderMembers : List (String × Value) → String
    | [] => ""
    | [(key, value)] => quote key ++ ":" ++ render value
    | (key, value) :: rest => quote key ++ ":" ++ render value ++ "," ++ renderMembers rest

end Value

end TableQuery.Json
