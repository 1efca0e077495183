import TableQuery.Unicode.Category
import TableQuery.Unicode.CodePoints
import TableQuery.Unicode.Property

set_option autoImplicit false

namespace TableQuery.Text

open TableQuery.Unicode (CodePoints categories namedSet? properties)

/-- Control, format, private and unassigned characters. -/
def unprintable : CodePoints := (namedSet? categories "c").getD default

/-- Characters that separate: spaces, lines and paragraphs. -/
def separators : CodePoints := (namedSet? categories "z").getD default

/-- Characters that attach to the one before. -/
def attaching : CodePoints := (namedSet? properties "graphemeextend").getD default

def showChar (c : Char) : List Char :=
  if c = '"' ∨ c = '\\' then ['\\', c]
  else if c = '\n' then ['\\', 'n']
  else if c = '\r' then ['\\', 'r']
  else if c = '\t' then ['\\', 't']
  else if c = '\x00' then ['\\', '0']
  else if c ≠ ' ' && (attaching.contains c || unprintable.contains c || separators.contains c) then
    '\\' :: 'u' :: '\x7b' :: (Nat.toDigits 16 c.toNat ++ ['\x7d'])
  else [c]

def showText (s : String) : String := String.ofList ('"' :: s.toList.flatMap showChar ++ ['"'])

end TableQuery.Text
