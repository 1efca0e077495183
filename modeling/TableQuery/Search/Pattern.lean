import TableQuery.Error
import TableQuery.Regex.Read
import TableQuery.Search.Settings

set_option autoImplicit false

namespace TableQuery

open Json (Value)

/-- A pattern together with its options. -/
structure SearchPattern where
  source : String
  ignoreCase : Bool
  /-- Whether the source is the text a user wrote, as it is. -/
  isVerbatim : Bool
  deriving DecidableEq, Repr, Inhabited

namespace SearchPattern

def verbatim (source : String) (ignoreCase : Bool) : SearchPattern := ⟨source, ignoreCase, true⟩

def options (p : SearchPattern) : String := if p.ignoreCase then "i" else ""

def unreadable : String := "regex parse error:"

/-- Why a pattern that would compile to too much is refused. -/
def oversized : String :=
  "Compiled regex exceeds size limit of " ++ toString Regex.maxCost ++ " bytes."

/-- The expression that the pattern writes, if it is not too large. -/
def compileWithin (fits : Regex Regex.Atom → Bool) (p : SearchPattern) :
    Except TableError (Regex Regex.Atom) :=
  match Regex.read? p.ignoreCase p.source.toList with
  | none => .error (.pattern p.source unreadable)
  | some r => if fits r then .ok r else .error (.pattern p.source oversized)

def compile (p : SearchPattern) : Except TableError (Regex Regex.Atom) := p.compileWithin Regex.fits

def toDocument (p : SearchPattern) : Value :=
  .ofMembers [("$regex", .string p.source), ("$options", .string p.options)]

end SearchPattern

/-- Literal text as a pattern: a backslash before every character with a meaning of its own. -/
def quoteLiteral (cs : List Char) : List Char :=
  cs.flatMap fun c => if Regex.isMeta c then ['\\', c] else [c]

/-- Literal text as a pattern, in lower case where case is ignored. -/
def literalBody (ignoreCase : Bool) (cs : List Char) : List Char :=
  quoteLiteral (if ignoreCase then Unicode.toLower cs else cs)

def wildcard? : Char → Option (List Char)
  | '*' => some ['.', '*']
  | '?' => some ['.']
  | _ => none

/-- A keyword with wildcards as a pattern; `run` holds the literal text since the last one, reversed. -/
def wildcardBody (ignoreCase : Bool) (run : List Char) : List Char → List Char
  | [] => literalBody ignoreCase run.reverse
  | c :: rest =>
    match wildcard? c with
    | some any => literalBody ignoreCase run.reverse ++ any ++ wildcardBody ignoreCase [] rest
    | none => wildcardBody ignoreCase (c :: run) rest

/--
The pattern that a keyword stands for. Under smart search it may match a part of a field, otherwise
it has to match all of it.
-/
def keywordPattern (keyword : String) (ignoreCase wildcard smart : Bool) : SearchPattern :=
  let body :=
    if wildcard then wildcardBody ignoreCase [] keyword.toList
    else literalBody ignoreCase keyword.toList
  let source := if smart then ['.', '*'] ++ body ++ ['.', '*'] else '^' :: body ++ ['$']
  ⟨String.ofList source, ignoreCase, false⟩

namespace SearchSettings

/-- The pattern that a keyword stands for under search settings. -/
def patternOf (c : SearchSettings) (keyword : String) : SearchPattern :=
  keywordPattern keyword c.ignoreCase c.wildcard c.smartSearch

def verbatimPattern (c : SearchSettings) (keyword : String) : SearchPattern :=
  .verbatim keyword c.ignoreCase

end SearchSettings

end TableQuery
