import TableQuery.Json.Skip

set_option autoImplicit false

namespace TableQuery

open Json (Value Reader)

structure SearchSettings where
  ignoreCase : Bool := true
  /-- Whether `*` and `?` in keywords stand for any text and any character. -/
  wildcard : Bool := false
  /-- Whether a keyword may match a part of a field instead of all of it. -/
  smartSearch : Bool := true
  /-- Whether responses carry the queries and the request. -/
  debug : Bool := false
  deriving DecidableEq, Repr, Inhabited

namespace SearchSettings

def exact : SearchSettings := ⟨false, false, false, false⟩

def toValue (c : SearchSettings) : Value :=
  .ofMembers [("case_insensitive", .bool c.ignoreCase), ("wildcard", .bool c.wildcard),
    ("smart_search", .bool c.smartSearch), ("debug", .bool c.debug)]

/-- The toggles read so far; those never read keep their defaults. -/
structure Draft where
  ignoreCase : Option Bool := none
  wildcard : Option Bool := none
  smartSearch : Option Bool := none
  debug : Option Bool := none
  deriving DecidableEq, Repr, Inhabited

namespace Draft

def finish (d : Draft) : SearchSettings :=
  let defaults : SearchSettings := {}
  { ignoreCase := d.ignoreCase.getD defaults.ignoreCase
    wildcard := d.wildcard.getD defaults.wildcard
    smartSearch := d.smartSearch.getD defaults.smartSearch
    debug := d.debug.getD defaults.debug }

/-- Reads the value of a toggle that must not have been read before. -/
def toggle (key : String) (earlier : Option Bool) (put : Bool → Draft) : Reader Draft := fun cs =>
  match earlier with
  | some _ => .error (.shape (.duplicateField key))
  | none => do
    let (value, rest) ← Reader.bool (← Reader.colon cs)
    pure (put value, rest)

/-- Reads a member; those of other names are passed over. -/
def member (d : Draft) (key : String) : Reader Draft :=
  match key with
  | "case_insensitive" => toggle key d.ignoreCase fun b => { d with ignoreCase := some b }
  | "wildcard" => toggle key d.wildcard fun b => { d with wildcard := some b }
  | "smart_search" => toggle key d.smartSearch fun b => { d with smartSearch := some b }
  | "debug" => toggle key d.debug fun b => { d with debug := some b }
  | _ => fun cs => do
    let rest ← Reader.skip (← Reader.colon cs)
    pure (d, rest)

def ofList : List Bool → Draft
  | [] => {}
  | [a] => { ignoreCase := some a }
  | [a, b] => { ignoreCase := some a, wildcard := some b }
  | [a, b, c] => { ignoreCase := some a, wildcard := some b, smartSearch := some c }
  | a :: b :: c :: d :: _ =>
    { ignoreCase := some a, wildcard := some b, smartSearch := some c, debug := some d }

end Draft

def toggleCount : Nat := 4

/-- Reads toggles given by position after the opening bracket, at most `count` more of them. -/
def positional : Nat → Bool → List Bool → Reader (List Bool)
  | 0, _, done, cs =>
    match Reader.skipBlanks cs with
    | ']' :: rest => .ok (done.reverse, rest)
    | ',' :: rest =>
      match Reader.skipBlanks rest with
      | ']' :: _ => Reader.refuse .trailingComma
      | _ => Reader.refuse .trailingText
    | [] => Reader.refuse .endInList
    | _ => Reader.refuse .trailingText
  | count + 1, first, done, cs =>
    match Reader.skipBlanks cs with
    | [] => Reader.refuse .endInList
    | ']' :: rest => .ok (done.reverse, rest)
    | c :: rest =>
      if c = ',' && !first then
        match Reader.skipBlanks rest with
        | [] => Reader.refuse .endInValue
        | ']' :: _ => Reader.refuse .trailingComma
        | rest => do
          let (b, rest) ← Reader.bool rest
          positional count false (b :: done) rest
      else if first then do
        let (b, rest) ← Reader.bool (c :: rest)
        positional count false (b :: done) rest
      else Reader.refuse .expectedCommaOrBracket

/-- Reads a configuration: an object, or an array that gives the toggles by position. -/
def reader : Reader SearchSettings := fun cs =>
  match Reader.skipBlanks cs with
  | [] => Reader.refuse .endInValue
  | '[' :: rest => do
    let (toggles, rest) ← positional toggleCount true [] rest
    pure ((Draft.ofList toggles).finish, rest)
  | '\x7b' :: rest => do
    let (draft, rest) ← Reader.members Draft.member (rest.length + 1) true {} rest
    pure (draft.finish, rest)
  | cs => .error (Reader.mismatch "struct SearchConfig" cs)

/-- The configuration that a text writes; toggles it lacks take their defaults. -/
def ofText (text : String) : Except Json.Error SearchSettings := Reader.whole reader text

end SearchSettings

end TableQuery
