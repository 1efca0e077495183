import TableQuery.Error
import TableQuery.Json.Printer

set_option autoImplicit false

namespace TableQuery

open Json (Value Members)

/-- The answer to a draw. -/
structure Response where
  draw : Nat
  recordsTotal : Nat
  recordsFiltered : Nat
  data : List Value
  error : Option String := none
  /-- The queries sent to the store, under debug. -/
  queries : Option (List Value) := none
  /-- The request, under debug. -/
  input : Option Value := none
  /-- Further members. -/
  payload : Members := []
  deriving Repr, Inhabited

namespace Response

def failure (draw : Nat) (e : TableError) : Response :=
  { draw, recordsTotal := 0, recordsFiltered := 0, data := []
    error := some (e.code ++ ": " ++ e.message) }

def withPayload (r : Response) (members : Members) : Response :=
  { r with payload := members.foldl (fun all m => Members.insert m.1 m.2 all) r.payload }

def withDebug (r : Response) (queries : List Value) (input : Value) : Response :=
  { r with queries := some queries, input := some input }

def isSuccess (r : Response) : Bool := r.error.isNone

/-- The members of the envelope in the order in which they are written. -/
def envelope (r : Response) : List (String × Value) :=
  [("draw", .nat r.draw), ("recordsTotal", .nat r.recordsTotal),
    ("recordsFiltered", .nat r.recordsFiltered), ("data", .array r.data)] ++
  (r.error.map fun e => ("error", Value.string e)).toList ++
  (r.queries.map fun q => ("queries", Value.array q)).toList ++
  (r.input.map fun i => ("input", i)).toList

/-- The answer as a value: a further member goes before one of the envelope. -/
def toValue (r : Response) : Value := .ofMembers (r.envelope ++ r.payload)

/-- The answer as a text: the envelope first, then the further members, whatever their keys. -/
def toText (r : Response) : String := (Value.object (r.envelope ++ r.payload)).render

end Response

end TableQuery
