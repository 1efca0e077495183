import TableQuery.Json.Error

set_option autoImplicit false

namespace TableQuery.Json

/-- The fields of a record before they are decoded. -/
inductive Fields where
  | named (members : Members)
  | listed (items : List Value)
  deriving Repr, Inhabited

namespace Fields

/-- The fields of a value, or an error that names the record. -/
def ofValue (record : String) : Value → Except ShapeError Fields
  | .object members => .ok (named members)
  | .array items => .ok (listed items)
  | v => .error (.invalidType (.ofValue v) ("struct " ++ record))

def get? (name : String) (position : Nat) : Fields → Option Value
  | named members => Members.get? name members
  | listed items => items[position]?

/-- A field, or `null` where it is absent. -/
def getOrNull (name : String) (position : Nat) (fields : Fields) : Value :=
  (fields.get? name position).getD .null

def checkCount (count : Nat) : Fields → Except ShapeError Unit
  | named _ => .ok ()
  | listed items =>
    if count < items.length then
      .error (.invalidLength items.length "fewer elements in array")
    else .ok ()

end Fields

/-- Decodes the items of an array from the first to the last. -/
def decodeItems {α : Type} (item : Value → Except ShapeError α) :
    List Value → Except ShapeError (List α)
  | [] => .ok []
  | v :: rest => do
    let a ← item v
    let others ← decodeItems item rest
    pure (a :: others)

def decodeArray {α : Type} (item : Value → Except ShapeError α) :
    Value → Except ShapeError (List α)
  | .array items => decodeItems item items
  | v => .error (.invalidType (.ofValue v) "a sequence")

end TableQuery.Json
