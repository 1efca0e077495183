import TableQuery.Error
import TableQuery.Json.Fields
import TableQuery.Json.Reader
import TableQuery.Request.Basic

set_option autoImplicit false

namespace TableQuery

open Json (Value Fields ShapeError Found)

namespace Lenient

/-- A text: strings as they are, numbers and truth values as they are written. -/
def text? : Value → Option String
  | .string s => some s
  | .number n => some n.text
  | .bool b => some (toString b)
  | _ => none

/-- A truth value: itself, `true` or `1` or `false` or `0` as a text, or an integer other than zero. -/
def bool (default : Bool) : Value → Bool
  | .bool b => b
  | .string s =>
    if s = "true" ∨ s = "1" then true
    else if s = "false" ∨ s = "0" then false
    else default
  | .number n =>
    match n.int64? with
    | some i => i != 0
    | none => default
  | _ => default

def int64 (field : String) : Value → Except TableError Int64
  | .number n =>
    match n.int64? with
    | some i => .ok (Int64.ofInt i)
    | none => .error (.request (field ++ " is not an integer"))
  | .string s =>
    match Text.int64? (Text.trimChars s.toList) with
    | some i => .ok i
    | none => .error (.request (field ++ " is not an integer: " ++ s))
  | _ => .error (.request (field ++ " is required"))

def int64Or (field : String) (default : Int64) : Value → Except TableError Int64
  | .null => .ok default
  | .string s => if Text.isAllBlank s then .ok default else int64 field (.string s)
  | v => int64 field v

end Lenient

/-- A search whose fields are not converted yet. -/
structure SearchForm where
  value : Value
  regex : Value
  deriving Repr, Inhabited

/-- A column whose fields are not converted yet. -/
structure ColumnForm where
  data : Value
  name : Value
  searchable : Value
  orderable : Value
  search : Option SearchForm
  deriving Repr, Inhabited

/-- An order whose fields are not converted yet. -/
structure OrderForm where
  column : Value
  dir : Value
  deriving Repr, Inhabited

/-- A request whose fields are not converted yet. -/
structure RequestForm where
  draw : Value
  columns : List ColumnForm
  order : List OrderForm
  start : Value
  length : Value
  search : Option SearchForm
  deriving Repr, Inhabited

namespace SearchForm

def ofValue (v : Value) : Except ShapeError SearchForm := do
  let fields ← Fields.ofValue "RawSearch" v
  fields.checkCount 2
  pure ⟨fields.getOrNull "value" 0, fields.getOrNull "regex" 1⟩

/-- An optional search; `null` is none. -/
def ofOptional : Option Value → Except ShapeError (Option SearchForm)
  | none => .ok none
  | some .null => .ok none
  | some v => (ofValue v).map some

def convert (s : SearchForm) : SearchTerm :=
  ⟨(Lenient.text? s.value).getD "", Lenient.bool false s.regex⟩

end SearchForm

namespace ColumnForm

def ofValue (v : Value) : Except ShapeError ColumnForm := do
  let fields ← Fields.ofValue "RawColumn" v
  let search ← SearchForm.ofOptional (fields.get? "search" 4)
  fields.checkCount 5
  pure ⟨fields.getOrNull "data" 0, fields.getOrNull "name" 1, fields.getOrNull "searchable" 2,
    fields.getOrNull "orderable" 3, search⟩

def convert (c : ColumnForm) : Column :=
  { data := Lenient.text? c.data
    name := Lenient.text? c.name
    searchable := Lenient.bool true c.searchable
    orderable := Lenient.bool true c.orderable
    search := (c.search.map SearchForm.convert).getD {} }

end ColumnForm

namespace OrderForm

/-- The fields of an order; the column is required. -/
def ofValue (v : Value) : Except ShapeError OrderForm := do
  let fields ← Fields.ofValue "RawOrder" v
  match fields.get? "column" 0 with
  | none =>
    match fields with
    | .named _ => .error (.missingField "column")
    | .listed _ => .error (.invalidLength 0 "struct RawOrder with 2 elements")
  | some column =>
    fields.checkCount 2
    pure ⟨column, fields.getOrNull "dir" 1⟩

/-- The converted order; the position of the column must not be negative. -/
def convert (o : OrderForm) : Except TableError ColumnOrder := do
  let column ← Lenient.int64 "order.column" o.column
  if column.toInt < 0 then
    .error (.request ("order.column must not be negative: " ++ toString column.toInt))
  else pure ⟨column.toInt.toNat, .ofText (o.dir.string?.getD "asc")⟩

end OrderForm

namespace RequestForm

/-- An optional array of records; absence stands for none of them. -/
def listOf {α : Type} (item : Value → Except ShapeError α) :
    Option Value → Except ShapeError (List α)
  | none => .ok []
  | some v => Json.decodeArray item v

def ofValue (v : Value) : Except ShapeError RequestForm := do
  let fields ← Fields.ofValue "RawRequest" v
  let columns ← listOf ColumnForm.ofValue (fields.get? "columns" 1)
  let order ← listOf OrderForm.ofValue (fields.get? "order" 2)
  let search ← SearchForm.ofOptional (fields.get? "search" 5)
  fields.checkCount 6
  pure ⟨fields.getOrNull "draw" 0, columns, order, fields.getOrNull "start" 3,
    fields.getOrNull "length" 4, search⟩

def convert (r : RequestForm) : Except TableError Request := do
  let order ← r.order.mapM OrderForm.convert
  let draw ← Lenient.int64Or "draw" 0 r.draw
  let start ← Lenient.int64Or "start" 0 r.start
  let length ← Lenient.int64Or "length" 10 r.length
  pure
    { draw := draw.toInt.toNat
      columns := r.columns.map ColumnForm.convert
      order, start, length
      search := (r.search.map SearchForm.convert).getD {} }

end RequestForm

namespace Request

def ofValue (v : Value) : Except TableError Request :=
  match RequestForm.ofValue v with
  | .ok raw => raw.convert
  | .error e => .error (.ofJson (.shape e))

def ofText (text : String) : Except TableError Request :=
  match Json.parse text with
  | .ok v => ofValue v
  | .error e => .error (.ofJson e)

end Request

end TableQuery
