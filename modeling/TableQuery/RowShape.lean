import TableQuery.Error
import TableQuery.Query.Sort
import TableQuery.Request.Basic

set_option autoImplicit false

namespace TableQuery

open Json (Value Members)

def rowNumberKey : String := "DT_RowIndex"

/-- Computes a column from the row as it was fetched. -/
abbrev ColumnEdit := Value → Except TableError Value

structure RowShape where
  /-- The field of each column, where it has one. -/
  columns : List (Option String) := []
  arrayRows : Bool := false
  removed : List String := []
  /-- Edited columns in the order of registration. -/
  edits : List (String × ColumnEdit) := []
  numbersRows : Bool := false

namespace RowShape

def ofRequest (r : Request) : RowShape := { columns := r.columns.map Column.resolved? }

/-- Turns rows into arrays, or leaves them as they are. -/
def withArrayRows (m : RowShape) (on : Bool) : RowShape := { m with arrayRows := on }

def dropColumn (m : RowShape) (column : String) : RowShape :=
  { m with removed := m.removed ++ [column] }

def computeColumn (m : RowShape) (column : String) (edit : ColumnEdit) : RowShape :=
  { m with edits := m.edits ++ [(column, edit)] }

def numberRows (m : RowShape) : RowShape := { m with numbersRows := true }

/-- Puts the edited columns into members, each computed from the row as it was fetched. -/
def applyEdits (row : Value) : List (String × ColumnEdit) → Members → Except TableError Members
  | [], members => .ok members
  | (column, edit) :: rest, members => do
    let value ← edit row
    applyEdits row rest (Members.insert column value members)

def dropRemoved (removed : List String) (members : Members) : Members :=
  removed.foldl (fun members column => Members.erase column members) members

/-- An object row with its edits made and its removed columns gone; other rows stay. -/
def editRow (m : RowShape) : Value → Except TableError Value
  | .object members => do
    let edited ← applyEdits (.object members) m.edits members
    pure (.object (dropRemoved m.removed edited))
  | row => .ok row

/-- Whether a column has an entry in array rows. -/
def keepsColumn (m : RowShape) : Option String → Bool
  | some name => !m.removed.contains name
  | none => true

def entry (row : Value) (column : Option String) : Value :=
  (column.bind (lookup row ·)).getD .null

def positional (m : RowShape) (row : Value) : Value :=
  .array ((m.columns.filter m.keepsColumn).map (entry row))

/-- An object row with its number; other rows stay. -/
def numbered (index : Nat) : Value → Value
  | .object members => .object (Members.insert rowNumberKey (.nat index) members)
  | row => row

def shapeRow (m : RowShape) (row : Value) (index : Nat) : Except TableError Value :=
  (m.editRow row).map fun row =>
    if m.arrayRows then m.positional row
    else if m.numbersRows then numbered index row
    else row

/-- The shapes of rows, the first of which has the given number. -/
def shapeFrom (m : RowShape) : Nat → List Value → Except TableError (List Value)
  | _, [] => .ok []
  | index, row :: rest => do
    let mapped ← m.shapeRow row index
    let others ← m.shapeFrom (index + 1) rest
    pure (mapped :: others)

/-- The shapes of rows that come after `start` others. -/
def shapeRows (m : RowShape) (rows : List Value) (start : Nat) : Except TableError (List Value) :=
  m.shapeFrom (start + 1) rows

/-- The number of the row at an index of those that come after `start` others, in a word of 64 bits. -/
def rowNumber (start : UInt64) (index : Nat) : UInt64 := start + index.toUInt64 + 1

/-- The shapes of rows with their numbers in words. A table starts below `2 ^ 63`, so that its numbers stay inside
a word, and counts with `shapeRows`. -/
def mapRows (m : RowShape) (rows : List Value) (start : UInt64) : Except TableError (List Value) :=
  rows.zipIdx.mapM fun row => m.shapeRow row.1 (rowNumber start row.2).toNat

end RowShape

end TableQuery
