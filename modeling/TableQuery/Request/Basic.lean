import TableQuery.Query.Sort

set_option autoImplicit false

namespace TableQuery

/-- A keyword, and whether it is itself a pattern. -/
structure SearchTerm where
  value : String := ""
  regex : Bool := false
  deriving DecidableEq, Repr, Inhabited

namespace SearchTerm

/-- The keyword without the blanks around it; nothing where only blanks are left. -/
def keyword? (s : SearchTerm) : Option String :=
  let trimmed := Text.trim s.value
  if trimmed.isEmpty then none else some trimmed

/-- The keyword as it is searched for: a pattern keeps its blanks. -/
def pattern? (s : SearchTerm) : Option String :=
  s.keyword?.map fun trimmed => if s.regex then s.value else trimmed

end SearchTerm

structure Column where
  /-- Where the column takes its data from. -/
  data : Option String := none
  /-- The name of the column, which goes before its source. -/
  name : Option String := none
  searchable : Bool := true
  orderable : Bool := true
  search : SearchTerm := {}
  deriving DecidableEq, Repr, Inhabited

namespace Column

/-- Whether a text is a mere position: digits only. -/
def isPosition (s : String) : Bool := s.toList.all Text.isDigit

/-- The field that a column stands for: its name, or else its source, unless that is a position. -/
def resolved? (c : Column) : Option String :=
  match c.name.filter (!·.isEmpty) with
  | some name => some name
  | none => c.data.filter fun data => !data.isEmpty && !isPosition data

end Column

/-- An order asked for by the position of a column. -/
structure ColumnOrder where
  column : Nat
  direction : Direction
  deriving DecidableEq, Repr, Inhabited

structure Request where
  /-- The number of the draw, sent back with the answer. -/
  draw : Nat := 0
  columns : List Column := []
  order : List ColumnOrder := []
  start : Int64 := 0
  length : Int64 := 10
  search : SearchTerm := {}
  deriving DecidableEq, Repr, Inhabited

namespace Request

/-- The field that the column at a position stands for. -/
def fieldAt? (r : Request) (index : Nat) : Option String := (r.columns[index]?).bind (·.resolved?)

def tableKeyword? (r : Request) : Option String := r.search.keyword?

def searchablePositions (r : Request) : List Nat :=
  (List.range r.columns.length).filter fun index => (r.columns[index]?).any (·.searchable)

def keywordAt? (r : Request) (index : Nat) : Option String :=
  (r.columns[index]?).bind (·.search.pattern?)

/-- Whether the column at a position is searchable and has a keyword. -/
def isSearchedAt (r : Request) (index : Nat) : Bool :=
  (r.columns[index]?).any fun c => c.searchable && c.search.keyword?.isSome

/-- Whether the keyword of the column at a position is a pattern. -/
def isPatternAt (r : Request) (index : Nat) : Bool := (r.columns[index]?).any (·.search.regex)

/-- The orders on columns that exist and may be ordered by. -/
def applicableOrders (r : Request) : List ColumnOrder :=
  r.order.filter fun o => (r.columns[o.column]?).any (·.orderable)

def offset (r : Request) : Nat := r.start.toInt.toNat

end Request

section Written

open Json (Value)

def SearchTerm.toValue (s : SearchTerm) : Value :=
  .ofMembers [("value", .string s.value), ("regex", .bool s.regex)]

def Column.toValue (c : Column) : Value :=
  .ofMembers [("data", .orNull .string c.data), ("name", .orNull .string c.name),
    ("searchable", .bool c.searchable), ("orderable", .bool c.orderable),
    ("search", c.search.toValue)]

def ColumnOrder.toValue (o : ColumnOrder) : Value :=
  .ofMembers [("column", .nat o.column), ("direction", .string o.direction.name)]

def Request.toValue (r : Request) : Value :=
  .ofMembers [("draw", .nat r.draw), ("columns", .array (r.columns.map Column.toValue)),
    ("order", .array (r.order.map ColumnOrder.toValue)), ("start", .int r.start.toInt),
    ("length", .int r.length.toInt), ("search", r.search.toValue)]

end Written

end TableQuery
