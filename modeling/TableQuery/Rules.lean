import TableQuery.Query.Basic

set_option autoImplicit false

namespace TableQuery

/-- How one column is treated. -/
structure ColumnRule where
  /-- Searches the column for a keyword. -/
  search : Option (String → QueryEdit) := none
  /-- Orders by the column. -/
  order : Option (Direction → QueryEdit) := none
  excluded : Bool := false

/-- The rules of all columns that have one. -/
structure Rules where
  entries : List (String × ColumnRule) := []

namespace Rules

/-- The columns that are excluded unless rules say otherwise. -/
def defaultExclusions : List String := ["password", "remember_token"]

def get? (r : Rules) (column : String) : Option ColumnRule :=
  (r.entries.find? (·.1 == column)).map (·.2)

def updateEntries (column : String) (change : ColumnRule → ColumnRule) :
    List (String × ColumnRule) → List (String × ColumnRule)
  | [] => [(column, change {})]
  | (name, rule) :: rest =>
    if name = column then (name, change rule) :: rest
    else (name, rule) :: updateEntries column change rest

/-- Changes the rule of a column; the others stay. -/
def update (r : Rules) (column : String) (change : ColumnRule → ColumnRule) : Rules :=
  ⟨updateEntries column change r.entries⟩

/-- Registers the search of a column, in place of an earlier one. -/
def searchColumnBy (r : Rules) (column : String) (search : String → QueryEdit) : Rules :=
  r.update column fun rule => { rule with search := some search }

def orderColumnBy (r : Rules) (column : String) (order : Direction → QueryEdit) : Rules :=
  r.update column fun rule => { rule with order := some order }

def exclude (r : Rules) (columns : List String) : Rules :=
  columns.foldl (fun r column => r.update column fun rule => { rule with excluded := true }) r

def withDefaultExclusions : Rules := Rules.exclude {} defaultExclusions

def search? (r : Rules) (column : String) : Option (String → QueryEdit) :=
  (r.get? column).bind (·.search)

def order? (r : Rules) (column : String) : Option (Direction → QueryEdit) :=
  (r.get? column).bind (·.order)

def isExcluded (r : Rules) (column : String) : Bool := (r.get? column).any (·.excluded)

def isBarredFromSearch (r : Rules) (column : String) : Bool :=
  r.isExcluded column && (r.search? column).isNone

def isBarredFromOrder (r : Rules) (column : String) : Bool :=
  r.isExcluded column && (r.order? column).isNone

/-- Runs the search of a column on a query; absent where the column has none. -/
def searchEdit? (r : Rules) (column keyword : String) : Option QueryEdit :=
  (r.search? column).map (· keyword)

/-- Runs the order of a column on a query; absent where the column has none. -/
def orderEdit? (r : Rules) (column : String) (direction : Direction) : Option QueryEdit :=
  (r.order? column).map (· direction)

/-- Makes a change if there is one. The answer is whether there was, or the failure of the change. -/
def applyAny (edit : Option QueryEdit) : QueryStep := fun q =>
  match edit with
  | none => (q, .ok false)
  | some edit =>
    match edit q with
    | (q, none) => (q, .ok true)
    | (q, some e) => (q, .error e)

/-- Runs the search of a column on a query, if the column has one. -/
def applySearch (r : Rules) (column keyword : String) : QueryStep :=
  applyAny (r.searchEdit? column keyword)

/-- Runs the order of a column on a query, if the column has one. -/
def applyOrder (r : Rules) (column : String) (direction : Direction) : QueryStep :=
  applyAny (r.orderEdit? column direction)

end Rules

end TableQuery
