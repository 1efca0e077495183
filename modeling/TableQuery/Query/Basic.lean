import TableQuery.Query.Filter
import TableQuery.Query.Sort

set_option autoImplicit false

namespace TableQuery

open Json (Value)

/-- A query on one collection. -/
structure Query where
  collection : String
  filter : Clauses := []
  sorts : List SortKey := []
  skip : Option Nat := none
  limit : Option Nat := none
  deriving Repr, Inhabited

namespace Query

/-- An empty query on the same collection. -/
def fresh (q : Query) : Query := { collection := q.collection }

def push (q : Query) (connective : Connective) (filter : Filter) : Query :=
  { q with filter := q.filter ++ [(connective, filter)] }

/-- Appends the filter of another query as one group; an empty filter adds nothing. -/
def nest (q nested : Query) (connective : Connective) : Query :=
  if nested.filter.isEmpty then q else q.push connective (.group nested.filter)

def hasFilters (q : Query) : Bool := !q.filter.isEmpty

def orderBy (q : Query) (field : String) (direction : Direction) : Query :=
  { q with sorts := q.sorts ++ [⟨field, direction⟩] }

def orderByAll (q : Query) (keys : List SortKey) : Query := { q with sorts := q.sorts ++ keys }

/-- Sets how many rows are passed over. -/
def skipRows (q : Query) (n : Nat) : Query := { q with skip := some n }

def limitRows (q : Query) (n : Nat) : Query := { q with limit := some n }

/-- Equality of queries, the values of filters compared as JSON. -/
def equals (q r : Query) : Bool :=
  q.collection == r.collection && (Filter.group q.filter).equals (.group r.filter) &&
    q.sorts == r.sorts && q.skip == r.skip && q.limit == r.limit

def renderSort (key : SortKey) : Value := .object [(key.field, .int key.direction.sign)]

def toDocument (q : Query) : Value :=
  .ofMembers [("collection", .string q.collection), ("filter", (Filter.group q.filter).toDocument),
    ("sort", .array (q.sorts.map renderSort)), ("skip", .orNull .nat q.skip),
    ("limit", .orNull .nat q.limit)]

end Query

/-- A change of a query: the query afterwards, and the failure if there was one. -/
abbrev QueryEdit := Query → Query × Option TableError

namespace QueryEdit

def pure (change : Query → Query) : QueryEdit := fun q => (change q, none)

def fail (e : TableError) : QueryEdit := fun q => (q, some e)

/-- Makes changes one after the other, up to the first that fails. -/
def all : List QueryEdit → QueryEdit
  | [] => fun q => (q, none)
  | edit :: rest => fun q =>
    match edit q with
    | (q, none) => all rest q
    | (q, some e) => (q, some e)

/-- The changed query, or the failure. -/
def run (edit : QueryEdit) (q : Query) : Except TableError Query :=
  match edit q with
  | (q, none) => .ok q
  | (_, some e) => .error e

/-- Appends a group that another change builds on a fresh query. -/
def group (connective : Connective) (build : QueryEdit) : QueryEdit := fun q =>
  match build.run q.fresh with
  | .ok nested => (q.nest nested connective, none)
  | .error e => (q, some e)

end QueryEdit

/-- A change of a query that answers whether it added anything, or why it failed. -/
abbrev QueryStep := Query → Query × Except TableError Bool

def QueryStep.run (step : QueryStep) (q : Query) : Except TableError Query :=
  match step q with
  | (q, .ok _) => .ok q
  | (_, .error e) => .error e

end TableQuery
