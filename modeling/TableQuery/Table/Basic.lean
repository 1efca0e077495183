import TableQuery.Plan
import TableQuery.Query.Store
import TableQuery.RowShape
import TableQuery.Search.Predicate

set_option autoImplicit false

namespace TableQuery

open Json (Value Members)

/-- A table over a store for one request. -/
structure Table where
  store : Store
  request : Request
  settings : SearchSettings := {}
  rules : Rules := .withDefaultExclusions
  /-- The query before any search of the request. -/
  base : Query
  /-- Filters the query between the global search and the searches in columns. -/
  filterHook : Option QueryEdit := none
  /-- Whether the global keyword of the request is searched for. -/
  globalSearch : Bool := true
  /-- Orders the query in place of the request. -/
  orderHook : Option QueryEdit := none
  /-- Cuts the page in place of the default window. -/
  limitHook : Option QueryEdit := none
  /-- The order where the request asks for none. -/
  defaultOrder : List SortKey := []
  skipPaging : Bool := false
  /-- Whether the filtered count also stands for the total. -/
  skipTotal : Bool := false
  /-- Counts that stand in for those of the store. -/
  totalOverride : Option Nat := none
  filteredOverride : Option Nat := none
  shape : RowShape
  payload : Members := []

namespace Table

/-- A table over a query, which may already have clauses. -/
def new (store : Store) (base : Query) (request : Request) : Table :=
  { store, request, base, shape := .ofRequest request }

/-- A table over a whole collection. -/
def ofCollection (c : Collection) (request : Request) : Table := new c.store c.query request

def withSettings (t : Table) (settings : SearchSettings) : Table := { t with settings }

def withRules (t : Table) (rules : Rules) : Table := { t with rules }

def searchColumnBy (t : Table) (column : String) (search : String → QueryEdit) : Table :=
  { t with rules := t.rules.searchColumnBy column search }

def orderColumnBy (t : Table) (column : String) (order : Direction → QueryEdit) : Table :=
  { t with rules := t.rules.orderColumnBy column order }

/-- Excludes columns from search and order. -/
def exclude (t : Table) (columns : List String) : Table :=
  { t with rules := t.rules.exclude columns }

/-- Filters the query, with or without the global search of the request. -/
def filter (t : Table) (hook : QueryEdit) (globalSearch : Bool) : Table :=
  { t with filterHook := some hook, globalSearch }

/-- Orders the query in place of the request. -/
def order (t : Table) (hook : QueryEdit) : Table := { t with orderHook := some hook }

/-- Adds a sort key for requests that ask for no order. -/
def orderByDefault (t : Table) (field : String) (direction : Direction) : Table :=
  { t with defaultOrder := t.defaultOrder ++ [⟨field, direction⟩] }

/-- Cuts the page in place of the default window. -/
def limit (t : Table) (hook : QueryEdit) : Table := { t with limitHook := some hook }

def withoutPaging (t : Table) : Table := { t with skipPaging := true }

def withTotal (t : Table) (n : Nat) : Table := { t with totalOverride := some n }

/-- Lets the filtered count stand for the total. -/
def withoutTotal (t : Table) : Table := { t with skipTotal := true }

def withFiltered (t : Table) (n : Nat) : Table := { t with filteredOverride := some n }

def withPayload (t : Table) (key : String) (value : Value) : Table :=
  { t with payload := Members.insert key value t.payload }

def withShape (t : Table) (shape : RowShape) : Table := { t with shape }

def dropColumn (t : Table) (column : String) : Table :=
  { t with shape := t.shape.dropColumn column }

def computeColumn (t : Table) (column : String) (edit : ColumnEdit) : Table :=
  { t with shape := t.shape.computeColumn column edit }

def numberRows (t : Table) : Table := { t with shape := t.shape.numberRows }

/-- Ordering a column by an expression changes nothing but the log. -/
def orderByExpression (t : Table) (_columns : List String) (_expression : String) (log : Log) :
    Table × Log :=
  (t, log.write OrderingFeature.expressionOrdering.ignored)

/-- Placing nulls last changes nothing but the log. -/
def orderNullsLast (t : Table) (log : Log) : Table × Log :=
  (t, log.write OrderingFeature.nullsLastOrdering.ignored)

end Table

/-- What a table has worked out so far. -/
structure Plan where
  query : Query
  prepared : Bool := false
  total : Option Nat := none
  filtered : Option Nat := none
  /-- The queries sent to the store, rendered. -/
  queryLog : List Value := []
  deriving Repr, Inhabited

def Table.initialPlan (t : Table) : Plan :=
  { query := t.base, total := t.totalOverride, filtered := t.filteredOverride }

/-- What changes as a table is used: its plan, the calls its store received, and the log. -/
structure TableState where
  plan : Plan
  calls : List StoreCall := []
  log : Log := {}
  deriving Repr, Inhabited

/-- A step in the use of a table, which may fail and keeps what it did to the state. -/
abbrev TableM := ExceptT TableError (StateM TableState)

end TableQuery
