import TableQuery.Log
import TableQuery.Request.Basic
import TableQuery.Rules

set_option autoImplicit false

namespace TableQuery

def unresolvedEntry (index : Nat) (stage : String) : LogEntry :=
  Event.columnUnresolved.entry
    [("code", (TableError.unnamedColumn index).code), ("index", toString index), ("stage", stage)]

/-- What planning leaves behind: the log, the query, and the failure if there was one. -/
structure Planned where
  log : Log
  query : Query
  failure : Option TableError
  deriving Repr, Inhabited

namespace Rules

/--
Applies orders to a query from the first to the last, up to the first that fails. Orders on columns
without a name are logged and passed over, those on excluded columns just passed over.
-/
def planOrders (rules : Rules) (resolve : Nat → Option String) :
    List ColumnOrder → Log → Query → Planned
  | [], log, q => ⟨log, q, none⟩
  | order :: rest, log, q =>
    match resolve order.column with
    | none => rules.planOrders resolve rest (log.write (unresolvedEntry order.column "order")) q
    | some column =>
      if rules.isBarredFromOrder column then rules.planOrders resolve rest log q
      else
        match rules.orderEdit? column order.direction with
        | none => rules.planOrders resolve rest log (q.orderBy column order.direction)
        | some edit =>
          match edit q with
          | (q, none) => rules.planOrders resolve rest log q
          | (q, some e) => ⟨log, q, some e⟩

end Rules

/-- A way of ordering that a table may be asked for. -/
inductive OrderingFeature where
  | fieldOrdering
  | callbackOrdering
  | expressionOrdering
  | nullsLastOrdering
  deriving DecidableEq, Repr, Inhabited

namespace OrderingFeature

def name : OrderingFeature → String
  | fieldOrdering => "field_ordering"
  | callbackOrdering => "callback_ordering"
  | expressionOrdering => "expression_ordering"
  | nullsLastOrdering => "nulls_last_ordering"

def table : List (OrderingFeature × Bool) :=
  [(fieldOrdering, true), (callbackOrdering, true), (expressionOrdering, false),
    (nullsLastOrdering, false)]

def isSupported (c : OrderingFeature) : Bool := (table.find? (·.1 == c)).any (·.2)

/-- The error for an ordering feature that is not supported. -/
def unsupported (c : OrderingFeature) : TableError := .unsupported c.name

def ignored (c : OrderingFeature) : LogEntry := Event.unsupportedIgnored.entry [("feature", c.name)]

end OrderingFeature

/-- The length of a page where the request asks for none. -/
def defaultPageLength : Nat := 10

/-- The length of a page: a length that is not positive stands for the default. -/
def pageLength (length : Int64) : Nat :=
  if 0 < length.toInt then length.toInt.toNat else defaultPageLength

def Request.applyPage (r : Request) (limiter : Option QueryEdit) : QueryEdit := fun q =>
  match limiter with
  | some edit => edit (q.limitRows (pageLength r.length))
  | none => ((q.skipRows r.offset).limitRows (pageLength r.length), none)

end TableQuery
