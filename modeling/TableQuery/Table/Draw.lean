import TableQuery.Response.Basic
import TableQuery.Table.Prepare

set_option autoImplicit false

namespace TableQuery

open Json (Value)

structure CountedRows where
  rows : List Value
  total : Nat
  filtered : Nat
  deriving Repr, Inhabited

namespace Table

def fetchRows (t : Table) : TableM (List Value) := do
  t.prepare
  t.askFetch (← get).plan.query

def fetchCounted (t : Table) : TableM CountedRows := do
  let rows ← t.fetchRows
  let plan := (← get).plan
  pure ⟨rows, plan.total.getD 0, plan.filtered.getD 0⟩

/-- The prepared query with its counts; no rows are fetched. -/
def explain (t : Table) : TableM Value := do
  t.prepare
  let plan := (← get).plan
  pure (.ofMembers [("query", plan.query.toDocument), ("recordsTotal", .nat (plan.total.getD 0)),
    ("recordsFiltered", .nat (plan.filtered.getD 0))])

def respond (t : Table) (objectRows : Bool) : TableM Response := do
  let result ← t.fetchCounted
  let shape := if objectRows then t.shape else t.shape.withArrayRows true
  let data ← TableM.lift (shape.shapeRows result.rows t.request.offset)
  let response : Response :=
    { draw := t.request.draw, recordsTotal := result.total, recordsFiltered := result.filtered
      data, payload := t.payload }
  if t.settings.debug then
    pure (response.withDebug (← get).plan.queryLog t.request.toValue)
  else pure response

/-- The scope in which the draw is logged. -/
def scope (t : Table) : Scope := ⟨"TABLE_RUN", [("draw", toString t.request.draw)]⟩

/-- A draw that panics in the fetch of its rows: the log tells that it was given up. -/
def breakOff (t : Table) : StateM TableState Unit := do
  modify fun s => { s with log := s.log.write t.scope.begun }
  let _ ← t.fetchRows.run
  modify fun s => { s with log := s.log.write t.scope.abandoned }

/-- The answer to the draw; a failure becomes an answer that tells it. -/
def run (t : Table) (objectRows : Bool) : StateM TableState Response := do
  modify fun s => { s with log := s.log.write t.scope.begun }
  match ← (t.respond objectRows).run with
  | .ok response =>
    let fields := [("filtered", toString response.recordsFiltered),
      ("rows", toString response.data.length)]
    modify fun s => { s with log := s.log.write (t.scope.completed fields) }
    pure response
  | .error e =>
    modify fun s => { s with log := s.log.write (t.scope.failed e.code e.message) }
    pure (.failure t.request.draw e)

end Table

end TableQuery
