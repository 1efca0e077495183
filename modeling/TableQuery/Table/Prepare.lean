import TableQuery.Request.Basic
import TableQuery.Table.Basic

set_option autoImplicit false

namespace TableQuery

open Json (Value)

namespace TableM

def log (entry : LogEntry) : TableM Unit := modify fun s => { s with log := s.log.write entry }

/-- The failure or the result of a part that does not touch the state. -/
def lift {α : Type} : Except TableError α → TableM α
  | .ok a => pure a
  | .error e => throw e

end TableM

namespace Table

def askCount (t : Table) (q : Query) : TableM Nat := do
  let s ← get
  set { s with calls := s.calls ++ [StoreCall.count q] }
  TableM.lift (t.store.count s.calls q)

def askFetch (t : Table) (q : Query) : TableM (List Value) := do
  let s ← get
  set { s with calls := s.calls ++ [StoreCall.fetch q] }
  TableM.lift (t.store.fetch s.calls q)

def searcher (t : Table) : Searcher := ⟨t.settings, t.rules⟩

/-- The field of the column at a position; a column without one is logged. -/
def resolveColumn (t : Table) (index : Nat) (stage : String) : TableM (Option String) :=
  match t.request.fieldAt? index with
  | some column => pure (some column)
  | none => do
    TableM.log (unresolvedEntry index stage)
    pure none

def searchedColumns (t : Table) : List Nat → TableM (List String)
  | [] => pure []
  | index :: rest => do
    let column ← t.resolveColumn index "global_search"
    let columns ← t.searchedColumns rest
    pure (column.toList ++ columns)

def filterGlobally (t : Table) (q : Query) : TableM Query :=
  match t.globalSearch, t.request.tableKeyword? with
  | true, some keyword => do
    let columns ← t.searchedColumns t.request.searchablePositions
    TableM.lift (t.searcher.addGlobal q columns keyword)
  | _, _ => pure q

def filterColumnAt (t : Table) (index : Nat) (q : Query) : TableM Query :=
  if t.request.isSearchedAt index then do
    match ← t.resolveColumn index "column_search", t.request.keywordAt? index with
    | some column, some keyword =>
      TableM.lift (t.searcher.addColumn q column keyword (t.request.isPatternAt index))
    | _, _ => pure q
  else pure q

/-- Adds the searches in the columns at the given positions. -/
def filterColumns (t : Table) : List Nat → Query → TableM Query
  | [], q => pure q
  | index :: rest, q => do t.filterColumns rest (← t.filterColumnAt index q)

def runHook (hook : Option QueryEdit) (q : Query) : TableM Query :=
  match hook with
  | some edit => TableM.lift (edit.run q)
  | none => pure q

/-- Adds the global search, the filter hook and the searches in columns. -/
def applyFilters (t : Table) (q : Query) : TableM Query := do
  let q ← t.filterGlobally q
  let q ← runHook t.filterHook q
  t.filterColumns (List.range t.request.columns.length) q

/-- Orders the query by the hook, by the request, or by default. -/
def applyOrder (t : Table) (q : Query) : TableM Query :=
  match t.orderHook with
  | some edit => TableM.lift (edit.run q)
  | none =>
    match t.request.applicableOrders with
    | [] => pure (q.orderByAll t.defaultOrder)
    | orders => do
      let s ← get
      let planned := t.rules.planOrders t.request.fieldAt? orders s.log q
      set { s with log := planned.log }
      match planned.failure with
      | some e => throw e
      | none => pure planned.query

/-- Cuts the page, unless all rows are wanted. -/
def applyPaging (t : Table) (q : Query) : TableM Query :=
  if t.skipPaging then pure q else TableM.lift ((t.request.applyPage t.limitHook).run q)

/-- A count and the rendering of the query it was asked with, if it was asked. -/
abbrev Counted := Option Nat × List Value

/-- The total count: given, left out, or asked for. -/
def countTotal (t : Table) (plan : Plan) (q : Query) : TableM Counted :=
  match plan.total with
  | some n => pure (some n, [])
  | none => if t.skipTotal then pure (none, []) else do
    let n ← t.askCount q
    pure (some n, [q.toDocument])

/--
The filtered count: given, the same as the total where no clause was added, or asked for.
-/
def countFiltered (t : Table) (plan : Plan) (total : Option Nat) (before q : Query) :
    TableM (Nat × List Value) :=
  match plan.filtered with
  | some n => pure (n, [])
  | none =>
    match total, q.filter.length == before.filter.length with
    | some n, true => pure (n, [])
    | _, _ => do
      let n ← t.askCount q
      pure (n, [q.toDocument])

/-- The rendering of the finished query, logged, under debug. -/
def logPrepared (t : Table) (q : Query) : TableM (List Value) :=
  if t.settings.debug then do
    let rendered := q.toDocument
    TableM.log (Event.queryPrepared.entry [("query", rendered.render)])
    pure [rendered]
  else pure []

def buildPlan (t : Table) (plan : Plan) : TableM Plan := do
  let base := plan.query
  let (total, totalLog) ← t.countTotal plan base
  let q ← t.applyFilters base
  let (filtered, filteredLog) ← t.countFiltered plan total base q
  let total := if t.skipTotal then some filtered else total
  let q ← t.applyOrder q
  let q ← t.applyPaging q
  let finalLog ← t.logPrepared q
  pure
    { query := q, prepared := true, total, filtered := some filtered
      queryLog := totalLog ++ filteredLog ++ finalLog }

def prepare (t : Table) : TableM Unit := do
  let s ← get
  if s.plan.prepared then pure ()
  else do
    let plan ← t.buildPlan s.plan
    modify fun s => { s with plan }

end Table

end TableQuery
