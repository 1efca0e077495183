import TableQuery.Proofs.Table.Steps

set_option autoImplicit false

namespace TableQuery

namespace Table

def searchedFields (t : Table) : List String :=
  t.request.searchablePositions.filterMap t.request.fieldAt?

/-- The query with the global search of the request, or the failure of a search. -/
def globalOutcome (t : Table) (q : Query) : Except TableError Query :=
  match t.globalSearch, t.request.tableKeyword? with
  | true, some keyword => t.searcher.addGlobal q t.searchedFields keyword
  | _, _ => .ok q

def columnOutcome (t : Table) (index : Nat) (q : Query) : Except TableError Query :=
  if t.request.isSearchedAt index then
    match t.request.fieldAt? index, t.request.keywordAt? index with
    | some column, some keyword =>
      t.searcher.addColumn q column keyword (t.request.isPatternAt index)
    | _, _ => .ok q
  else .ok q

/-- The query with the searches in the columns at the given positions. -/
def columnsOutcome (t : Table) : List Nat → Query → Except TableError Query
  | [], q => .ok q
  | index :: rest, q => t.columnOutcome index q >>= t.columnsOutcome rest

/-- Tables that search each column alike search all columns alike. -/
theorem columnsOutcome_congr {t other : Table}
    (alike : ∀ index q, t.columnOutcome index q = other.columnOutcome index q) (positions : List Nat)
    (q : Query) : t.columnsOutcome positions q = other.columnsOutcome positions q := by
  induction positions generalizing q with
  | nil => rfl
  | cons index rest ih => rw [columnsOutcome, columnsOutcome, alike, funext ih]

def hookOutcome (hook : Option QueryEdit) (q : Query) : Except TableError Query :=
  match hook with
  | some edit => edit.run q
  | none => .ok q

/-- The query with the global search, the filter hook and the searches in columns. -/
def filterOutcome (t : Table) (q : Query) : Except TableError Query := do
  let q ← t.globalOutcome q
  let q ← hookOutcome t.filterHook q
  t.columnsOutcome (List.range t.request.columns.length) q

def orderOutcome (t : Table) (q : Query) : Except TableError Query :=
  match t.orderHook with
  | some edit => edit.run q
  | none =>
    match t.request.applicableOrders with
    | [] => .ok (q.orderByAll t.defaultOrder)
    | orders => (t.rules.orderSteps t.request.fieldAt? orders).run q

/-- The query cut to its page, unless all rows are wanted. -/
def pageOutcome (t : Table) (q : Query) : Except TableError Query :=
  if t.skipPaging then .ok q else (t.request.applyPage t.limitHook).run q

/-- Without a hook the page is the window that the request asks for. -/
theorem pageOutcome_eq {t : Table} (unhooked : t.limitHook = none) (paged : t.skipPaging = false) (q : Query) :
    t.pageOutcome q =
      .ok ((q.skipRows t.request.offset).limitRows (pageLength t.request.length)) := by
  unfold pageOutcome Request.applyPage
  rw [unhooked, paged]
  rfl

/-- Without a hook, all that cutting the page does to the query is to set its window. -/
theorem pageOutcome_window {t : Table} (unhooked : t.limitHook = none) {q paged : Query}
    (pages : t.pageOutcome q = .ok paged) : ∃ skip limit, paged = { q with skip, limit } := by
  unfold pageOutcome Request.applyPage at pages
  rw [unhooked] at pages
  cases skipped : t.skipPaging with
  | true =>
    rw [skipped] at pages
    cases pages
    exact ⟨q.skip, q.limit, rfl⟩
  | false =>
    rw [skipped] at pages
    cases pages
    exact ⟨some t.request.offset, some (pageLength t.request.length), rfl⟩

/-- Cutting the page without a hook leaves the filter as it is. -/
theorem pageOutcome_filter {t : Table} (unhooked : t.limitHook = none) {q paged : Query}
    (pages : t.pageOutcome q = .ok paged) : paged.filter = q.filter := by
  obtain ⟨_, _, rfl⟩ := pageOutcome_window unhooked pages
  rfl

theorem resolveColumn_yields (t : Table) (index : Nat) (stage : String) :
    (t.resolveColumn index stage).Yields (.ok (t.request.fieldAt? index)) := by
  unfold resolveColumn
  cases t.request.fieldAt? index with
  | none => exact (TableM.yields_log _).bind fun _ => TableM.yields_pure none
  | some column => exact TableM.yields_pure (some column)

theorem searchedColumns_yields (t : Table) (positions : List Nat) :
    (t.searchedColumns positions).Yields (.ok (positions.filterMap t.request.fieldAt?)) := by
  induction positions with
  | nil => exact TableM.yields_pure []
  | cons index rest ih =>
    have yields := (t.resolveColumn_yields index "global_search").bind fun column =>
      ih.bind fun columns => TableM.yields_pure (column.toList ++ columns)
    have same : (t.request.fieldAt? index).toList ++ rest.filterMap t.request.fieldAt? =
        (index :: rest).filterMap t.request.fieldAt? := by
      simp only [List.filterMap_eq_flatMap_toList, List.flatMap_cons]
    rw [← same]
    exact yields

theorem filterGlobally_yields (t : Table) (q : Query) :
    (t.filterGlobally q).Yields (t.globalOutcome q) := by
  unfold filterGlobally globalOutcome
  cases t.globalSearch with
  | false => exact TableM.yields_pure q
  | true =>
    cases t.request.tableKeyword? with
    | none => exact TableM.yields_pure q
    | some keyword => exact (t.searchedColumns_yields _).bind_ok (TableM.yields_lift _)

theorem filterColumnAt_yields (t : Table) (index : Nat) (q : Query) :
    (t.filterColumnAt index q).Yields (t.columnOutcome index q) := by
  unfold filterColumnAt columnOutcome
  split
  · refine (t.resolveColumn_yields index "column_search").bind_ok ?_
    cases t.request.fieldAt? index with
    | none => exact TableM.yields_pure q
    | some column =>
      cases t.request.keywordAt? index with
      | none => exact TableM.yields_pure q
      | some keyword => exact TableM.yields_lift _
  · exact TableM.yields_pure q

theorem filterColumns_yields (t : Table) (positions : List Nat) (q : Query) :
    (t.filterColumns positions q).Yields (t.columnsOutcome positions q) := by
  induction positions generalizing q with
  | nil => exact TableM.yields_pure q
  | cons index rest ih => exact (t.filterColumnAt_yields index q).bind ih

theorem runHook_yields (hook : Option QueryEdit) (q : Query) :
    (runHook hook q).Yields (hookOutcome hook q) := by
  cases hook with
  | none => exact TableM.yields_pure q
  | some edit => exact TableM.yields_lift _

theorem applyFilters_yields (t : Table) (q : Query) :
    (t.applyFilters q).Yields (t.filterOutcome q) :=
  (t.filterGlobally_yields q).bind fun q =>
    (runHook_yields t.filterHook q).bind fun q => t.filterColumns_yields _ q

theorem applyOrder_yields (t : Table) (q : Query) : (t.applyOrder q).Yields (t.orderOutcome q) := by
  unfold applyOrder orderOutcome
  cases t.orderHook with
  | some edit => exact TableM.yields_lift _
  | none =>
    cases t.request.applicableOrders with
    | nil => exact TableM.yields_pure _
    | cons first rest =>
      obtain ⟨entries, planned⟩ := t.rules.planOrders_eq t.request.fieldAt? (first :: rest) q
      refine ⟨entries, fun s => ?_⟩
      rw [TableM.run_get_bind, TableM.run_set_bind, planned]
      change _ = ((t.rules.orderSteps t.request.fieldAt? (first :: rest)).run q, _)
      unfold QueryEdit.run
      rcases t.rules.orderSteps t.request.fieldAt? (first :: rest) q with ⟨after, _ | e⟩
      · rfl
      · rfl

theorem applyPaging_yields (t : Table) (q : Query) : (t.applyPaging q).Yields (t.pageOutcome q) := by
  unfold applyPaging pageOutcome
  split
  · exact TableM.yields_pure q
  · exact TableM.yields_lift _

/-- The rendering of the finished query that goes to the query log under debug. -/
def debugLog (t : Table) (q : Query) : List Json.Value := if t.settings.debug then [q.toDocument] else []

theorem logPrepared_yields (t : Table) (q : Query) : (t.logPrepared q).Yields (.ok (t.debugLog q)) := by
  unfold logPrepared debugLog
  split
  · exact (TableM.yields_log _).bind fun _ => TableM.yields_pure _
  · exact TableM.yields_pure []

end Table

end TableQuery
