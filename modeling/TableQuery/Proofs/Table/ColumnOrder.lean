import Mathlib.Data.List.FinRange
import TableQuery.Proofs.Query.Rearranged
import TableQuery.Proofs.Table.Answers
import TableQuery.Proofs.Table.Search
import TableQuery.Proofs.Table.Unpaged

set_option autoImplicit false

namespace TableQuery

open Json (Value)

/-- Going through the positions of a list is going through the list. -/
theorem filterMap_positions {α β : Type} (items : List α) (f : α → Option β) :
    ((List.range items.length).filterMap fun index => (items[index]?).bind f) = items.filterMap f := by
  induction items with
  | nil => rfl
  | cons item rest ih =>
    rw [List.length_cons, List.range_succ_eq_map, List.filterMap_cons, List.filterMap_map, List.filterMap_cons]
    simp only [List.getElem?_cons_zero, Option.bind_some, Function.comp_def, List.getElem?_cons_succ, ih]

def Column.ownSearch? (c : Column) : Option ColumnSearch :=
  if c.searchable && c.search.keyword?.isSome then
    match c.resolved?, c.search.pattern? with
    | some column, some keyword => some ⟨column, keyword, c.search.regex⟩
    | _, _ => none
  else none

namespace Request

theorem columnSearches_eq (r : Request) : r.columnSearches = r.columns.filterMap Column.ownSearch? := by
  have single (index : Nat) : r.columnSearchAt? index = (r.columns[index]?).bind Column.ownSearch? := by
    unfold columnSearchAt? isSearchedAt fieldAt? keywordAt? isPatternAt
    cases r.columns[index]? with
    | none => rfl
    | some c => rfl
  rw [← filterMap_positions, columnSearches]
  exact List.filterMap_congr fun index _ => single index

theorem searchedColumns_eq (r : Request) : r.searchablePositions.filterMap r.fieldAt? =
    r.columns.filterMap fun c => if c.searchable then c.resolved? else none := by
  rw [← filterMap_positions r.columns, searchablePositions, List.filterMap_filter]
  refine List.filterMap_congr fun index _ => ?_
  unfold fieldAt?
  cases r.columns[index]? with
  | none => rfl
  | some c => rfl

variable (r : Request) (places : Equiv.Perm (Fin r.columns.length))

/-- Where a permutation of the columns takes the column at a position; there is nothing to take elsewhere. -/
def placeOf (index : Nat) : Nat :=
  if inside : index < r.columns.length then places ⟨index, inside⟩ else index

def reorder : Request :=
  { r with
    columns := List.ofFn fun place => r.columns[places.symm place]
    order := r.order.map fun o => { o with column := r.placeOf places o.column } }

theorem reorder_columns_perm : (r.reorder places).columns.Perm r.columns := by
  have moved := Equiv.Perm.ofFn_comp_perm places.symm fun index : Fin r.columns.length => r.columns[index]
  have kept : (List.ofFn fun index : Fin r.columns.length => r.columns[index]) = r.columns := List.ofFn_getElem
  rw [kept] at moved
  exact moved

theorem reorder_column_at (index : Nat) :
    (r.reorder places).columns[r.placeOf places index]? = r.columns[index]? := by
  unfold placeOf reorder
  rw [List.getElem?_ofFn]
  by_cases inside : index < r.columns.length
  · simp only [inside, ↓reduceDIte, Fin.is_lt, Fin.eta, Equiv.symm_apply_apply]
    exact (List.getElem?_eq_getElem inside).symm
  · simp only [inside, ↓reduceDIte]
    exact (List.getElem?_eq_none (Nat.le_of_not_lt inside)).symm

/-- The applicable orders follow the columns, and their own order is kept. -/
theorem reorder_applicableOrders : (r.reorder places).applicableOrders =
    r.applicableOrders.map fun o => { o with column := r.placeOf places o.column } := by
  unfold applicableOrders
  change ((r.order.map _).filter _) = _
  rw [List.filter_map]
  simp only [Function.comp_def, reorder_column_at]

/-- Orders that follow the columns do to a query what they did before. -/
theorem reorder_orderSteps (rules : Rules) :
    rules.orderSteps (r.reorder places).fieldAt? (r.reorder places).applicableOrders =
      rules.orderSteps r.fieldAt? r.applicableOrders := by
  have single (o : ColumnOrder) :
      rules.orderStep (r.reorder places).fieldAt? { o with column := r.placeOf places o.column } =
        rules.orderStep r.fieldAt? o := by
    unfold Rules.orderStep fieldAt?
    simp only [reorder_column_at]
  unfold Rules.orderSteps
  rw [reorder_applicableOrders, List.map_map]
  exact congrArg QueryEdit.all (List.map_congr_left fun o _ => single o)

theorem reorder_columnSearches_perm : r.columnSearches.Perm (r.reorder places).columnSearches := by
  rw [columnSearches_eq, columnSearches_eq]
  exact (r.reorder_columns_perm places).symm.filterMap _

theorem reorder_globalSearches_perm : r.globalSearches.Perm (r.reorder places).globalSearches := by
  have columns := ((r.reorder_columns_perm places).symm.filterMap
    fun c => if c.searchable then c.resolved? else none)
  rw [← searchedColumns_eq, ← searchedColumns_eq] at columns
  unfold globalSearches
  change ((r.tableKeyword?.toList.flatMap _).Perm (r.tableKeyword?.toList.flatMap _))
  cases r.tableKeyword? with
  | none => exact .nil
  | some keyword =>
    simp only [Option.toList_some, List.flatMap_singleton]
    exact columns.map _

end Request

namespace Searcher

variable {s : Searcher} {base : Query} {searches others : List ColumnSearch}

theorem succeeds_perm (perm : searches.Perm others) : s.Succeeds base searches ↔ s.Succeeds base others := by
  unfold Succeeds
  simp only [perm.mem_iff]

theorem filters_perm (perm : searches.Perm others) : (s.filters base searches).Perm (s.filters base others) :=
  perm.filterMap _

end Searcher

theorem RowShape.shapeRows_recolumned {m : RowShape} (objects : m.arrayRows = false)
    (columns : List (Option String)) (rows : List Value) (start : Nat) :
    { m with columns : RowShape }.shapeRows rows start = m.shapeRows rows start := by
  have edited (row : Value) : { m with columns : RowShape }.editRow row = m.editRow row := by
    cases row with
    | _ => rfl
  have single (row : Value) (index : Nat) :
      { m with columns : RowShape }.shapeRow row index = m.shapeRow row index := by
    unfold shapeRow
    rw [edited, objects]
    rfl
  have unchanged (row : Value) (index : Nat) :
      { m with columns : RowShape }.shapeRow row index = (m.shapeRow row index).map id := by
    rw [single, Except.map_id]
    rfl
  unfold shapeRows
  rw [shapeFrom_eq_map unchanged, List.map_id_fun, Except.map_id]
  rfl

namespace Table

/-- The hooks, and the orders that columns have of their own, do not mind how the clauses are arranged that
they find. -/
structure Respects (t : Table) : Prop where
  filters : ∀ hook ∈ t.filterHook, hook.Respects
  orders : ∀ hook ∈ t.orderHook, hook.Respects
  limits : ∀ hook ∈ t.limitHook, hook.Respects
  own : t.rules.OrdersBy QueryEdit.Respects

def reorder (t : Table) (places : Equiv.Perm (Fin t.request.columns.length)) : Table :=
  { t with
    request := t.request.reorder places
    shape := { t.shape with columns := (RowShape.ofRequest (t.request.reorder places)).columns } }

variable {t : Table} (places : Equiv.Perm (Fin t.request.columns.length)) {q r : Query}

theorem globalOutcome_reorder (rearranged : q.Rearranged r) :
    Alike Query.Rearranged (t.globalOutcome q) ((t.reorder places).globalOutcome r) := by
  cases searching : t.globalSearch with
  | false =>
    unfold globalOutcome reorder
    rw [searching]
    exact .done rearranged
  | true =>
    have perm := t.request.reorder_globalSearches_perm places
    -- Searches look at the collection of the query alone, so any query on it may stand for the base.
    have here (found : Query) : t.globalOutcome q = .ok found ↔ _ :=
      globalOutcome_eq_ok_iff (t := { t with base := q }) searching rfl
    have there (found : Query) : (t.reorder places).globalOutcome r = .ok found ↔ _ :=
      globalOutcome_eq_ok_iff (t := { t.reorder places with base := q }) searching rearranged.fresh_eq
    refine Alike.of_iff here there (Searcher.succeeds_perm perm) ?_
    exact rearranged.requireAnyOf (Searcher.filters_perm perm)

theorem columnsOutcome_reorder (rearranged : q.Rearranged r) :
    Alike Query.Rearranged (t.columnsOutcome (List.range t.request.columns.length) q)
      ((t.reorder places).columnsOutcome (List.range (t.reorder places).request.columns.length) r) := by
  have perm := t.request.reorder_columnSearches_perm places
  have here := @columnsOutcome_congr t { t with base := q } fun _ _ => rfl
  have there := @columnsOutcome_congr (t.reorder places) { t.reorder places with base := q } fun _ _ => rfl
  rw [here, there]
  refine Alike.of_iff (fun found => columnsOutcome_eq_ok_iff rfl)
    (fun found => columnsOutcome_eq_ok_iff rearranged.fresh_eq) (Searcher.succeeds_perm perm) ?_
  exact rearranged.requireAll (Searcher.filters_perm perm)

theorem hookOutcome_respects {hook : Option QueryEdit} (respects : ∀ edit ∈ hook, edit.Respects)
    (rearranged : q.Rearranged r) : Alike Query.Rearranged (hookOutcome hook q) (hookOutcome hook r) := by
  cases hook with
  | none => exact .done rearranged
  | some edit => exact respects edit rfl q r rearranged

theorem filterOutcome_reorder (respects : t.Respects) (rearranged : q.Rearranged r) :
    Alike Query.Rearranged (t.filterOutcome q) ((t.reorder places).filterOutcome r) := by
  refine (globalOutcome_reorder places rearranged).bind fun q r rearranged => ?_
  refine (hookOutcome_respects respects.filters rearranged).bind fun q r rearranged => ?_
  exact columnsOutcome_reorder places rearranged

/-- Ordering sees the columns only where orders point at them, and orders follow their columns. -/
theorem orderOutcome_reorder_eq (q : Query) : (t.reorder places).orderOutcome q = t.orderOutcome q := by
  have same := t.request.reorder_orderSteps places t.rules
  have hooked : (t.reorder places).orderHook = t.orderHook := rfl
  have moved : (t.reorder places).request.applicableOrders = _ := t.request.reorder_applicableOrders places
  unfold orderOutcome
  rw [hooked]
  cases t.orderHook with
  | some edit => rfl
  | none =>
    rw [moved]
    rw [t.request.reorder_applicableOrders places] at same
    cases asked : t.request.applicableOrders with
    | nil => rfl
    | cons order rest =>
      rw [asked] at same
      exact congrArg (·.run q) same

theorem orderOutcome_reorder (respects : t.Respects) (rearranged : q.Rearranged r) :
    Alike Query.Rearranged (t.orderOutcome q) ((t.reorder places).orderOutcome r) := by
  obtain ⟨edit, arranges, runs⟩ := exists_orderEdit respects.orders
    (QueryEdit.orderByAll_respects t.defaultOrder)
    (Rules.orderSteps_induction QueryEdit.orderByAll_respects (fun _ => QueryEdit.all_respects) respects.own
      t.request.fieldAt?)
  rw [orderOutcome_reorder_eq, runs, runs]
  exact arranges q r rearranged

theorem pageOutcome_reorder (respects : t.Respects) (rearranged : q.Rearranged r) :
    Alike Query.Rearranged (t.pageOutcome q) ((t.reorder places).pageOutcome r) := by
  have limits := respects.limits
  have same : (t.reorder places).pageOutcome r = t.pageOutcome r := rfl
  rw [same]
  unfold pageOutcome Request.applyPage
  cases t.skipPaging with
  | true => exact .done rearranged
  | false =>
    cases hooked : t.limitHook with
    | none =>
      exact .done (rearranged.beside
        (fun q => (q.skipRows t.request.offset).limitRows (pageLength t.request.length)) fun _ _ => rfl)
    | some edit =>
      exact limits edit hooked _ _ (rearranged.beside (·.limitRows (pageLength t.request.length)) fun _ _ => rfl)

end Table

/-- The plans have the same counts, and their queries differ at most in how their clauses are arranged. -/
structure Plan.Rearranged (plan other : Plan) : Prop where
  query : plan.query.Rearranged other.query
  total : plan.total = other.total
  filtered : plan.filtered = other.filtered

structure Response.Agrees (response other : Response) : Prop where
  success : response.isSuccess = true ∧ other.isSuccess = true
  total : response.recordsTotal = other.recordsTotal
  filtered : response.recordsFiltered = other.recordsFiltered
  data : response.data = other.data

namespace Table

section Collection

variable {t : Table} (places : Equiv.Perm (Fin t.request.columns.length)) {c : Collection}
  (stored : t.store = c.store)
include stored

theorem filteredOutcome_reorder {q r : Query} (rearranged : q.Rearranged r) (calls before : List StoreCall)
    (start : Plan) (total : Option Nat) :
    Alike Eq (t.filteredOutcome calls start total q) ((t.reorder places).filteredOutcome before start total r) := by
  have kept : (t.reorder places).store = c.store := stored
  unfold filteredOutcome
  rw [stored, kept, ← rearranged.clauses.length_eq]
  cases start.filtered with
  | some n => exact .done rfl
  | none =>
    simp only
    split
    · exact .done rfl
    · exact rearranged.count c

theorem planOutcome_reorder (respects : t.Respects) (calls before : List StoreCall) (start : Plan) :
    Alike Plan.Rearranged (t.planOutcome calls start) ((t.reorder places).planOutcome before start) := by
  have total : t.totalOutcome calls start = (t.reorder places).totalOutcome before start := by
    have kept : (t.reorder places).store = c.store := stored
    unfold totalOutcome
    rw [stored, kept]
    rfl
  refine (?_ : Alike Plan.Rearranged (t.unpagedOutcome calls start) _).bind fun plan other alike => ?_
  · unfold unpagedOutcome
    rw [total]
    refine (Alike.refl (fun _ => rfl) _).bind fun total _ (same : total = _) => ?_
    refine (filterOutcome_reorder places respects (.refl start.query)).bind fun q r searched => ?_
    rw [← same]
    refine (filteredOutcome_reorder places stored searched _ _ start total).bind fun n _ (same : n = _) => ?_
    refine (orderOutcome_reorder places respects searched).bind fun q r ordered => ?_
    rw [← same]
    exact .done ⟨ordered, rfl, rfl⟩
  · exact (pageOutcome_reorder places respects alike.query).bind fun q r paged =>
      .done ⟨paged, alike.total, alike.filtered⟩

theorem respond_reorder (objects : t.shape.arrayRows = false) (respects : t.Respects) {s u : TableState}
    (unused : s.plan = t.initialPlan) (untouched : u.plan = t.initialPlan) :
    Alike Response.Agrees ((t.respond true).run.run s).1 (((t.reorder places).respond true).run.run u).1 := by
  have kept : (t.reorder places).store = c.store := stored
  have shaped (rows : List Value) : ((t.reorder places).rowShape true).shapeRows rows
      (t.reorder places).request.offset = (t.rowShape true).shapeRows rows t.request.offset :=
    RowShape.shapeRows_recolumned objects _ rows t.request.offset
  have prepares := t.preparesTo_of_pending (pending_of_unused unused)
  have prepared := (t.reorder places).preparesTo_of_pending
    (pending_of_unused (t := t.reorder places) untouched)
  have plans := planOutcome_reorder places stored respects s.calls u.calls t.initialPlan
  rw [unused] at prepares
  rw [untouched] at prepared
  generalize t.planOutcome s.calls t.initialPlan = plan at plans prepares
  generalize (t.reorder places).planOutcome u.calls t.initialPlan = other at plans prepared
  cases plans with
  | failed e f =>
    rw [fst_respond_of_fails prepares, fst_respond_of_fails prepared]
    exact .failed e f
  | done alike =>
    rw [fst_respond_of_prepares prepares, fst_respond_of_prepares prepared, stored, kept]
    refine (alike.query.fetch c).bind fun rows _ same => ?_
    rw [← same, shaped]
    refine (Alike.refl (fun _ => rfl) _).map fun data _ (same : data = _) => ?_
    exact ⟨⟨rfl, rfl⟩, congrArg (·.getD 0) alike.total, congrArg (·.getD 0) alike.filtered, same⟩

/--
The order of the columns does not matter. Where the columns of a request are moved and its orders follow
them, draws over a collection succeed alike, and then give the same counts and the same object rows in the
same order, whatever the query of the caller, the settings, the rules, the hooks and the page. The hooks, and
the orders that columns have of their own, may do anything that does not depend on how the clauses are arranged
that they find.
-/
theorem run_reorder (objects : t.shape.arrayRows = false) (respects : t.Respects) {s u : TableState}
    (unused : s.plan = t.initialPlan) (untouched : u.plan = t.initialPlan) :
    let response := ((t.run true).run s).1
    let other := (((t.reorder places).run true).run u).1
    response.isSuccess = other.isSuccess ∧ (response.isSuccess = true →
      response.recordsTotal = other.recordsTotal ∧ response.recordsFiltered = other.recordsFiltered ∧
      response.data = other.data) := by
  intro response other
  have alike := respond_reorder places stored objects respects
    (s := { s with log := s.log.write t.scope.begun })
    (u := { u with log := u.log.write (t.reorder places).scope.begun }) unused untouched
  have answers : response = _ := t.fst_run true s
  have answered : other = _ := (t.reorder places).fst_run true u
  rw [answers, answered]
  generalize ((t.respond true).run.run _).1 = first at alike
  generalize (((t.reorder places).respond true).run.run _).1 = second at alike
  cases alike with
  | failed e f => exact ⟨rfl, nofun⟩
  | done agrees =>
    exact ⟨agrees.success.1.trans agrees.success.2.symm,
      fun _ => ⟨agrees.total, agrees.filtered, agrees.data⟩⟩

end Collection

set_option maxRecDepth 100000 in
/-- Two columns change places, and an order on the second goes with it. A hook filters by the team or by a group
of its own, the name has an order of its own, and another hook cuts the page. -/
theorem run_reorder_of_swap :
    let c : Collection :=
      ⟨"crew", [.object [("name", .string "Ann"), ("team", .string "core")],
        .object [("name", .string "Abe"), ("team", .string "growth")],
        .object [("name", .string "Bob"), ("team", .string "growth")]]⟩
    let r : Request :=
      { columns := [{ data := some "team" }, { data := some "name", search := { value := "a" } }]
        search := { value := "o" }, order := [⟨1, .desc⟩] }
    let hook : QueryEdit := .all [.pure (·.push .and (.present "team" true)),
      .group .or (.pure (·.push .and (.compare "name" .eq (.string "Abe"))))]
    let rules : Rules := ⟨[("name", { order := some fun direction => .pure (·.orderBy "team" direction) })]⟩
    let t := (((Table.new c.store c.query r).withRules rules).filter hook true).limit (.pure (·.skipRows 0))
    let places : Equiv.Perm (Fin 2) := Equiv.swap 0 1
    let s : TableState := { plan := t.initialPlan }
    t.Respects ∧ (t.reorder places).request.columns = r.columns.reverse ∧
      (t.reorder places).request.order = [⟨0, .desc⟩] ∧
      ((t.run true).run s).1.isSuccess = true ∧ (((t.reorder places).run true).run s).1.isSuccess = true ∧
      ((t.run true).run s).1.data = (((t.reorder places).run true).run s).1.data := by
  intro c r hook rules t places s
  have hooked : hook.Respects := by
    refine QueryEdit.all_respects ?_
    rw [List.forall_mem_cons, List.forall_mem_singleton]
    exact ⟨QueryEdit.Blind.respects fun _ _ => rfl, (QueryEdit.group_blind _ _).respects⟩
  have respects : t.Respects := by
    refine { filters := ?_, orders := nofun, limits := ?_, own := Rules.ordersBy_of_entries ?_ }
    · rintro _ ⟨⟩
      exact hooked
    · rintro _ ⟨⟩ q r rearranged
      exact .done (rearranged.beside (·.skipRows 0) fun _ _ => rfl)
    · refine List.forall_mem_singleton.mpr ?_
      rintro _ ⟨⟩ direction
      exact QueryEdit.orderByAll_respects [⟨"team", direction⟩]
  have drawn : (t.fetchCounted.run.run { s with log := s.log.write t.scope.begun }).1.isOk = true := by
    decide +kernel
  obtain ⟨result, drawn⟩ := isOk_iff.mp drawn
  have success : ((t.run true).run s).1.isSuccess = true := isSuccess_run rfl drawn
  have agrees := run_reorder places (t := t) (c := c) (s := s) (u := s) rfl rfl respects rfl rfl
  exact ⟨respects, by decide +kernel, by decide +kernel, success, agrees.1.symm.trans success,
    (agrees.2 success).2.2⟩

/-- A change that looks at the clauses it finds: where the first alternative of the first clause is on the name, it
asks for the core team. -/
def coreBehindName : QueryEdit := fun q =>
  match q.filter with
  | (_, .group ((_, .regex "name" _) :: _)) :: _ => (q.push .and (.compare "team" .eq (.string "core")), none)
  | _ => (q, none)

set_option maxRecDepth 100000 in
/-- Two columns that are searched change places, under a hook that looks at the clauses of the search. -/
theorem hook_sees_column_order :
    let c : Collection :=
      ⟨"crew", [.object [("name", .string "Ann"), ("team", .string "core")],
        .object [("name", .string "Abe"), ("team", .string "growth")]]⟩
    let r : Request :=
      { columns := [{ data := some "name" }, { data := some "team" }], search := { value := "a" } }
    let t := (Table.new c.store c.query r).filter coreBehindName true
    let places : Equiv.Perm (Fin 2) := Equiv.swap 0 1
    let s : TableState := { plan := t.initialPlan }
    let response := ((t.run true).run s).1
    let other := (((t.reorder places).run true).run s).1
    response.isSuccess = true ∧ other.isSuccess = true ∧
      response.recordsFiltered = 1 ∧ other.recordsFiltered = 2 := by
  decide +kernel

end Table

end TableQuery
