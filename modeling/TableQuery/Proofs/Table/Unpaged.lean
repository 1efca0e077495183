import TableQuery.Proofs.Filter.Meaning
import TableQuery.Proofs.Table.Calls

set_option autoImplicit false

namespace TableQuery

open Json (Value)

def Collection.draw (c : Collection) (plan : Plan) : Except TableError CountedRows :=
  (c.fetch plan.query).map fun rows => ⟨rows, plan.total.getD 0, plan.filtered.getD 0⟩

theorem Collection.fetch_of_count {c : Collection} {q : Query} (unskipped : q.skip = none)
    (unlimited : q.limit = none) {n : Nat} (counted : c.count q = .ok n) :
    ∃ rows, c.fetch q = .ok rows ∧ rows.length = n := by
  obtain ⟨compiles, rfl⟩ := count_eq_ok_iff.mp counted
  refine ⟨_, fetch_eq_ok_iff.mpr ⟨compiles, rfl⟩, ?_⟩
  rw [unskipped, unlimited, window, Option.getD_none, List.drop_zero, length_sortDocuments]

theorem Collection.filter_matches (c : Collection) {clauses : Clauses} (compiles : (Filter.group clauses).Compiles) :
    (c.documents.filter fun document => (Filter.group clauses).Matches document) =
      c.documents.filter ((Filter.group clauses).meets ·) := by
  refine List.filter_congr fun document _ => ?_
  rw [Bool.eq_iff_iff, decide_eq_true_iff, Filter.matches_iff]
  exact and_iff_right compiles

theorem Collection.length_matches {c : Collection} {q : Query} {n : Nat} (counted : c.count q = .ok n) :
    (c.documents.filter fun document => (Filter.group q.filter).Matches document).length = n := by
  obtain ⟨compiles, rfl⟩ := count_eq_ok_iff.mp counted
  rw [c.filter_matches compiles]

namespace Table

/-- The query of the caller has no window, the filter hook appends clauses and sort keys at most, and
what orders the query is of one kind. -/
structure Uncut (t : Table) (ordering : QueryEdit → Prop) : Prop where
  skip : t.base.skip = none
  limit : t.base.limit = none
  filters : ∀ hook ∈ t.filterHook, hook.Extends
  orders : ∀ hook ∈ t.orderHook, ordering hook
  own : t.rules.OrdersBy ordering

theorem Uncut.mono {t : Table} {ordering other : QueryEdit → Prop} (uncut : t.Uncut ordering)
    (weaker : ∀ edit, ordering edit → other edit) : t.Uncut other where
  skip := uncut.skip
  limit := uncut.limit
  filters := uncut.filters
  orders hook hooked := weaker hook (uncut.orders hook hooked)
  own column direction edit registered := weaker edit (uncut.own column direction edit registered)

theorem globalOutcome_requires {t : Table} {q after : Query} (done : t.globalOutcome q = .ok after) :
    ∃ filters, after = q.requireAll filters := by
  unfold globalOutcome at done
  split at done
  · rw [Searcher.addGlobal_eq] at done
    obtain ⟨found, _, same⟩ := map_eq_ok_iff.mp done
    exact ⟨found.toList, same.symm.trans (Searcher.require_eq q found)⟩
  · cases done
    exact ⟨[], (Query.requireAll_nil _).symm⟩

theorem columnOutcome_requires {t : Table} {index : Nat} {q after : Query}
    (done : t.columnOutcome index q = .ok after) : ∃ filters, after = q.requireAll filters := by
  have idle : ∃ filters, q = q.requireAll filters := ⟨[], (Query.requireAll_nil q).symm⟩
  unfold columnOutcome at done
  split at done
  · split at done
    · rw [Searcher.addColumn_eq] at done
      obtain ⟨found, _, same⟩ := map_eq_ok_iff.mp done
      exact ⟨found.toList, same.symm.trans (Searcher.require_eq q found)⟩
    · cases done
      exact idle
  · cases done
    exact idle

theorem columnsOutcome_requires {t : Table} {positions : List Nat} {q after : Query}
    (done : t.columnsOutcome positions q = .ok after) : ∃ filters, after = q.requireAll filters := by
  induction positions generalizing q with
  | nil =>
    cases done
    exact ⟨[], (Query.requireAll_nil _).symm⟩
  | cons index rest ih =>
    obtain ⟨middle, first, later⟩ := bind_eq_ok_iff.mp done
    obtain ⟨filters, rfl⟩ := columnOutcome_requires first
    obtain ⟨others, rfl⟩ := ih later
    exact ⟨filters ++ others, (Query.requireAll_append q filters others).symm⟩

theorem hookOutcome_extends {hook : Option QueryEdit} (appends : ∀ edit ∈ hook, edit.Extends)
    {q after : Query} (done : hookOutcome hook q = .ok after) : q.Extends after := by
  cases hook with
  | none =>
    cases done
    exact Query.Extends.refl q
  | some edit => exact (appends edit rfl).run done

theorem filterOutcome_extends {t : Table} (appends : ∀ hook ∈ t.filterHook, hook.Extends)
    {q after : Query} (done : t.filterOutcome q = .ok after) : q.Extends after := by
  obtain ⟨first, globals, rest⟩ := bind_eq_ok_iff.mp done
  obtain ⟨second, hooked, columns⟩ := bind_eq_ok_iff.mp rest
  obtain ⟨filters, rfl⟩ := globalOutcome_requires globals
  obtain ⟨others, rfl⟩ := columnsOutcome_requires columns
  have edited := hookOutcome_extends appends hooked
  exact (q.extends_requireAll filters).trans (edited.trans (second.extends_requireAll others))

/-- Whatever orders the query, the hook, the request or the default, is an edit of the same kind. -/
theorem exists_orderEdit {t : Table} {kind : QueryEdit → Prop} (hooked : ∀ hook ∈ t.orderHook, kind hook)
    (byDefault : kind (.pure (·.orderByAll t.defaultOrder)))
    (planned : ∀ orders, kind (t.rules.orderSteps t.request.fieldAt? orders)) :
    ∃ edit, kind edit ∧ ∀ q, t.orderOutcome q = edit.run q := by
  unfold orderOutcome
  cases hook : t.orderHook with
  | some edit => exact ⟨edit, hooked edit hook, fun _ => rfl⟩
  | none =>
    cases t.request.applicableOrders with
    | nil => exact ⟨_, byDefault, fun _ => rfl⟩
    | cons order rest => exact ⟨_, planned (order :: rest), fun _ => rfl⟩

theorem orderOutcome_extends {t : Table} (uncut : t.Uncut QueryEdit.Extends) {q ordered : Query}
    (done : t.orderOutcome q = .ok ordered) : q.Extends ordered := by
  obtain ⟨edit, appends, runs⟩ := exists_orderEdit uncut.orders
    (QueryEdit.orderByAll_pushesSorts t.defaultOrder).extends
    (Rules.orderSteps_extends uncut.own t.request.fieldAt?)
  rw [runs] at done
  exact appends.run done

theorem orderOutcome_pushesSorts {t : Table} (uncut : t.Uncut QueryEdit.PushesSorts) {q ordered : Query}
    (done : t.orderOutcome q = .ok ordered) : ∃ keys, ordered = q.orderByAll keys := by
  obtain ⟨edit, pushes, runs⟩ := exists_orderEdit uncut.orders
    (QueryEdit.orderByAll_pushesSorts t.defaultOrder)
    (Rules.orderSteps_pushesSorts uncut.own t.request.fieldAt?)
  rw [runs, QueryEdit.run_eq_ok_iff] at done
  obtain ⟨keys, same⟩ := pushes q
  rw [done] at same
  exact ⟨keys, same⟩

/-- Before paging, all that preparation does to the query is to append clauses and sort keys. -/
theorem unpagedOutcome_extends {t : Table} (uncut : t.Uncut QueryEdit.Extends) {calls : List StoreCall}
    {start plan : Plan} (found : t.unpagedOutcome calls start = .ok plan) :
    start.query.Extends plan.query := by
  obtain ⟨_, _, searched, _, _, filters, _, orders, _⟩ := unpagedOutcome_eq_ok found
  have grown := filterOutcome_extends uncut.filters filters
  exact grown.trans (orderOutcome_extends uncut orders)

/-- The plan before paging is the same for every page that is asked for, however it is cut, and for none. -/
theorem unpagedOutcome_repaged (t : Table) (start length : Int64) (limitHook : Option QueryEdit)
    (skipPaging : Bool) (calls : List StoreCall) (plan : Plan) :
    { t with request := { t.request with start, length }, limitHook, skipPaging : Table }.unpagedOutcome
      calls plan = t.unpagedOutcome calls plan := by
  have columns : ∀ positions q, { t with
      request := { t.request with start, length }, limitHook, skipPaging : Table }.columnsOutcome positions q =
      t.columnsOutcome positions q := columnsOutcome_congr fun _ _ => rfl
  unfold unpagedOutcome filterOutcome
  simp only [columns]
  rfl

section Collection

variable {t : Table} {c : Collection} (stored : t.store = c.store)
include stored

theorem unpagedOutcome_calls (calls before : List StoreCall) (start : Plan) :
    t.unpagedOutcome calls start = t.unpagedOutcome before start := by
  unfold unpagedOutcome totalOutcome filteredOutcome
  rw [stored]
  rfl

theorem exists_totalOutcome {start : Plan} {n : Nat} (counted : c.count start.query = .ok n)
    (calls : List StoreCall) : ∃ total, t.totalOutcome calls start = .ok total := by
  unfold totalOutcome
  rw [stored]
  cases start.total with
  | some m => exact ⟨some m, rfl⟩
  | none =>
    cases t.skipTotal with
    | true => exact ⟨none, rfl⟩
    | false => exact ⟨some n, map_eq_ok_iff.mpr ⟨n, counted, rfl⟩⟩

theorem exists_filteredOutcome {start : Plan} {searched : Query} {n : Nat}
    (counted : c.count searched = .ok n) (calls : List StoreCall) (total : Option Nat) :
    ∃ m, t.filteredOutcome calls start total searched = .ok m := by
  unfold filteredOutcome
  rw [stored]
  cases start.filtered with
  | some m => exact ⟨m, rfl⟩
  | none =>
    simp only
    split
    · exact ⟨_, rfl⟩
    · exact ⟨n, counted⟩

theorem fetchCounted_run_of_collection {s : TableState} (pending : s.plan.prepared = false) :
    (t.fetchCounted.run.run s).1 = t.planOutcome s.calls s.plan >>= c.draw := by
  obtain ⟨entries, prepares⟩ := t.prepare_run pending
  have prepared := prepares s.log
  rw [fetchCounted_run]
  cases found : t.planOutcome s.calls s.plan with
  | error e =>
    rw [found] at prepared
    rw [fetchRows_run_of_error prepared]
    rfl
  | ok done =>
    rw [found] at prepared
    rw [fetchRows_run_of_ok prepared, stored]
    rfl

theorem fetchCounted_run_of_prepared {s : TableState} (ready : s.plan.prepared = true) :
    (t.fetchCounted.run.run s).1 = c.draw s.plan := by
  rw [fetchCounted_run, fetchRows_run_of_ok (prepare_run_of_prepared ready), stored]
  rfl

theorem fetchCounted_withoutPaging {s : TableState} (pending : s.plan.prepared = false) :
    (t.withoutPaging.fetchCounted.run.run s).1 = t.unpagedOutcome [] s.plan >>= c.draw := by
  have same : t.withoutPaging.unpagedOutcome s.calls s.plan = t.unpagedOutcome [] s.plan :=
    (t.unpagedOutcome_repaged t.request.start t.request.length t.limitHook true s.calls s.plan).trans
      (unpagedOutcome_calls stored s.calls [] s.plan)
  rw [fetchCounted_run_of_collection (t := t.withoutPaging) stored pending, planOutcome, same]
  cases t.unpagedOutcome [] s.plan with
  | error e => rfl
  | ok plan => rfl

/-- Where the counts are not given, the filtered count is that of the query before paging. -/
theorem count_of_unpagedOutcome (uncut : t.Uncut QueryEdit.PushesSorts) {calls : List StoreCall}
    {start plan : Plan} (uncounted : start.total = none) (unfiltered : start.filtered = none)
    (found : t.unpagedOutcome calls start = .ok plan) :
    ∃ n, plan.filtered = some n ∧ c.count plan.query = .ok n := by
  obtain ⟨between, m, searched, n, totals, filters, counted, orders, _, _, given⟩ :=
    unpagedOutcome_eq_ok found
  have grown := (filterOutcome_extends uncut.filters filters).filter
  rw [filteredOutcome_eq_count stored unfiltered uncounted totals grown] at counted
  obtain ⟨keys, ordered⟩ := orderOutcome_pushesSorts uncut orders
  refine ⟨n, given, ?_⟩
  -- Sort keys do not count.
  have unsorted : c.count (searched.orderByAll keys) = c.count searched := rfl
  rw [ordered, unsorted, counted]

/-- Where the total is not given, it counts the documents that match the query of the caller, or is the
filtered count. -/
theorem total_of_unpagedOutcome {calls : List StoreCall} {start plan : Plan} {n : Nat}
    (uncounted : start.total = none) (found : t.unpagedOutcome calls start = .ok plan)
    (filtered : plan.filtered = some n) :
    ∃ total, plan.total = some total ∧ if t.skipTotal then total = n
      else total = (c.documents.filter fun document =>
        (Filter.group start.query.filter).Matches document).length := by
  obtain ⟨_, m, _, k, totals, _, _, _, _, given, counted⟩ := unpagedOutcome_eq_ok found
  unfold totalOutcome at totals
  rw [uncounted, stored] at totals
  cases skipped : t.skipTotal with
  | true =>
    rw [skipped, ← counted, filtered] at given
    exact ⟨n, given, rfl⟩
  | false =>
    rw [skipped] at totals given
    obtain ⟨total, all, rfl⟩ := map_eq_ok_iff.mp totals
    exact ⟨total, given, (Collection.length_matches all).symm⟩

theorem counts_of_fetchCounted {s : TableState} (pending : s.plan.prepared = false) {result : CountedRows}
    (success : (t.fetchCounted.run.run s).1 = .ok result) :
    ∃ plan, t.unpagedOutcome [] s.plan = .ok plan ∧ result.total = plan.total.getD 0 ∧
      result.filtered = plan.filtered.getD 0 := by
  rw [fetchCounted_run_of_collection stored pending] at success
  obtain ⟨done, planned, drawn⟩ := bind_eq_ok_iff.mp success
  obtain ⟨rows, _, rfl⟩ := map_eq_ok_iff.mp drawn
  obtain ⟨plan, unpaged, _, _, total, filtered⟩ := planOutcome_eq_ok planned
  rw [unpagedOutcome_calls stored s.calls []] at unpaged
  exact ⟨plan, unpaged, congrArg (·.getD 0) total, congrArg (·.getD 0) filtered⟩

theorem exists_rows_withoutPaging (uncut : t.Uncut QueryEdit.PushesSorts) (uncounted : t.totalOverride = none)
    (unfiltered : t.filteredOverride = none) {plan : Plan}
    (found : t.unpagedOutcome [] t.initialPlan = .ok plan) :
    ∃ all, plan.filtered = some all.rows.length ∧ ∀ new : TableState, new.plan = t.initialPlan →
      (t.withoutPaging.fetchCounted.run.run new).1 = .ok all := by
  obtain ⟨n, filtered, counted⟩ := count_of_unpagedOutcome stored uncut uncounted unfiltered found
  have window := (unpagedOutcome_extends (uncut.mono fun _ => QueryEdit.PushesSorts.extends) found).window
  obtain ⟨rows, fetched, length⟩ :=
    Collection.fetch_of_count (window.1.trans uncut.skip) (window.2.trans uncut.limit) counted
  subst length
  refine ⟨⟨rows, plan.total.getD 0, plan.filtered.getD 0⟩, filtered, fun new fresh => ?_⟩
  rw [fetchCounted_withoutPaging stored (pending_of_unused fresh), fresh, found]
  exact map_eq_ok_iff.mpr ⟨rows, fetched, rfl⟩

/--
The filtered count of a draw that succeeds is what there is to page through: the number of rows that the
table gives without paging, whatever page is asked for and however it is cut. The total is the number of
documents that match the query of the caller, or the filtered count, where that is to stand for it.
-/
theorem filtered_eq_length_unpaged (uncut : t.Uncut QueryEdit.PushesSorts)
    (uncounted : t.totalOverride = none) (unfiltered : t.filteredOverride = none) {s : TableState}
    (unused : s.plan = t.initialPlan) {objectRows : Bool}
    (success : ((t.run objectRows).run s).1.isSuccess = true) :
    ∃ all, (∀ new : TableState, new.plan = t.initialPlan →
        (t.withoutPaging.fetchCounted.run.run new).1 = .ok all) ∧
      ((t.run objectRows).run s).1.recordsFiltered = all.rows.length ∧
      if t.skipTotal then ((t.run objectRows).run s).1.recordsTotal = all.rows.length
      else ((t.run objectRows).run s).1.recordsTotal = (c.documents.filter fun document =>
        (Filter.group t.base.filter).Matches document).length := by
  have pending := pending_of_unused unused
  obtain ⟨result, drawn, recordsTotal, recordsFiltered⟩ := run_of_success success
  obtain ⟨plan, unpaged, ofTotal, ofFiltered⟩ :=
    counts_of_fetchCounted (s := { s with log := s.log.write t.scope.begun }) stored pending drawn
  change t.unpagedOutcome [] s.plan = .ok plan at unpaged
  rw [unused] at unpaged
  obtain ⟨all, filtered, rows⟩ := exists_rows_withoutPaging stored uncut uncounted unfiltered unpaged
  obtain ⟨total, totalled, meaning⟩ := total_of_unpagedOutcome stored uncounted unpaged filtered
  refine ⟨all, rows, ?_, ?_⟩
  · rw [recordsFiltered, ofFiltered, filtered, Option.getD_some]
  · rw [recordsTotal, ofTotal, totalled, Option.getD_some]
    exact meaning

end Collection

set_option maxRecDepth 100000 in
/-- Two of a crew of four match "an", and the hook lets in one more: the second page is one of three rows. -/
theorem filtered_eq_length_unpaged_of_crew :
    let c : Collection :=
      ⟨"crew", [.object [("name", .string "Ann"), ("team", .string "core")],
        .object [("name", .string "Bob"), ("team", .string "growth")],
        .object [("name", .string "Dan"), ("team", .string "core")],
        .object [("name", .string "Eve"), ("team", .string "core")]]⟩
    let r : Request :=
      { columns := [{ data := some "name" }], search := { value := "an" }, start := 2, length := 2 }
    let hook : QueryEdit := .pure (·.push .or (.compare "team" .eq (.string "growth")))
    let t := (ofCollection c r).filter hook true
    let s : TableState := { plan := t.initialPlan }
    t.Uncut QueryEdit.PushesSorts ∧ ((t.run true).run s).1.isSuccess = true ∧
      ∃ all, (t.withoutPaging.fetchCounted.run.run s).1 = .ok all ∧
        ((t.run true).run s).1.recordsFiltered = all.rows.length ∧
        ((t.run true).run s).1.recordsTotal = 4 := by
  intro c r hook t s
  have uncut : t.Uncut QueryEdit.PushesSorts :=
    { skip := rfl
      limit := rfl
      filters := by
        intro edit hooked
        cases hooked
        exact fun q => ⟨[(.or, _)], [], (Query.orderByAll_nil _).symm⟩
      orders := by
        intro edit hooked
        cases hooked
      own := Rules.withDefaultExclusions_unordered.ordersBy QueryEdit.PushesSorts }
  have prepares : (t.planOutcome [] t.initialPlan >>= fun done => c.count done.query).isOk = true := by
    decide +kernel
  obtain ⟨n, found⟩ := isOk_iff.mp prepares
  obtain ⟨done, planned, counted⟩ := bind_eq_ok_iff.mp found
  have compiles := (Collection.count_eq_ok_iff.mp counted).1
  have drawn : c.draw done = .ok _ :=
    map_eq_ok_iff.mpr ⟨_, Collection.fetch_eq_ok_iff.mpr ⟨compiles, rfl⟩, rfl⟩
  have success : ((t.run true).run s).1.isSuccess = true := by
    apply isSuccess_run rfl
    rw [fetchCounted_run_of_collection (c := c) rfl rfl]
    exact bind_eq_ok_iff.mpr ⟨done, planned, drawn⟩
  obtain ⟨all, rows, filtered, total⟩ := filtered_eq_length_unpaged (c := c) rfl uncut rfl rfl rfl success
  exact ⟨uncut, success, all, rows s rfl, filtered, total.trans (by decide +kernel)⟩

end Table

end TableQuery
