import TableQuery.Proofs.Table.Unpaged

set_option autoImplicit false

namespace TableQuery

/-- The column of an order exists and may be ordered by. -/
def Request.Offers (r : Request) (order : ColumnOrder) : Prop :=
  ∃ column, r.columns[order.column]? = some column ∧ column.orderable = true

instance (r : Request) (order : ColumnOrder) : Decidable (r.Offers order) :=
  decidable_of_iff ((r.columns[order.column]?).any (·.orderable) = true) (by
    rw [Option.any_eq_true]
    rfl)

theorem Request.applicableOrders_eq (r : Request) : r.applicableOrders = r.order.filter (r.Offers ·) := by
  refine List.filter_congr fun order _ => ?_
  rw [Bool.eq_iff_iff, Option.any_eq_true, decide_eq_true_iff]
  rfl

theorem Request.applicableOrders_eq_nil_iff (r : Request) :
    r.applicableOrders = [] ↔ ∀ order ∈ r.order, ¬ r.Offers order := by
  simp only [applicableOrders_eq, List.filter_eq_nil_iff, decide_eq_true_iff]

inductive OrderAdds (rules : Rules) (r : Request) (q : Query) (order : ColumnOrder) : List SortKey → Prop
  | notOffered (passed : ¬ r.Offers order) : OrderAdds rules r q order []
  | unnamed (unnamed : r.fieldAt? order.column = none) : OrderAdds rules r q order []
  | excluded {column : String} (named : r.fieldAt? order.column = some column)
      (excluded : rules.isExcluded column = true) (unordered : rules.order? column = none) :
      OrderAdds rules r q order []
  /-- The column has an order of its own, which alone says what is added. -/
  | own {column : String} {edit : Direction → QueryEdit} {keys : List SortKey} (offered : r.Offers order)
      (named : r.fieldAt? order.column = some column) (registered : rules.order? column = some edit)
      (pushes : edit order.direction q = (q.orderByAll keys, none)) : OrderAdds rules r q order keys
  | plain {column : String} (offered : r.Offers order) (named : r.fieldAt? order.column = some column)
      (included : rules.isExcluded column = false) (unordered : rules.order? column = none) :
      OrderAdds rules r q order [⟨column, order.direction⟩]

/-- The sort keys that orders add one after the other, each to what those before it have left. -/
inductive OrdersAdd (rules : Rules) (r : Request) : Query → List ColumnOrder → List SortKey → Prop
  | nil {q : Query} : OrdersAdd rules r q [] []
  | cons {q : Query} {order : ColumnOrder} {rest : List ColumnOrder} {keys later : List SortKey} :
      OrderAdds rules r q order keys → OrdersAdd rules r (q.orderByAll keys) rest later →
        OrdersAdd rules r q (order :: rest) (keys ++ later)

/-- The sort keys that a table adds to a query: those of the hook, of the orders of the request, or of the default
order. -/
inductive Table.SortsBy (t : Table) (q : Query) : List SortKey → Prop
  | hook {edit : QueryEdit} {keys : List SortKey} (hooked : t.orderHook = some edit)
      (pushes : edit q = (q.orderByAll keys, none)) : t.SortsBy q keys
  | byDefault (unhooked : t.orderHook = none) (unasked : ∀ order ∈ t.request.order, ¬ t.request.Offers order) :
      t.SortsBy q t.defaultOrder
  | byRequest {order : ColumnOrder} {keys : List SortKey} (unhooked : t.orderHook = none)
      (asked : order ∈ t.request.order) (offered : t.request.Offers order)
      (adds : OrdersAdd t.rules t.request q t.request.order keys) : t.SortsBy q keys

def QueryEdit.KeepsSorts (edit : QueryEdit) : Prop := ∀ q, (edit q).1.sorts = q.sorts

theorem QueryEdit.KeepsSorts.run {edit : QueryEdit} (keeps : edit.KeepsSorts) {q after : Query}
    (done : edit.run q = .ok after) : after.sorts = q.sorts := by
  have step := keeps q
  rwa [run_eq_ok_iff.mp done] at step

theorem QueryEdit.PushesSorts.run_eq_ok_iff {edit : QueryEdit} (pushes : edit.PushesSorts) {q after : Query} :
    edit.run q = .ok after ↔ ∃ keys, edit q = (q.orderByAll keys, none) ∧ q.orderByAll keys = after := by
  rw [QueryEdit.run_eq_ok_iff]
  constructor
  · intro done
    obtain ⟨keys, pushed⟩ := pushes q
    rw [done] at pushed
    exact ⟨keys, by rw [done, ← pushed], pushed.symm⟩
  · rintro ⟨keys, done, rfl⟩
    exact done

section Orders

variable {rules : Rules} {r : Request} {q : Query} {order : ColumnOrder} {orders : List ColumnOrder}
  {keys : List SortKey}

theorem OrderAdds.eq_nil_of_passed (adds : OrderAdds rules r q order keys) (passed : ¬ r.Offers order) :
    keys = [] := by
  cases adds with
  | notOffered => rfl
  | unnamed => rfl
  | excluded => rfl
  | own offered => exact absurd offered passed
  | plain offered => exact absurd offered passed

theorem orderKeys_eq_ok_iff (own : rules.OrdersBy QueryEdit.PushesSorts) (offered : r.Offers order) :
    rules.orderKeys r.fieldAt? q order = .ok keys ↔ OrderAdds rules r q order keys := by
  constructor
  · intro planned
    unfold Rules.orderKeys at planned
    split at planned
    · rename_i unnamed
      cases planned
      exact .unnamed unnamed
    · rename_i column named
      cases registered : rules.order? column with
      | none =>
        have unordered : rules.orderEdit? column order.direction = none := congrArg (Option.map _) registered
        cases excluded : rules.isExcluded column with
        | true =>
          rw [Rules.isBarredFromOrder, excluded, registered] at planned
          cases planned
          exact .excluded named excluded registered
        | false =>
          rw [Rules.isBarredFromOrder, excluded, unordered] at planned
          cases planned
          exact .plain offered named excluded registered
      | some edit =>
        have ordered : rules.orderEdit? column order.direction = some (edit order.direction) :=
          congrArg (Option.map _) registered
        rw [Rules.isBarredFromOrder, registered, ordered, Option.isNone_some, Bool.and_false] at planned
        obtain ⟨after, done, rfl⟩ := map_eq_ok_iff.mp planned
        obtain ⟨added, pushed, rfl⟩ := (own column order.direction _ ordered).run_eq_ok_iff.mp done
        have alone : (q.orderByAll added).sorts.drop q.sorts.length = added := List.drop_left
        rw [alone]
        exact .own offered named registered pushed
  · intro adds
    unfold Rules.orderKeys
    cases adds with
    | notOffered passed => exact absurd offered passed
    | unnamed unnamed => rw [unnamed]
    | excluded named excluded unordered =>
      rw [named]
      simp only [Rules.isBarredFromOrder, excluded, unordered, Option.isNone_none, Bool.and_self, ↓reduceIte]
    | own _ named registered pushed =>
      rw [named]
      simp only [Rules.isBarredFromOrder, Rules.orderEdit?, registered, Option.isNone_some, Bool.and_false,
        Bool.false_eq_true, ↓reduceIte, Option.map_some, QueryEdit.run, pushed, Except.map, Query.orderByAll,
        List.drop_left]
    | plain _ named included unordered =>
      rw [named]
      simp only [Rules.isBarredFromOrder, Rules.orderEdit?, included, unordered, Bool.false_and,
        Bool.false_eq_true, ↓reduceIte, Option.map_none]

theorem plannedKeys_eq_ok_iff (own : rules.OrdersBy QueryEdit.PushesSorts) :
    rules.plannedKeys r.fieldAt? q (orders.filter (r.Offers ·)) = .ok keys ↔
      OrdersAdd rules r q orders keys := by
  induction orders generalizing q keys with
  | nil =>
    constructor
    · intro planned
      cases planned
      exact .nil
    · intro adds
      cases adds
      rfl
  | cons order rest ih =>
    by_cases offered : r.Offers order
    · rw [List.filter_cons, if_pos (decide_eq_true offered), Rules.plannedKeys, bind_eq_ok_iff]
      simp only [bind_eq_ok_iff, orderKeys_eq_ok_iff own offered, ih]
      constructor
      · intro given
        obtain ⟨first, adds, later, others, same⟩ := given
        cases same
        exact .cons adds others
      · intro given
        cases given with
        | cons adds others => exact ⟨_, adds, _, others, rfl⟩
    · have passed : ¬ decide (r.Offers order) = true := fun offers => offered (of_decide_eq_true offers)
      rw [List.filter_cons, if_neg passed, ih]
      constructor
      · intro others
        rw [← List.nil_append keys]
        exact .cons (.notOffered offered) (by rwa [Query.orderByAll_nil])
      · intro given
        cases given with
        | cons adds others =>
          obtain rfl := adds.eq_nil_of_passed offered
          rwa [Query.orderByAll_nil] at others

end Orders

namespace Table

variable {t : Table} {q : Query}

/-- Where hooks and own orders only push sort keys, ordering a query comes to the keys that the table adds. -/
theorem orderOutcome_eq_ok_iff (own : t.rules.OrdersBy QueryEdit.PushesSorts)
    (hooked : ∀ hook ∈ t.orderHook, hook.PushesSorts) {ordered : Query} :
    t.orderOutcome q = .ok ordered ↔ ∃ keys, t.SortsBy q keys ∧ q.orderByAll keys = ordered := by
  unfold orderOutcome
  cases hook : t.orderHook with
  | some edit =>
    rw [(hooked edit hook).run_eq_ok_iff]
    refine exists_congr fun keys => and_congr_left fun _ => ⟨.hook hook, fun sorts => ?_⟩
    cases sorts with
    | hook same pushes =>
      cases hook.symm.trans same
      exact pushes
    | byDefault unhooked => cases hook.symm.trans unhooked
    | byRequest unhooked => cases hook.symm.trans unhooked
  | none =>
    cases applicable : t.request.applicableOrders with
    | nil =>
      have unasked := t.request.applicableOrders_eq_nil_iff.mp applicable
      rw [Except.ok.injEq]
      constructor
      · intro same
        exact ⟨t.defaultOrder, .byDefault hook unasked, same⟩
      · rintro ⟨keys, sorts, same⟩
        cases sorts with
        | hook other => cases hook.symm.trans other
        | byDefault => exact same
        | byRequest _ asked offered => exact absurd offered (unasked _ asked)
    | cons first rest =>
      have asked : first ∈ t.request.order ∧ t.request.Offers first := by
        have member : first ∈ t.request.applicableOrders := applicable ▸ List.mem_cons_self
        rw [Request.applicableOrders_eq, List.mem_filter, decide_eq_true_iff] at member
        exact member
      change (t.rules.orderSteps t.request.fieldAt? (first :: rest)).run q = .ok ordered ↔ _
      rw [← applicable, Request.applicableOrders_eq]
      refine (Rules.orderSteps_run_eq_ok_iff own _ _ _ _).trans (exists_congr fun keys => and_congr_left fun _ => ?_)
      rw [plannedKeys_eq_ok_iff own]
      constructor
      · exact .byRequest hook asked.1 asked.2
      · intro sorts
        cases sorts with
        | hook other => cases hook.symm.trans other
        | byDefault _ unasked => exact absurd asked.2 (unasked first asked.1)
        | byRequest _ _ _ adds => exact adds

theorem filterOutcome_sorts (keeps : ∀ hook ∈ t.filterHook, hook.KeepsSorts) {searched : Query}
    (done : t.filterOutcome q = .ok searched) : searched.sorts = q.sorts := by
  obtain ⟨first, globals, rest⟩ := bind_eq_ok_iff.mp done
  obtain ⟨second, hooked, columns⟩ := bind_eq_ok_iff.mp rest
  obtain ⟨filters, rfl⟩ := globalOutcome_requires globals
  obtain ⟨others, rfl⟩ := columnsOutcome_requires columns
  change second.sorts = q.sorts
  cases hook : t.filterHook with
  | none =>
    rw [hook] at hooked
    cases hooked
    rfl
  | some edit =>
    rw [hook] at hooked
    exact (keeps edit hook).run (q := q.requireAll filters) hooked

theorem pageOutcome_sorts (keeps : ∀ hook ∈ t.limitHook, hook.KeepsSorts) {paged : Query}
    (pages : t.pageOutcome q = .ok paged) : paged.sorts = q.sorts := by
  cases hook : t.limitHook with
  | none =>
    obtain ⟨_, _, rfl⟩ := pageOutcome_window hook pages
    rfl
  | some edit =>
    unfold pageOutcome at pages
    split at pages
    · cases pages
      rfl
    · rw [hook] at pages
      exact (keeps edit hook).run (q := q.limitRows (pageLength t.request.length)) pages

/--
The sort list of a prepared table is what was asked for, in that order: the keys of the caller's query, and then
those of the order hook, or of the orders of the request, or of the default order. Ordering changes nothing else
in the query that the filters have left. No stage before or after it touches the sort list, but for a filter hook or
a limit hook that does so itself.
-/
theorem prepared_sorts_as_asked (own : t.rules.OrdersBy QueryEdit.PushesSorts)
    (hooked : ∀ hook ∈ t.orderHook, hook.PushesSorts) {start : TableState} (unused : start.plan = t.initialPlan)
    {before : List TableUse} (same : ∀ use ∈ before, use.table = t) {after : TableState}
    (success : t.prepare.run.run (start.afterAll before) = (.ok (), after)) :
    ∃ searched keys, (t.applyFilters t.base).Yields (.ok searched) ∧
      (t.applyOrder searched).Yields (.ok (searched.orderByAll keys)) ∧
      (t.applyPaging (searched.orderByAll keys)).Yields (.ok after.plan.query) ∧
      t.SortsBy searched keys ∧
      ((∀ hook ∈ t.filterHook, hook.KeepsSorts) → searched.sorts = t.base.sorts) ∧
      ((∀ hook ∈ t.limitHook, hook.KeepsSorts) → after.plan.query.sorts = searched.sorts ++ keys) ∧
      (t.limitHook = none → after.plan.query.filter = searched.filter) := by
  obtain ⟨outcome, plan, calls, prepares⟩ := t.exists_preparesTo (start.afterAll before)
  obtain ⟨last, runs⟩ := prepares.run
  cases runs.symm.trans success
  obtain ⟨calls, found⟩ := ((TableState.hasPlan_afterAll (.inl unused) same).of_prepares prepares).2 rfl
  obtain ⟨searched, ordered, stages⟩ := preparation_of_planOutcome found
  obtain ⟨keys, sorts, rfl⟩ := (orderOutcome_eq_ok_iff own hooked).mp stages.orders
  refine ⟨searched, keys, ?_, ?_, ?_, sorts, fun filters => ?_, fun limits => ?_, fun unlimited => ?_⟩
  · exact stages.filters ▸ t.applyFilters_yields t.base
  · exact stages.orders ▸ t.applyOrder_yields searched
  · exact stages.pages ▸ t.applyPaging_yields (searched.orderByAll keys)
  · exact filterOutcome_sorts filters stages.filters
  · exact pageOutcome_sorts limits stages.pages
  · exact pageOutcome_filter (q := searched.orderByAll keys) unlimited stages.pages

set_option maxRecDepth 100000 in
/-- Of five orders on a query that is sorted by rank, three add nothing: one is on no column, one on a column without
a name, and one on an excluded column. The order of the name pushes an age, and the team has a key of its own. -/
theorem prepared_sorts_of_crew :
    let c : Collection := ⟨"crew", [.object [("name", .string "Ann")], .object [("name", .string "Bob")]]⟩
    let r : Request :=
      { columns := [{ data := some "name" }, { data := some "password" }, { data := some "2" },
          { data := some "team" }]
        order := [⟨9, .asc⟩, ⟨2, .desc⟩, ⟨1, .asc⟩, ⟨0, .desc⟩, ⟨3, .asc⟩], search := { value := "an" } }
    let t := ((Table.new c.store (c.query.orderBy "rank" .asc) r).orderColumnBy "name" fun direction =>
      .pure (·.orderBy "age" direction)).orderByDefault "name" .asc
    let s : TableState := { plan := t.initialPlan }
    let uses : List TableUse := [⟨t, .explain⟩]
    t.rules.OrdersBy QueryEdit.PushesSorts ∧ ∃ after, t.prepare.run.run (s.afterAll uses) = (.ok (), after) ∧
      after.plan.query.sorts = [⟨"rank", .asc⟩, ⟨"age", .desc⟩, ⟨"team", .asc⟩] ∧
      ∃ searched, t.SortsBy searched [⟨"age", .desc⟩, ⟨"team", .asc⟩] ∧
        after.plan.query.filter = searched.filter := by
  intro c r t s uses
  have own : t.rules.OrdersBy QueryEdit.PushesSorts := by
    apply Rules.ordersBy_of_entries
    intro entry member order registered direction
    simp only [t, orderColumnBy, orderByDefault, new, Rules.orderColumnBy, Rules.update, Rules.withDefaultExclusions,
      Rules.exclude, Rules.defaultExclusions, List.foldl_cons, List.foldl_nil, Rules.updateEntries, reduceIte,
      String.reduceEq, List.mem_cons, List.not_mem_nil, or_false] at member
    rcases member with rfl | rfl | rfl
    · cases registered
    · cases registered
    · cases registered
      exact QueryEdit.pure_pushesSorts fun q => ⟨[⟨"age", direction⟩], rfl⟩
  have prepares : (t.prepare.run.run (s.afterAll uses)).1.isOk = true := by decide +kernel
  obtain ⟨_, after, success⟩ := TableM.exists_run_of_isOk prepares
  have sorted : (t.prepare.run.run (s.afterAll uses)).2.plan.query.sorts =
      [⟨"rank", .asc⟩, ⟨"age", .desc⟩, ⟨"team", .asc⟩] := by decide +kernel
  rw [success] at sorted
  have unused : s.plan = t.initialPlan := rfl
  have same : ∀ use ∈ uses, use.table = t := List.forall_mem_singleton.mpr rfl
  obtain ⟨searched, keys, _, _, _, sorts, untouched, follow, kept⟩ :=
    prepared_sorts_as_asked own nofun unused same success
  have all : after.plan.query.sorts = t.base.sorts ++ keys :=
    (follow nofun).trans (congrArg (· ++ keys) (untouched nofun))
  have added : keys = [⟨"age", .desc⟩, ⟨"team", .asc⟩] := List.cons.inj (all.symm.trans sorted) |>.2
  exact ⟨own, after, success, sorted, searched, added ▸ sorts, kept rfl⟩

end Table

end TableQuery
