import TableQuery.Proofs.Query.Hidden
import TableQuery.Proofs.Table.Search
import TableQuery.Proofs.Table.Unpaged

set_option autoImplicit false

namespace TableQuery

open Json (Value)

namespace Rules

/-- No column has a search or an order of its own. -/
structure Bare (r : Rules) : Prop where
  searches : ∀ column, r.search? column = none
  orders : r.Unordered

theorem withDefaultExclusions_bare : withDefaultExclusions.Bare where
  searches := get?_bind_eq_none (by decide)
  orders := withDefaultExclusions_unordered

variable {r : Rules} (bare : r.Bare)
include bare

theorem Bare.isBarredFromSearch_eq (column : String) : r.isBarredFromSearch column = r.isExcluded column := by
  rw [isBarredFromSearch, bare.searches column, Option.isNone_none, Bool.and_true]

theorem Bare.isBarredFromOrder_eq (column : String) : r.isBarredFromOrder column = r.isExcluded column := by
  rw [isBarredFromOrder, bare.orders column, Option.isNone_none, Bool.and_true]

theorem Bare.orderKeys_included {resolve : Nat → Option String} {q : Query} {order : ColumnOrder}
    {keys : List SortKey} (asked : r.orderKeys resolve q order = .ok keys) :
    ∀ key ∈ keys, r.isExcluded key.field = false := by
  unfold orderKeys at asked
  split at asked
  · cases asked
    exact List.forall_mem_nil _
  · rename_i column named
    rw [bare.isBarredFromOrder_eq, orderEdit?, bare.orders column] at asked
    cases excluded : r.isExcluded column with
    | true =>
      rw [excluded] at asked
      cases asked
      exact List.forall_mem_nil _
    | false =>
      rw [excluded] at asked
      cases asked
      exact List.forall_mem_singleton.mpr excluded

theorem Bare.plannedKeys_included {resolve : Nat → Option String} {orders : List ColumnOrder} {q : Query}
    {keys : List SortKey} (planned : r.plannedKeys resolve q orders = .ok keys) :
    ∀ key ∈ keys, r.isExcluded key.field = false := by
  induction orders generalizing q keys with
  | nil =>
    cases planned
    exact List.forall_mem_nil _
  | cons order rest ih =>
    obtain ⟨first, asked, planned⟩ := bind_eq_ok_iff.mp planned
    obtain ⟨later, others, planned⟩ := bind_eq_ok_iff.mp planned
    cases planned
    exact List.forall_mem_append.mpr ⟨bare.orderKeys_included asked, ih others⟩

end Rules

theorem Searcher.filters_included {s : Searcher} (bare : s.rules.Bare) {base : Query}
    {searches : List ColumnSearch} :
    ∀ filter ∈ s.filters base searches, ∀ name ∈ filter.fields, s.rules.isExcluded name = false := by
  intro filter member
  obtain ⟨search, _, found⟩ := List.mem_filterMap.mp member
  unfold filterOf? filterOf column columnFilter at found
  rw [Rules.searchEdit?, bare.searches search.column, bare.isBarredFromSearch_eq] at found
  cases excluded : s.rules.isExcluded search.column with
  | true =>
    rw [excluded] at found
    cases found
  | false =>
    rw [excluded] at found
    cases found
    exact List.forall_mem_singleton.mpr excluded

namespace Query.Ignores

variable {q : Query} {field : String} (ignores : q.Ignores field)
include ignores

theorem requireAll {filters : List Filter}
    (apart : ∀ filter ∈ filters, ∀ name ∈ filter.fields, name ≠ field) :
    (q.requireAll filters).Ignores field where
  filter := by
    rw [Query.requireAll, append, Filter.forall_fields_group_iff, List.forall_mem_append, List.forall_mem_map]
    exact ⟨Filter.forall_fields_group_iff.mp ignores.filter, apart⟩
  sorts := ignores.sorts

theorem orderByAll {keys : List SortKey} (apart : ∀ key ∈ keys, key.field ≠ field) :
    (q.orderByAll keys).Ignores field where
  filter := ignores.filter
  sorts := List.forall_mem_append.mpr ⟨ignores.sorts, apart⟩

end Query.Ignores

namespace Table

def onCollection (t : Table) (c : Collection) : Table := { t with store := c.store }

variable {t : Table}

/-- The searches of a request look at columns that are not excluded. -/
theorem searchFilters_included (bare : t.rules.Bare) :
    ∀ filter ∈ t.searchFilters, ∀ name ∈ filter.fields, t.rules.isExcluded name = false := by
  rw [searchFilters, List.forall_mem_append]
  refine ⟨fun filter member => ?_, Searcher.filters_included (s := t.searcher) bare⟩
  unfold globalFilters Searcher.anyOf at member
  split at member
  · cases member
  · obtain rfl := List.mem_singleton.mp member
    rw [Filter.forall_fields_group_iff, List.forall_mem_map]
    exact Searcher.filters_included (s := t.searcher) bare

section Field

variable {field : String} (unhooked : t.Unhooked) (bare : t.rules.Bare)
  (excluded : t.rules.isExcluded field = true)
include unhooked bare excluded

theorem ignores_of_filterOutcome (base : t.base.Ignores field) {searched : Query}
    (filters : t.filterOutcome t.base = .ok searched) : searched.Ignores field := by
  obtain ⟨_, rfl⟩ := (filterOutcome_eq_ok_iff unhooked rfl).mp filters
  refine base.requireAll fun filter member name among same => ?_
  have included := searchFilters_included bare filter member name among
  rw [same, excluded] at included
  cases included

theorem ignores_of_orderOutcome (byDefault : ∀ key ∈ t.defaultOrder, key.field ≠ field)
    {searched ordered : Query} (before : searched.Ignores field)
    (orders : t.orderOutcome searched = .ok ordered) : ordered.Ignores field := by
  unfold orderOutcome at orders
  rw [unhooked.order] at orders
  cases asked : t.request.applicableOrders with
  | nil =>
    rw [asked] at orders
    cases orders
    exact before.orderByAll byDefault
  | cons order rest =>
    rw [asked] at orders
    obtain ⟨keys, planned, rfl⟩ :=
      (Rules.orderSteps_run_eq_ok_iff (bare.orders.ordersBy _) _ _ _ _).mp orders
    refine before.orderByAll fun key member same => ?_
    have included := bare.plannedKeys_included planned key member
    rw [same, excluded] at included
    cases included

/-- The finished query of a draw does not look at an excluded field. -/
theorem ignores_of_planOutcome (base : t.base.Ignores field)
    (byDefault : ∀ key ∈ t.defaultOrder, key.field ≠ field) {calls : List StoreCall} {done : Plan}
    (found : t.planOutcome calls t.initialPlan = .ok done) : done.query.Ignores field := by
  obtain ⟨searched, ordered, stages⟩ := preparation_of_planOutcome found
  have filtered := ignores_of_filterOutcome unhooked bare excluded base stages.filters
  have sorted := ignores_of_orderOutcome unhooked bare excluded byDefault filtered stages.orders
  obtain ⟨_, _, paged⟩ := pageOutcome_window unhooked.limit stages.pages
  rw [paged]
  exact ⟨sorted.filter, sorted.sorts⟩

end Field

end Table

namespace Collection

variable {field : String} {c other : Collection}
  (agree : List.Forall₂ (AgreeOutside field) c.documents other.documents)
include agree

/-- Collections that differ in a field alone count the same for a query that does not look at it. -/
theorem count_of_agree {q : Query} (ignores : q.Ignores field) : c.count q = other.count q := by
  rw [count_eq, count_eq, length_filter_eq ignores agree]

/-- A plan that does not look at the field draws the documents at the same positions. -/
theorem draw_of_agree {plan : Plan} (ignores : plan.query.Ignores field) :
    (∃ e, c.draw plan = .error e ∧ other.draw plan = .error e) ∨
    ∃ (positions : List Nat) (rows others : List Value) (total filtered : Nat), positions.Nodup ∧
      c.draw plan = .ok ⟨rows, total, filtered⟩ ∧ other.draw plan = .ok ⟨others, total, filtered⟩ ∧
      rows.map some = positions.map (c.documents[·]?) ∧
      others.map some = positions.map (other.documents[·]?) := by
  unfold draw
  rw [fetch_eq, fetch_eq]
  cases checkPatterns (Filter.group plan.query.filter).patterns with
  | error e => exact .inl ⟨e, rfl, rfl⟩
  | ok _ =>
    obtain ⟨positions, once, rows, others⟩ := exists_positions ignores agree
    exact .inr ⟨positions, _, _, _, _, once, rfl, rfl, rows, others⟩

end Collection

/-- An answer without an error that reports these counts. -/
structure Response.Reports (response : Response) (total filtered : Nat) : Prop where
  success : response.isSuccess = true
  total : response.recordsTotal = total
  filtered : response.recordsFiltered = filtered

namespace Table

variable {t : Table}

section Answers

variable {c : Collection} (stored : t.store = c.store) {s : TableState} (pending : s.plan.prepared = false)
include stored pending

/-- What is drawn from a collection is a matter of the plan and not of the log. -/
theorem fetchCounted_relogged (log : Log) :
    (t.fetchCounted.run.run { s with log }).1 = (t.fetchCounted.run.run s).1 := by
  rw [fetchCounted_run_of_collection stored pending,
    fetchCounted_run_of_collection (s := { s with log }) stored pending]

theorem run_of_drawn (uncomputed : t.shape.edits = []) {rows : List Value} {total filtered : Nat}
    (drawn : (t.fetchCounted.run.run s).1 = .ok ⟨rows, total, filtered⟩) (objectRows : Bool) :
    ((t.run objectRows).run s).1.Reports total filtered := by
  rw [← fetchCounted_relogged stored pending (s.log.write t.scope.begun)] at drawn
  have success : ((t.run objectRows).run s).1.isSuccess = true := isSuccess_run uncomputed drawn
  obtain ⟨result, again, totals, counts⟩ := run_of_success success
  rw [drawn] at again
  cases again
  exact ⟨success, totals, counts⟩

theorem run_of_failed {e : TableError} (failed : (t.fetchCounted.run.run s).1 = .error e)
    (objectRows : Bool) : ((t.run objectRows).run s).1 = .failure t.request.draw e := by
  rw [← fetchCounted_relogged stored pending (s.log.write t.scope.begun)] at failed
  have stopped : ((t.respond objectRows).run.run { s with log := s.log.write t.scope.begun }).1 = .error e := by
    unfold respond
    rw [TableM.run_bind_of_error (Prod.ext failed rfl)]
  rw [fst_run, stopped]
  rfl

end Answers

theorem Unhooked.onCollection (unhooked : t.Unhooked) (c : Collection) : (t.onCollection c).Unhooked :=
  ⟨unhooked.filter, unhooked.order, unhooked.limit, unhooked.search⟩

section Counts

variable {c other : Collection} {start : Plan}

theorem filterOutcome_onCollection (c : Collection) (q : Query) :
    (t.onCollection c).filterOutcome q = t.filterOutcome q := by
  have columns : ∀ positions q,
      (t.onCollection c).columnsOutcome positions q = t.columnsOutcome positions q :=
    columnsOutcome_congr fun _ _ => rfl
  unfold filterOutcome
  simp only [columns]
  rfl

theorem totalOutcome_onCollection (alike : c.count start.query = other.count start.query)
    (calls before : List StoreCall) :
    (t.onCollection c).totalOutcome calls start = (t.onCollection other).totalOutcome before start := by
  have answers : (t.onCollection c).store.count calls start.query =
      (t.onCollection other).store.count before start.query := alike
  unfold totalOutcome
  rw [answers]
  rfl

theorem filteredOutcome_onCollection {searched : Query} (alike : c.count searched = other.count searched)
    (calls before : List StoreCall) (total : Option Nat) :
    (t.onCollection c).filteredOutcome calls start total searched =
      (t.onCollection other).filteredOutcome before start total searched := by
  have answers : (t.onCollection c).store.count calls searched =
      (t.onCollection other).store.count before searched := alike
  unfold filteredOutcome
  rw [answers]

theorem planOutcome_onCollection (total : c.count start.query = other.count start.query)
    (filtered : ∀ searched, t.filterOutcome start.query = .ok searched →
      c.count searched = other.count searched) (calls before : List StoreCall) :
    (t.onCollection c).planOutcome calls start = (t.onCollection other).planOutcome before start := by
  unfold planOutcome unpagedOutcome
  rw [totalOutcome_onCollection total calls before, filterOutcome_onCollection, filterOutcome_onCollection]
  cases (t.onCollection other).totalOutcome before start with
  | error e => rfl
  | ok found =>
    cases searched : t.filterOutcome start.query with
    | error e => rfl
    | ok q =>
      change (((t.onCollection c).filteredOutcome _ start found q >>= _) >>= _) = _
      rw [filteredOutcome_onCollection (filtered q searched) _ (before ++ _)]
      rfl

end Counts

section Blind

variable {field : String} (unhooked : t.Unhooked) (bare : t.rules.Bare)
  (excluded : t.rules.isExcluded field = true) (base : t.base.Ignores field)
  (byDefault : ∀ key ∈ t.defaultOrder, key.field ≠ field) {c other : Collection}
  (agree : List.Forall₂ (AgreeOutside field) c.documents other.documents)
include unhooked bare excluded base byDefault agree

theorem fetchCounted_of_agree {s u : TableState} (unused : s.plan = t.initialPlan)
    (untouched : u.plan = t.initialPlan) :
    (∃ e, ((t.onCollection c).fetchCounted.run.run s).1 = .error e ∧
      ((t.onCollection other).fetchCounted.run.run u).1 = .error e) ∨
    ∃ (positions : List Nat) (rows others : List Value) (total filtered : Nat), positions.Nodup ∧
      ((t.onCollection c).fetchCounted.run.run s).1 = .ok ⟨rows, total, filtered⟩ ∧
      ((t.onCollection other).fetchCounted.run.run u).1 = .ok ⟨others, total, filtered⟩ ∧
      rows.map some = positions.map (c.documents[·]?) ∧
      others.map some = positions.map (other.documents[·]?) := by
  have alike (q : Query) (ignores : q.Ignores field) : c.count q = other.count q :=
    Collection.count_of_agree agree ignores
  have plans : (t.onCollection c).planOutcome s.calls t.initialPlan =
      (t.onCollection other).planOutcome u.calls t.initialPlan :=
    planOutcome_onCollection (alike _ base)
      (fun searched found => alike searched (ignores_of_filterOutcome unhooked bare excluded base found)) _ _
  rw [fetchCounted_run_of_collection (t := t.onCollection c) (c := c) rfl (pending_of_unused unused),
    fetchCounted_run_of_collection (t := t.onCollection other) (c := other) rfl (pending_of_unused untouched),
    unused, untouched, plans]
  cases found : (t.onCollection other).planOutcome u.calls t.initialPlan with
  | error e => exact .inl ⟨e, rfl, rfl⟩
  | ok done =>
    have ignores := ignores_of_planOutcome (unhooked.onCollection other) bare excluded base byDefault found
    exact Collection.draw_of_agree agree ignores

/--
What is in an excluded field does not show. Over two collections that differ in the field alone, draws of
one table fail alike, or give and report the same counts and the documents at the same positions in the
same order, even if the request searches the field and orders by it. No column has a search or an order of
its own or is computed, and neither the query of the caller nor the default order looks at the field.
-/
theorem draw_blind_to_excluded (uncomputed : t.shape.edits = []) {s u : TableState}
    (unused : s.plan = t.initialPlan) (untouched : u.plan = t.initialPlan) (objectRows : Bool) :
    (∃ e, ((t.onCollection c).fetchCounted.run.run s).1 = .error e ∧
      ((t.onCollection other).fetchCounted.run.run u).1 = .error e ∧
      (((t.onCollection c).run objectRows).run s).1 = .failure t.request.draw e ∧
      (((t.onCollection other).run objectRows).run u).1 = .failure t.request.draw e) ∨
    ∃ (positions : List Nat) (rows others : List Value) (total filtered : Nat), positions.Nodup ∧
      ((t.onCollection c).fetchCounted.run.run s).1 = .ok ⟨rows, total, filtered⟩ ∧
      ((t.onCollection other).fetchCounted.run.run u).1 = .ok ⟨others, total, filtered⟩ ∧
      rows.map some = positions.map (c.documents[·]?) ∧
      others.map some = positions.map (other.documents[·]?) ∧
      (((t.onCollection c).run objectRows).run s).1.Reports total filtered ∧
      (((t.onCollection other).run objectRows).run u).1.Reports total filtered := by
  have pending := pending_of_unused unused
  have waiting := pending_of_unused untouched
  rcases fetchCounted_of_agree unhooked bare excluded base byDefault agree unused untouched with
    ⟨e, failed, fails⟩ | ⟨positions, rows, others, total, filtered, once, gives, given, seen, unseen⟩
  · exact .inl ⟨e, failed, fails, run_of_failed (c := c) rfl pending failed objectRows,
      run_of_failed (c := other) rfl waiting fails objectRows⟩
  · exact .inr ⟨positions, rows, others, total, filtered, once, gives, given, seen, unseen,
      run_of_drawn (t := t.onCollection c) (c := c) rfl pending uncomputed gives objectRows,
      run_of_drawn (t := t.onCollection other) (c := other) rfl waiting uncomputed given objectRows⟩

end Blind

set_option maxRecDepth 100000 in
/-- Who of a crew has which password does not show, though the request searches and orders by it. -/
theorem draw_blind_to_excluded_of_crew :
    let c : Collection :=
      ⟨"crew", [.object [("name", .string "Ann"), ("password", .string "swan")],
        .object [("name", .string "Bob")], .object [("name", .string "Dan"), ("password", .null)]]⟩
    let other : Collection :=
      ⟨"crew", [.object [("name", .string "Ann")],
        .object [("name", .string "Bob"), ("password", .string "an")],
        .object [("name", .string "Dan"), ("password", .bool true)]]⟩
    let r : Request :=
      { columns := [{ data := some "name" },
          { data := some "password", search := { value := "(", regex := true } }]
        order := [⟨1, .desc⟩], search := { value := "an" } }
    let t := ofCollection c r
    let s : TableState := { plan := t.initialPlan }
    t.Unhooked ∧ t.rules.Bare ∧ t.shape.edits = [] ∧ t.rules.isExcluded "password" = true ∧
      t.base.Ignores "password" ∧ (∀ key ∈ t.defaultOrder, key.field ≠ "password") ∧
      List.Forall₂ (AgreeOutside "password") c.documents other.documents ∧
      ∃ (positions : List Nat) (rows others : List Value) (total filtered : Nat), positions.Nodup ∧
        ((t.onCollection c).fetchCounted.run.run s).1 = .ok ⟨rows, total, filtered⟩ ∧
        ((t.onCollection other).fetchCounted.run.run s).1 = .ok ⟨others, total, filtered⟩ ∧
        rows.map some = positions.map (c.documents[·]?) ∧
        others.map some = positions.map (other.documents[·]?) ∧
        (((t.onCollection other).run true).run s).1.Reports total filtered := by
  intro c other r t s
  have unhooked : t.Unhooked := ⟨rfl, rfl, rfl, rfl⟩
  have bare : t.rules.Bare := Rules.withDefaultExclusions_bare
  have excluded : t.rules.isExcluded "password" = true := by decide +kernel
  have base : t.base.Ignores "password" := ⟨List.forall_mem_nil _, List.forall_mem_nil _⟩
  have byDefault : ∀ key ∈ t.defaultOrder, key.field ≠ "password" := List.forall_mem_nil _
  have agree : List.Forall₂ (AgreeOutside "password") c.documents other.documents := by
    refine .cons ⟨rfl, ?_, ?_⟩ (.cons ⟨rfl, ?_, ?_⟩ (.cons ⟨rfl, ?_, ?_⟩ .nil))
    all_goals decide +kernel
  refine ⟨unhooked, bare, rfl, excluded, base, byDefault, agree, ?_⟩
  have drawn : ((t.onCollection c).fetchCounted.run.run s).1.isOk = true := by decide +kernel
  rcases draw_blind_to_excluded unhooked bare excluded base byDefault agree rfl (s := s) (u := s) rfl rfl true
    with ⟨e, failed, _⟩ |
      ⟨positions, rows, others, total, filtered, once, gives, given, seen, unseen, _, reports⟩
  · rw [failed] at drawn
    cases drawn
  · exact ⟨positions, rows, others, total, filtered, once, gives, given, seen, unseen, reports⟩

end Table

end TableQuery
