import TableQuery.Proofs.Table.Stages
import TableQuery.Table.Draw

set_option autoImplicit false

namespace TableQuery

namespace Table

def totalOutcome (t : Table) (calls : List StoreCall) (start : Plan) : Except TableError (Option Nat) :=
  match start.total with
  | some n => .ok (some n)
  | none => if t.skipTotal then .ok none else (t.store.count calls start.query).map some

def filteredOutcome (t : Table) (calls : List StoreCall) (start : Plan) (total : Option Nat)
    (searched : Query) : Except TableError Nat :=
  match start.filtered with
  | some n => .ok n
  | none =>
    match total, searched.filter.length == start.query.filter.length with
    | some n, true => .ok n
    | _, _ => t.store.count calls searched

theorem askCount_run (t : Table) (q : Query) (s : TableState) :
    (t.askCount q).run.run s =
      (t.store.count s.calls q, { s with calls := s.calls ++ [StoreCall.count q] }) := by
  unfold askCount
  rw [TableM.run_get_bind, TableM.run_set_bind, TableM.run_lift]

theorem askFetch_run (t : Table) (q : Query) (s : TableState) :
    (t.askFetch q).run.run s =
      (t.store.fetch s.calls q, { s with calls := s.calls ++ [StoreCall.fetch q] }) := by
  unfold askFetch
  rw [TableM.run_get_bind, TableM.run_set_bind, TableM.run_lift]

theorem askCount_bind_run {α : Type} (t : Table) (q : Query) (found : Nat → α) (s : TableState) :
    (t.askCount q >>= fun n => pure (found n)).run.run s =
      ((t.store.count s.calls q).map found, { s with calls := s.calls ++ [StoreCall.count q] }) := by
  rw [TableM.run_bind, askCount_run]
  cases t.store.count s.calls q with
  | error e => rfl
  | ok n => rfl

/-- Where the total was counted, leaving out the second count makes no difference: it is left out
only where no clause was added. -/
theorem filteredOutcome_eq_count {t : Table} {c : Collection} (stored : t.store = c.store) {start : Plan}
    (given : start.filtered = none) (counted : start.total = none) {before calls : List StoreCall}
    {total : Option Nat} (found : t.totalOutcome before start = .ok total) {searched : Query}
    (grown : ∃ added, searched.filter = start.query.filter ++ added) :
    t.filteredOutcome calls start total searched = c.count searched := by
  obtain ⟨added, grown⟩ := grown
  unfold filteredOutcome
  rw [given, stored]
  cases total with
  | none => rfl
  | some n =>
    cases same : searched.filter.length == start.query.filter.length with
    | false => rfl
    | true =>
      have none_added : added = [] := by
        rw [beq_iff_eq, grown, List.length_append] at same
        exact List.eq_nil_of_length_eq_zero (by omega)
      have unchanged : c.count searched = c.count start.query := by
        unfold Collection.count
        rw [grown, none_added, List.append_nil]
      unfold totalOutcome at found
      rw [counted, stored] at found
      cases skipped : t.skipTotal with
      | true =>
        rw [skipped] at found
        cases found
      | false =>
        rw [skipped] at found
        obtain ⟨m, answer, same⟩ := map_eq_ok_iff.mp found
        cases same
        rw [unchanged]
        exact answer.symm

/-- The query that is counted for the total, unless it is given or left out. -/
def totalAsked (t : Table) (start : Plan) : List Query :=
  match start.total with
  | some _ => []
  | none => if t.skipTotal then [] else [start.query]

/-- The query that is counted for the filtered count, unless it is given or known. -/
def filteredAsked (start : Plan) (total : Option Nat) (searched : Query) : List Query :=
  match start.filtered with
  | some _ => []
  | none =>
    match total, searched.filter.length == start.query.filter.length with
    | some _, true => []
    | _, _ => [searched]

theorem length_totalAsked_le (t : Table) (start : Plan) : (t.totalAsked start).length ≤ 1 := by
  unfold totalAsked
  cases start.total with
  | some n => exact Nat.zero_le 1
  | none =>
    cases t.skipTotal with
    | true => exact Nat.zero_le 1
    | false => exact Nat.le_refl 1

theorem length_filteredAsked_le (start : Plan) (total : Option Nat) (searched : Query) :
    (filteredAsked start total searched).length ≤ 1 := by
  unfold filteredAsked
  cases start.filtered with
  | some n => exact Nat.zero_le 1
  | none =>
    simp only
    split
    · exact Nat.zero_le 1
    · exact Nat.le_refl 1

theorem countTotal_asks (t : Table) (start : Plan) (calls : List StoreCall) :
    (t.countTotal start start.query).Asks calls
      ((t.totalOutcome calls start).map (·, (t.totalAsked start).map Query.toDocument))
      (t.totalAsked start) := by
  unfold countTotal totalOutcome totalAsked
  cases start.total with
  | some n => exact (TableM.yields_pure _).asks calls
  | none =>
    cases t.skipTotal with
    | true => exact (TableM.yields_pure _).asks calls
    | false =>
      refine ⟨[], fun plan log => ?_⟩
      simp only [Bool.false_eq_true, ↓reduceIte, askCount_bind_run]
      cases t.store.count calls start.query with
      | error e => rfl
      | ok n => rfl

theorem countFiltered_asks (t : Table) (start : Plan) (total : Option Nat) (searched : Query)
    (calls : List StoreCall) :
    (t.countFiltered start total start.query searched).Asks calls
      ((t.filteredOutcome calls start total searched).map
        (·, (filteredAsked start total searched).map Query.toDocument))
      (filteredAsked start total searched) := by
  have asked : (t.askCount searched >>= fun n =>
      (pure (n, [searched.toDocument]) : TableM (Nat × List Json.Value))).Asks calls
        ((t.store.count calls searched).map (·, [searched.toDocument])) [searched] :=
    ⟨[], fun plan log => t.askCount_bind_run searched _ ⟨plan, calls, log⟩⟩
  unfold countFiltered filteredOutcome filteredAsked
  cases start.filtered with
  | some n => exact (TableM.yields_pure _).asks calls
  | none =>
    cases total with
    | none => exact asked
    | some n =>
      cases searched.filter.length == start.query.filter.length with
      | true => exact (TableM.yields_pure _).asks calls
      | false => exact asked

def unpagedOutcome (t : Table) (calls : List StoreCall) (start : Plan) : Except TableError Plan := do
  let total ← t.totalOutcome calls start
  let searched ← t.filterOutcome start.query
  let filtered ← t.filteredOutcome (calls ++ (t.totalAsked start).map StoreCall.count) start total searched
  let ordered ← t.orderOutcome searched
  pure
    { query := ordered, prepared := true, total := if t.skipTotal then some filtered else total
      filtered := some filtered
      queryLog := (t.totalAsked start).map Query.toDocument ++
        (filteredAsked start total searched).map Query.toDocument }

def cutOutcome (t : Table) (plan : Plan) : Except TableError Plan := do
  let q ← t.pageOutcome plan.query
  pure { plan with query := q, queryLog := plan.queryLog ++ t.debugLog q }

/-- The plan that preparation comes to, given the calls that the store received before. -/
def planOutcome (t : Table) (calls : List StoreCall) (start : Plan) : Except TableError Plan :=
  t.unpagedOutcome calls start >>= t.cutOutcome

/-- The queries that are counted on the way to a plan: for the total, and then, where the filters can be
added, for the filtered count. -/
def countsAsked (t : Table) (calls : List StoreCall) (start : Plan) : List Query :=
  t.totalAsked start ++ TableM.followUp (t.totalOutcome calls start) fun total =>
    TableM.followUp (t.filterOutcome start.query) fun searched => filteredAsked start total searched

theorem length_countsAsked_le (t : Table) (calls : List StoreCall) (start : Plan) :
    (t.countsAsked calls start).length ≤ 2 := by
  have first := t.length_totalAsked_le start
  unfold countsAsked TableM.followUp
  rw [List.length_append]
  cases t.totalOutcome calls start with
  | error e => exact Nat.add_le_add first (Nat.zero_le 1)
  | ok total =>
    cases t.filterOutcome start.query with
    | error e => exact Nat.add_le_add first (Nat.zero_le 1)
    | ok searched => exact Nat.add_le_add first (length_filteredAsked_le start total searched)

theorem buildPlan_asks (t : Table) (start : Plan) (calls : List StoreCall) :
    (t.buildPlan start).Asks calls (t.planOutcome calls start) (t.countsAsked calls start) := by
  unfold planOutcome unpagedOutcome cutOutcome buildPlan
  simp only [bind_assoc, pure_bind]
  refine (t.countTotal_asks start calls).bind fun total => ?_
  refine (t.applyFilters_yields start.query).bind_asks fun searched => ?_
  refine (t.countFiltered_asks start total searched _).bind_yields fun filtered => ?_
  refine (t.applyOrder_yields searched).bind fun ordered => ?_
  refine (t.applyPaging_yields ordered).bind fun paged => ?_
  exact (t.logPrepared_yields paged).bind_ok (TableM.yields_pure _)

theorem unpagedOutcome_eq_ok {t : Table} {calls : List StoreCall} {start plan : Plan}
    (found : t.unpagedOutcome calls start = .ok plan) :
    ∃ between total searched n, t.totalOutcome calls start = .ok total ∧
      t.filterOutcome start.query = .ok searched ∧
      t.filteredOutcome between start total searched = .ok n ∧
      t.orderOutcome searched = .ok plan.query ∧ plan.prepared = true ∧
      plan.total = (if t.skipTotal then some n else total) ∧ plan.filtered = some n := by
  obtain ⟨total, totals, found⟩ := bind_eq_ok_iff.mp found
  obtain ⟨searched, filters, found⟩ := bind_eq_ok_iff.mp found
  obtain ⟨n, counted, found⟩ := bind_eq_ok_iff.mp found
  obtain ⟨ordered, orders, found⟩ := bind_eq_ok_iff.mp found
  cases found
  exact ⟨_, total, searched, n, totals, filters, counted, orders, rfl, rfl, rfl⟩

/-- Cutting a plan to its page keeps all but the query and the query log. -/
theorem planOutcome_eq_ok {t : Table} {calls : List StoreCall} {start done : Plan}
    (found : t.planOutcome calls start = .ok done) :
    ∃ plan, t.unpagedOutcome calls start = .ok plan ∧ t.pageOutcome plan.query = .ok done.query ∧
      done.prepared = plan.prepared ∧ done.total = plan.total ∧ done.filtered = plan.filtered := by
  obtain ⟨plan, unpaged, cut⟩ := bind_eq_ok_iff.mp found
  obtain ⟨paged, pages, cut⟩ := bind_eq_ok_iff.mp cut
  cases cut
  exact ⟨plan, unpaged, pages, rfl, rfl, rfl⟩

theorem prepared_of_planOutcome {t : Table} {calls : List StoreCall} {start done : Plan}
    (found : t.planOutcome calls start = .ok done) : done.prepared = true := by
  obtain ⟨plan, unpaged, _, kept, _⟩ := planOutcome_eq_ok found
  obtain ⟨_, _, _, _, _, _, _, _, ready, _⟩ := unpagedOutcome_eq_ok unpaged
  rw [kept, ready]

theorem pending_of_unused {t : Table} {s : TableState} (unused : s.plan = t.initialPlan) :
    s.plan.prepared = false := by
  rw [unused]
  rfl

theorem prepare_run_of_prepared {t : Table} {s : TableState} (ready : s.plan.prepared = true) :
    t.prepare.run.run s = (.ok (), s) := by
  unfold prepare
  rw [TableM.run_get_bind, ready]
  rfl

/--
Preparing a table that is not prepared comes to the outcome of the stages, whatever the log. The plan
changes only where all of them succeed, and the store receives the counts on the way to it.
-/
theorem prepare_run (t : Table) {s : TableState} (pending : s.plan.prepared = false) :
    ∃ entries : List LogEntry, ∀ log,
      t.prepare.run.run { s with log } =
        ((t.planOutcome s.calls s.plan).map fun _ => (),
          ⟨(t.planOutcome s.calls s.plan).toOption.getD s.plan,
            s.calls ++ (t.countsAsked s.calls s.plan).map StoreCall.count, log.writeAll entries⟩) := by
  obtain ⟨entries, builds⟩ := t.buildPlan_asks s.plan s.calls
  refine ⟨entries, fun log => ?_⟩
  unfold prepare
  rw [TableM.run_get_bind, pending]
  simp only [Bool.false_eq_true, ↓reduceIte, TableM.run_bind, builds]
  cases t.planOutcome s.calls s.plan with
  | error e => rfl
  | ok done => rfl

/-- A table that is not prepared is prepared with success where the stages succeed. -/
theorem prepare_run_eq_ok_iff {t : Table} {s : TableState} (pending : s.plan.prepared = false) :
    (t.prepare.run.run s).1 = .ok () ↔ ∃ done, t.planOutcome s.calls s.plan = .ok done := by
  obtain ⟨entries, prepares⟩ := t.prepare_run pending
  rw [prepares s.log, map_eq_ok_iff]
  exact exists_congr fun done => and_iff_left rfl

/-- A preparation: the query after the filters, in its order and cut to its page, and the counts. -/
structure Preparation (t : Table) (start : Plan) (searched ordered : Query) (done : Plan) : Prop where
  filters : t.filterOutcome start.query = .ok searched
  orders : t.orderOutcome searched = .ok ordered
  pages : t.pageOutcome ordered = .ok done.query
  counts : ∃ before between total n, t.totalOutcome before start = .ok total ∧
    t.filteredOutcome between start total searched = .ok n ∧
    done.total = (if t.skipTotal then some n else total) ∧ done.filtered = some n

theorem preparation_of_planOutcome {t : Table} {calls : List StoreCall} {start done : Plan}
    (found : t.planOutcome calls start = .ok done) :
    ∃ searched ordered, t.Preparation start searched ordered done := by
  obtain ⟨plan, unpaged, pages, _, total, filtered⟩ := planOutcome_eq_ok found
  obtain ⟨between, m, searched, n, totals, filters, counted, orders, _, given, count⟩ :=
    unpagedOutcome_eq_ok unpaged
  exact ⟨searched, plan.query, filters, orders, pages, calls, between, m, n, totals, counted,
    total.trans given, filtered.trans count⟩

/-- A table that was not prepared and now is has the plan that the stages come to. -/
theorem planOutcome_of_run {t : Table} {s after : TableState} (pending : s.plan.prepared = false)
    (success : t.prepare.run.run s = (.ok (), after)) : t.planOutcome s.calls s.plan = .ok after.plan := by
  obtain ⟨entries, prepares⟩ := t.prepare_run pending
  rw [prepares s.log] at success
  obtain ⟨outcome, rfl⟩ := Prod.mk.inj success
  obtain ⟨done, found, _⟩ := map_eq_ok_iff.mp outcome
  rw [found]
  rfl

theorem prepare_of_unused {t : Table} {s after : TableState} (unused : s.plan = t.initialPlan)
    (success : t.prepare.run.run s = (.ok (), after)) :
    ∃ searched ordered, t.Preparation t.initialPlan searched ordered after.plan := by
  have found := planOutcome_of_run (pending_of_unused unused) success
  rw [unused] at found
  exact preparation_of_planOutcome found

/-- A plan is built up to its page where the stages succeed and the store counts. -/
theorem unpagedOutcome_succeeds {t : Table} {calls : List StoreCall} {start : Plan}
    {searched ordered : Query} (filters : t.filterOutcome start.query = .ok searched)
    (orders : t.orderOutcome searched = .ok ordered)
    (totals : ∀ calls, ∃ total, t.totalOutcome calls start = .ok total)
    (counts : ∀ before calls total, t.totalOutcome before start = .ok total →
      ∃ n, t.filteredOutcome calls start total searched = .ok n) :
    ∃ plan, t.unpagedOutcome calls start = .ok plan ∧ plan.query = ordered := by
  obtain ⟨total, found⟩ := totals calls
  obtain ⟨n, counted⟩ := counts calls (calls ++ (t.totalAsked start).map StoreCall.count) total found
  unfold unpagedOutcome
  rw [found, filters]
  change ∃ plan, (t.filteredOutcome _ start total searched >>= _) = .ok plan ∧ _
  rw [counted]
  change ∃ plan, (t.orderOutcome searched >>= _) = .ok plan ∧ _
  rw [orders]
  exact ⟨_, rfl, rfl⟩

end Table

end TableQuery
