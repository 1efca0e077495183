import TableQuery.Proofs.Rows.Edits
import TableQuery.Proofs.Table.Preparation

set_option autoImplicit false

namespace TableQuery

/-- What a table can be asked for. -/
inductive TableCall where
  | prepare
  | fetchRows
  | fetchCounted
  | explain
  | run (objectRows : Bool)
  deriving DecidableEq, Repr, Inhabited

namespace TableCall

def after (t : Table) (s : TableState) : TableCall → TableState
  | prepare => (t.prepare.run.run s).2
  | fetchRows => (t.fetchRows.run.run s).2
  | fetchCounted => (t.fetchCounted.run.run s).2
  | explain => (t.explain.run.run s).2
  | run objectRows => ((t.run objectRows).run s).2

/-- What a call asks the store for where the plan has this query: its rows, once, if at all. -/
def fetches (q : Query) : TableCall → List StoreCall
  | prepare => []
  | fetchRows => [.fetch q]
  | fetchCounted => [.fetch q]
  | explain => []
  | run _ => [.fetch q]

end TableCall

/-- A call on a table, whose store and callbacks may have changed since the call before. -/
structure TableUse where
  table : Table
  call : TableCall

namespace TableUse

def after (use : TableUse) (s : TableState) : TableState := use.call.after use.table s

/-- Preparing the table fails in this use. -/
def Fails (use : TableUse) (s : TableState) : Prop := ∃ e, (use.table.prepare.run.run s).1 = .error e

instance (use : TableUse) (s : TableState) : Decidable (use.Fails s) :=
  decidable_of_iff ((use.table.prepare.run.run s).1.isOk = false) (by
    unfold Fails
    cases (use.table.prepare.run.run s).1 with
    | error e => exact ⟨fun _ => ⟨e, rfl⟩, fun _ => rfl⟩
    | ok done => exact ⟨nofun, nofun⟩)

/-- The table is prepared in this use, or was before. -/
def Prepares (use : TableUse) (s : TableState) : Prop := (use.table.prepare.run.run s).1 = .ok ()

instance (use : TableUse) (s : TableState) : Decidable (use.Prepares s) :=
  decidable_of_iff ((use.table.prepare.run.run s).1.isOk = true)
    (isOk_iff.trans ⟨fun ⟨_, done⟩ => done, fun done => ⟨(), done⟩⟩)

end TableUse

def TableState.afterAll (s : TableState) (uses : List TableUse) : TableState :=
  uses.foldl (fun s use => use.after s) s

@[simp] theorem TableState.afterAll_cons (s : TableState) (use : TableUse) (rest : List TableUse) :
    s.afterAll (use :: rest) = (use.after s).afterAll rest := rfl

theorem TableState.afterAll_append (s : TableState) (first later : List TableUse) :
    s.afterAll (first ++ later) = (s.afterAll first).afterAll later := List.foldl_append

namespace TableM

variable {α β : Type}

/-- The step leaves the state as it is. -/
def Quiet (x : TableM α) : Prop := ∀ s, (x.run.run s).2 = s

theorem quiet_lift (outcome : Except TableError α) : (lift outcome).Quiet := fun s => by rw [run_lift]

theorem state_bind_quiet {x : TableM α} {f : α → TableM β} (quiet : ∀ a, (f a).Quiet) (s : TableState) :
    ((x >>= f).run.run s).2 = (x.run.run s).2 := by
  rw [run_bind]
  rcases x.run.run s with ⟨e | a, after⟩
  · rfl
  · exact quiet a after

theorem Quiet.bind {x : TableM α} {f : α → TableM β} (first : x.Quiet) (quiet : ∀ a, (f a).Quiet) :
    (x >>= f).Quiet := fun s => (state_bind_quiet quiet s).trans (first s)

end TableM

namespace Table

/-- Whatever the log, preparing the table comes to this outcome and leaves this plan and these calls. -/
def PreparesTo (t : Table) (s : TableState) (outcome : Except TableError Unit) (plan : Plan)
    (calls : List StoreCall) : Prop :=
  ∀ log, ∃ last, t.prepare.run.run { s with log } = (outcome, ⟨plan, calls, last⟩)

theorem preparesTo_of_prepared {t : Table} {s : TableState} (ready : s.plan.prepared = true) :
    t.PreparesTo s (.ok ()) s.plan s.calls := fun log =>
  ⟨log, prepare_run_of_prepared (s := { s with log }) ready⟩

theorem preparesTo_of_pending (t : Table) {s : TableState} (pending : s.plan.prepared = false) :
    t.PreparesTo s ((t.planOutcome s.calls s.plan).map fun _ => ())
      ((t.planOutcome s.calls s.plan).toOption.getD s.plan)
      (s.calls ++ (t.countsAsked s.calls s.plan).map StoreCall.count) := by
  obtain ⟨entries, prepares⟩ := t.prepare_run pending
  exact fun log => ⟨_, prepares log⟩

theorem exists_preparesTo (t : Table) (s : TableState) :
    ∃ outcome plan calls, t.PreparesTo s outcome plan calls := by
  cases ready : s.plan.prepared with
  | true => exact ⟨_, _, _, preparesTo_of_prepared ready⟩
  | false =>
    exact ⟨_, _, _, t.preparesTo_of_pending ready⟩

theorem PreparesTo.run {t : Table} {s : TableState} {outcome : Except TableError Unit} {plan : Plan}
    {calls : List StoreCall} (prepares : t.PreparesTo s outcome plan calls) :
    ∃ last, t.prepare.run.run s = (outcome, ⟨plan, calls, last⟩) := prepares s.log

theorem fetchRows_run_of_ok {t : Table} {s prepared : TableState}
    (prepares : t.prepare.run.run s = (.ok (), prepared)) :
    t.fetchRows.run.run s = (t.store.fetch prepared.calls prepared.plan.query,
      { prepared with calls := prepared.calls ++ [StoreCall.fetch prepared.plan.query] }) := by
  unfold fetchRows
  rw [TableM.run_bind_of_ok prepares, TableM.run_get_bind, askFetch_run]

theorem fetchRows_run_of_error {t : Table} {s failed : TableState} {e : TableError}
    (fails : t.prepare.run.run s = (.error e, failed)) : t.fetchRows.run.run s = (.error e, failed) :=
  TableM.run_bind_of_error fails

theorem fetchCounted_run (t : Table) (s : TableState) :
    t.fetchCounted.run.run s =
      ((t.fetchRows.run.run s).1.map fun rows =>
        { rows, total := (t.fetchRows.run.run s).2.plan.total.getD 0
          filtered := (t.fetchRows.run.run s).2.plan.filtered.getD 0 },
        (t.fetchRows.run.run s).2) := by
  unfold fetchCounted
  rw [TableM.run_bind]
  rcases t.fetchRows.run.run s with ⟨e | rows, after⟩
  · rfl
  · rfl

theorem state_respond (t : Table) (objectRows : Bool) (s : TableState) :
    ((t.respond objectRows).run.run s).2 = (t.fetchRows.run.run s).2 := by
  rw [← congrArg Prod.snd (t.fetchCounted_run s)]
  refine TableM.state_bind_quiet (fun result => ?_) s
  refine (TableM.quiet_lift _).bind fun data => ?_
  intro s
  cases t.settings.debug with
  | true => rfl
  | false => rfl

theorem state_explain (t : Table) (s : TableState) :
    (t.explain.run.run s).2 = (t.prepare.run.run s).2 := TableM.state_bind_quiet (fun _ _ => rfl) s

def rowShape (t : Table) (objectRows : Bool) : RowShape :=
  if objectRows then t.shape else t.shape.withArrayRows true

def answerWith (t : Table) (plan : Plan) (data : List Json.Value) : Response :=
  { draw := t.request.draw
    recordsTotal := plan.total.getD 0
    recordsFiltered := plan.filtered.getD 0
    data
    queries := if t.settings.debug then some plan.queryLog else none
    input := if t.settings.debug then some t.request.toValue else none
    payload := t.payload }

theorem fst_respond (t : Table) (objectRows : Bool) (s : TableState) :
    ((t.respond objectRows).run.run s).1 = (t.fetchRows.run.run s).1 >>= fun rows =>
      ((t.rowShape objectRows).shapeRows rows t.request.offset).map
        (t.answerWith (t.fetchRows.run.run s).2.plan) := by
  unfold respond
  rw [TableM.run_bind, fetchCounted_run]
  rcases t.fetchRows.run.run s with ⟨e | rows, after⟩
  · rfl
  · change (((TableM.lift ((t.rowShape objectRows).shapeRows rows t.request.offset)) >>= _).run.run after).1 =
      ((t.rowShape objectRows).shapeRows rows t.request.offset).map (t.answerWith after.plan)
    rw [TableM.run_bind, TableM.run_lift]
    cases (t.rowShape objectRows).shapeRows rows t.request.offset with
    | error e => rfl
    | ok data =>
      unfold answerWith
      cases t.settings.debug with
      | true =>
        simp only [↓reduceIte]
        rfl
      | false =>
        simp only [Bool.false_eq_true, ↓reduceIte]
        rfl

/-- The entry that closes a draw: how it was answered, or why it failed. -/
def closing (t : Table) : Except TableError Response → LogEntry
  | .ok response => t.scope.completed
      [("filtered", toString response.recordsFiltered), ("rows", toString response.data.length)]
  | .error e => t.scope.failed e.code e.message

def answerOf (t : Table) : Except TableError Response → Response
  | .ok response => response
  | .error e => .failure t.request.draw e

theorem run_eq (t : Table) (objectRows : Bool) (s : TableState) :
    (t.run objectRows).run s =
      let drawn := (t.respond objectRows).run.run { s with log := s.log.write t.scope.begun }
      (t.answerOf drawn.1, { drawn.2 with log := drawn.2.log.write (t.closing drawn.1) }) := by
  unfold Table.run
  simp only [StateT.run_bind, StateT.run_modify, pure_bind]
  rcases (t.respond objectRows).run.run { s with log := s.log.write t.scope.begun } with ⟨e | response, after⟩
  · rfl
  · rfl

theorem fst_run (t : Table) (objectRows : Bool) (s : TableState) :
    ((t.run objectRows).run s).1 =
      t.answerOf ((t.respond objectRows).run.run { s with log := s.log.write t.scope.begun }).1 :=
  congrArg Prod.fst (t.run_eq objectRows s)

theorem state_run (t : Table) (objectRows : Bool) (s : TableState) :
    ∃ last, ((t.run objectRows).run s).2 =
      { (t.fetchRows.run.run { s with log := s.log.write t.scope.begun }).2 with log := last } := by
  rw [← state_respond t objectRows]
  exact ⟨_, congrArg Prod.snd (t.run_eq objectRows s)⟩

theorem respond_eq_ok {t : Table} {objectRows : Bool} {s : TableState} {response : Response}
    (success : ((t.respond objectRows).run.run s).1 = .ok response) :
    ∃ result, (t.fetchCounted.run.run s).1 = .ok result ∧ response.recordsTotal = result.total ∧
      response.recordsFiltered = result.filtered := by
  rw [fst_respond] at success
  obtain ⟨rows, fetched, success⟩ := bind_eq_ok_iff.mp success
  obtain ⟨data, shaped, rfl⟩ := map_eq_ok_iff.mp success
  rw [fetchCounted_run, fetched]
  exact ⟨_, rfl, rfl, rfl⟩

/-- Where no column is computed, rows that are drawn are answered with. -/
theorem exists_respond {t : Table} (objectRows : Bool) {s : TableState} {result : CountedRows}
    (uncomputed : t.shape.edits = []) (drawn : (t.fetchCounted.run.run s).1 = .ok result) :
    ∃ response, ((t.respond objectRows).run.run s).1 = .ok response ∧ response.isSuccess = true := by
  rw [fetchCounted_run] at drawn
  obtain ⟨rows, fetched, _⟩ := map_eq_ok_iff.mp drawn
  have kept : (t.rowShape objectRows).edits = [] := by
    cases objectRows with
    | true => exact uncomputed
    | false => exact uncomputed
  obtain ⟨data, shaped⟩ := RowShape.exists_shapeFrom kept (t.request.offset + 1) rows
  rw [fst_respond]
  exact ⟨_, bind_eq_ok_iff.mpr ⟨rows, fetched, map_eq_ok_iff.mpr ⟨data, shaped, rfl⟩⟩, rfl⟩

theorem run_of_success {t : Table} {objectRows : Bool} {s : TableState}
    (success : ((t.run objectRows).run s).1.isSuccess = true) :
    ∃ result, (t.fetchCounted.run.run { s with log := s.log.write t.scope.begun }).1 = .ok result ∧
      ((t.run objectRows).run s).1.recordsTotal = result.total ∧
      ((t.run objectRows).run s).1.recordsFiltered = result.filtered := by
  rw [fst_run] at success ⊢
  cases found : ((t.respond objectRows).run.run { s with log := s.log.write t.scope.begun }).1 with
  | error e =>
    rw [found] at success
    cases success
  | ok response => exact respond_eq_ok found

theorem isSuccess_run {t : Table} {objectRows : Bool} {s : TableState} {result : CountedRows}
    (uncomputed : t.shape.edits = [])
    (drawn : (t.fetchCounted.run.run { s with log := s.log.write t.scope.begun }).1 = .ok result) :
    ((t.run objectRows).run s).1.isSuccess = true := by
  obtain ⟨response, found, success⟩ := exists_respond objectRows uncomputed drawn
  rw [fst_run, found]
  exact success

end Table

namespace TableCall

open Table

variable {t : Table} {s : TableState} {plan : Plan} {calls : List StoreCall}

/-- A call for which the table is prepared keeps the plan and fetches its rows, if it gives any. -/
theorem after_of_prepares (prepares : t.PreparesTo s (.ok ()) plan calls) (call : TableCall) :
    (call.after t s).plan = plan ∧ (call.after t s).calls = calls ++ call.fetches plan.query := by
  obtain ⟨last, runs⟩ := prepares.run
  cases call with
  | prepare =>
    rw [after, runs, fetches, List.append_nil]
    exact ⟨rfl, rfl⟩
  | fetchRows =>
    rw [after, fetchRows_run_of_ok runs]
    exact ⟨rfl, rfl⟩
  | fetchCounted =>
    rw [after, fetchCounted_run, fetchRows_run_of_ok runs]
    exact ⟨rfl, rfl⟩
  | explain =>
    rw [after, state_explain, runs, fetches, List.append_nil]
    exact ⟨rfl, rfl⟩
  | run objectRows =>
    obtain ⟨logged, left⟩ := t.state_run objectRows s
    obtain ⟨last, runs⟩ := prepares (s.log.write t.scope.begun)
    rw [after, left, fetchRows_run_of_ok runs]
    exact ⟨rfl, rfl⟩

/-- A call for which preparing the table fails leaves what the preparation has left. -/
theorem after_of_fails {e : TableError} (fails : t.PreparesTo s (.error e) plan calls) (call : TableCall) :
    (call.after t s).plan = plan ∧ (call.after t s).calls = calls := by
  obtain ⟨last, runs⟩ := fails.run
  cases call with
  | prepare =>
    rw [after, runs]
    exact ⟨rfl, rfl⟩
  | fetchRows =>
    rw [after, fetchRows_run_of_error runs]
    exact ⟨rfl, rfl⟩
  | fetchCounted =>
    rw [after, fetchCounted_run, fetchRows_run_of_error runs]
    exact ⟨rfl, rfl⟩
  | explain =>
    rw [after, state_explain, runs]
    exact ⟨rfl, rfl⟩
  | run objectRows =>
    obtain ⟨logged, left⟩ := t.state_run objectRows s
    obtain ⟨last, runs⟩ := fails (s.log.write t.scope.begun)
    rw [after, left, fetchRows_run_of_error runs]
    exact ⟨rfl, rfl⟩

end TableCall

namespace TableUse

/-- A use in which preparing the table fails keeps the plan, with its counts and the query log. -/
theorem plan_after_of_fails {use : TableUse} {s : TableState} (fails : use.Fails s) :
    (use.after s).plan = s.plan := by
  obtain ⟨e, failed⟩ := fails
  cases ready : s.plan.prepared with
  | true =>
    rw [Table.prepare_run_of_prepared ready] at failed
    cases failed
  | false =>
    have prepares := use.table.preparesTo_of_pending ready
    obtain ⟨last, runs⟩ := prepares.run
    rw [runs] at failed
    cases found : use.table.planOutcome s.calls s.plan with
    | error e =>
      rw [found] at prepares
      exact (TableCall.after_of_fails prepares use.call).1
    | ok done =>
      rw [found] at failed
      cases failed

/-- The first use in which the table is prepared gives it the plan that the stages come to. -/
theorem planOutcome_of_prepares {use : TableUse} {s : TableState} (pending : s.plan.prepared = false)
    (success : use.Prepares s) : use.table.planOutcome s.calls s.plan = .ok (use.after s).plan := by
  obtain ⟨done, found⟩ := (Table.prepare_run_eq_ok_iff pending).mp success
  have prepares := use.table.preparesTo_of_pending pending
  rw [found] at prepares
  rw [found, after, (TableCall.after_of_prepares prepares use.call).1]
  rfl

/-- A use in which the table is prepared, or was before, asks for two counts at most, and then for the
rows of the plan where the call gives any. -/
theorem calls_after_of_prepares {use : TableUse} {s : TableState} (success : use.Prepares s) :
    (use.after s).plan.prepared = true ∧ ∃ asked : List Query, asked.length ≤ 2 ∧
      (use.after s).calls =
        s.calls ++ asked.map StoreCall.count ++ use.call.fetches (use.after s).plan.query := by
  cases ready : s.plan.prepared with
  | true =>
    obtain ⟨plan, calls⟩ := TableCall.after_of_prepares (Table.preparesTo_of_prepared ready) use.call
    rw [after, plan, calls]
    refine ⟨ready, [], Nat.zero_le 2, ?_⟩
    rw [List.map_nil, List.append_nil]
  | false =>
    obtain ⟨done, found⟩ := (Table.prepare_run_eq_ok_iff ready).mp success
    have prepares := use.table.preparesTo_of_pending ready
    rw [found] at prepares
    obtain ⟨plan, calls⟩ := TableCall.after_of_prepares prepares use.call
    rw [after, plan, calls]
    exact ⟨Table.prepared_of_planOutcome found, _, use.table.length_countsAsked_le _ _, rfl⟩

end TableUse

/-- Uses of a table that is prepared keep its plan. All that they ask the store for is the rows of this
plan, once for each call that gives rows. -/
theorem TableState.afterAll_of_prepared {s : TableState} (ready : s.plan.prepared = true)
    (uses : List TableUse) :
    (s.afterAll uses).plan = s.plan ∧ (s.afterAll uses).calls =
      s.calls ++ uses.flatMap fun use => use.call.fetches s.plan.query := by
  induction uses generalizing s with
  | nil => exact ⟨rfl, (List.append_nil s.calls).symm⟩
  | cons use rest ih =>
    obtain ⟨plan, calls⟩ :=
      TableCall.after_of_prepares (t := use.table) (Table.preparesTo_of_prepared ready) use.call
    have still : (use.after s).plan.prepared = true := by
      rw [TableUse.after, plan]
      exact ready
    obtain ⟨last, all⟩ := ih still
    rw [afterAll_cons, last, all, TableUse.after, plan, calls, List.flatMap_cons, List.append_assoc]
    exact ⟨rfl, rfl⟩

/-- What a table may have for a plan that no other table is used with: the one it begins with, or one that its
stages come to. -/
def Table.HasPlan (t : Table) (plan : Plan) : Prop :=
  plan = t.initialPlan ∨ ∃ calls, t.planOutcome calls t.initialPlan = .ok plan

/-- Preparing a table leaves it with a plan of its own, and with one that its stages come to where it succeeds. -/
theorem Table.HasPlan.of_prepares {t : Table} {s : TableState} (has : t.HasPlan s.plan)
    {outcome : Except TableError Unit} {plan : Plan} {calls : List StoreCall}
    (prepares : t.PreparesTo s outcome plan calls) :
    t.HasPlan plan ∧ (outcome = .ok () → ∃ calls, t.planOutcome calls t.initialPlan = .ok plan) := by
  obtain ⟨last, runs⟩ := prepares.run
  rcases has with unused | ⟨earlier, found⟩
  · obtain ⟨_, others⟩ := (t.preparesTo_of_pending (pending_of_unused unused)).run
    rw [others, unused] at runs
    obtain ⟨rfl, state⟩ := Prod.mk.inj runs
    obtain ⟨rfl, _, _⟩ := TableState.mk.inj state
    cases comes : t.planOutcome s.calls t.initialPlan with
    | error e => exact ⟨.inl rfl, nofun⟩
    | ok done => exact ⟨.inr ⟨_, comes⟩, fun _ => ⟨_, comes⟩⟩
  · rw [prepare_run_of_prepared (prepared_of_planOutcome found)] at runs
    cases runs
    exact ⟨.inr ⟨earlier, found⟩, fun _ => ⟨earlier, found⟩⟩

theorem TableUse.exists_preparesTo (use : TableUse) (s : TableState) :
    ∃ outcome plan calls, use.table.PreparesTo s outcome plan calls ∧ (use.after s).plan = plan := by
  obtain ⟨outcome, plan, calls, prepares⟩ := use.table.exists_preparesTo s
  refine ⟨outcome, plan, calls, prepares, ?_⟩
  cases outcome with
  | error e => exact (TableCall.after_of_fails prepares use.call).1
  | ok done => exact (TableCall.after_of_prepares prepares use.call).1

theorem TableUse.hasPlan_after {s : TableState} {use : TableUse} (has : use.table.HasPlan s.plan) :
    use.table.HasPlan (use.after s).plan := by
  obtain ⟨outcome, plan, calls, prepares, left⟩ := use.exists_preparesTo s
  rw [left]
  exact (has.of_prepares prepares).1

theorem TableState.hasPlan_afterAll {t : Table} {s : TableState} (has : t.HasPlan s.plan) {uses : List TableUse}
    (same : ∀ use ∈ uses, use.table = t) : t.HasPlan (s.afterAll uses).plan := by
  induction uses generalizing s with
  | nil => exact has
  | cons use rest ih =>
    rw [List.forall_mem_cons] at same
    obtain ⟨rfl, others⟩ := same
    exact ih (TableUse.hasPlan_after has) others

/--
Preparation takes effect once. The use that prepares a table asks for two counts at most. Whatever calls
follow, failing fetches and failing row shapes among them, the plan with its counts and the query log stays as
it is, no count reaches the store again, and each call that gives rows fetches those of this plan, once.
-/
theorem TableState.prepared_once (s : TableState) (before : List TableUse) {first : TableUse}
    (success : first.Prepares (s.afterAll before)) :
    let prepared := first.after (s.afterAll before)
    prepared.plan.prepared = true ∧
    (∃ asked : List Query, asked.length ≤ 2 ∧ prepared.calls = (s.afterAll before).calls ++
      asked.map StoreCall.count ++ first.call.fetches prepared.plan.query) ∧
    ∀ later, (s.afterAll (before ++ first :: later)).plan = prepared.plan ∧
      (s.afterAll (before ++ first :: later)).calls = prepared.calls ++
        later.flatMap fun use => use.call.fetches prepared.plan.query := by
  intro prepared
  obtain ⟨ready, few⟩ := TableUse.calls_after_of_prepares success
  refine ⟨ready, few, fun later => ?_⟩
  rw [afterAll_append, afterAll_cons]
  exact afterAll_of_prepared ready later

set_option maxRecDepth 100000 in
/-- A store that refuses its first count and its first fetch: the second call prepares the table. -/
theorem TableState.prepared_once_of_refusals :
    let c : Collection := ⟨"docs", [.object [("name", .string "Ann")], .object [("name", .string "Bob")]]⟩
    let store : Store :=
      { count := fun calls q => if calls.length = 0 then .error (.store "refused") else c.count q
        fetch := fun calls q => if calls.length = 3 then .error (.store "refused") else c.fetch q }
    let r : Request := { columns := [{ data := some "name" }], search := { value := "ann" } }
    let t := Table.new store c.query r
    let first : TableUse := ⟨t, .fetchCounted⟩
    let uses : List TableUse := [⟨t, .prepare⟩]
    let s : TableState := { plan := t.initialPlan }
    first.Prepares (s.afterAll uses) ∧ (t.fetchCounted.run.run (s.afterAll uses)).1.isOk = false ∧
      (s.afterAll (uses ++ first :: [⟨t, .run true⟩, ⟨t, .explain⟩, ⟨t, .fetchRows⟩])).calls =
        (first.after (s.afterAll uses)).calls ++
          [.fetch (first.after (s.afterAll uses)).plan.query,
            .fetch (first.after (s.afterAll uses)).plan.query] := by
  intro c store r t first uses s
  have success : first.Prepares (s.afterAll uses) := by decide +kernel
  have refused : (t.fetchCounted.run.run (s.afterAll uses)).1.isOk = false := by decide +kernel
  obtain ⟨_, _, kept⟩ := TableState.prepared_once s uses success
  exact ⟨success, refused, (kept [⟨t, .run true⟩, ⟨t, .explain⟩, ⟨t, .fetchRows⟩]).2⟩

end TableQuery
