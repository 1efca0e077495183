import TableQuery.Proofs.Rows.Shapes
import TableQuery.Proofs.Table.Logged

set_option autoImplicit false

namespace TableQuery

open Json (Value)

namespace Table

variable {t : Table} {objectRows : Bool} {s : TableState}

inductive DrawFails (t : Table) (objectRows : Bool) (s : TableState) (e : TableError) : Prop
  | preparing (plan : Plan) (calls : List StoreCall) (fails : t.PreparesTo s (.error e) plan calls)
  | fetching (plan : Plan) (calls : List StoreCall) (prepares : t.PreparesTo s (.ok ()) plan calls)
      (fails : t.store.fetch calls plan.query = .error e)
  | shaping (plan : Plan) (calls : List StoreCall) (rows : List Value)
      (prepares : t.PreparesTo s (.ok ()) plan calls) (fetches : t.store.fetch calls plan.query = .ok rows)
      (fails : (rows.zipIdx (t.request.offset + 1)).findSome? (t.rowShape objectRows).refusal? = some e)

/-- What a draw comes to that succeeds: the table is prepared, the rows of its plan are fetched, and each
has its shape in the data, the first numbered by the rows before the page. -/
def Draws (t : Table) (objectRows : Bool) (s : TableState) (plan : Plan) (data : List Value) : Prop :=
  ∃ calls rows, t.PreparesTo s (.ok ()) plan calls ∧ t.store.fetch calls plan.query = .ok rows ∧
    (t.rowShape objectRows).Shapes (rows.zipIdx (t.request.offset + 1)) data

theorem PreparesTo.relogged {outcome : Except TableError Unit} {plan : Plan} {calls : List StoreCall}
    (prepares : t.PreparesTo s outcome plan calls) (log : Log) :
    t.PreparesTo { s with log } outcome plan calls := prepares

theorem fst_respond_of_fails {e : TableError} {plan : Plan} {calls : List StoreCall}
    (fails : t.PreparesTo s (.error e) plan calls) (objectRows : Bool) :
    ((t.respond objectRows).run.run s).1 = .error e := by
  obtain ⟨last, runs⟩ := fails.run
  rw [fst_respond, fetchRows_run_of_error runs]
  rfl

theorem fst_respond_of_prepares {plan : Plan} {calls : List StoreCall}
    (prepares : t.PreparesTo s (.ok ()) plan calls) (objectRows : Bool) :
    ((t.respond objectRows).run.run s).1 = t.store.fetch calls plan.query >>= fun rows =>
      ((t.rowShape objectRows).shapeRows rows t.request.offset).map (t.answerWith plan) := by
  obtain ⟨last, runs⟩ := prepares.run
  rw [fst_respond, fetchRows_run_of_ok runs]

theorem fst_respond_eq_error_iff {log : Log} {e : TableError} :
    ((t.respond objectRows).run.run { s with log }).1 = .error e ↔ t.DrawFails objectRows s e := by
  constructor
  · intro failed
    obtain ⟨outcome, plan, calls, prepares⟩ := t.exists_preparesTo s
    cases outcome with
    | error other =>
      rw [fst_respond_of_fails (prepares.relogged log)] at failed
      cases failed
      exact .preparing plan calls prepares
    | ok done =>
      rw [fst_respond_of_prepares (prepares.relogged log)] at failed
      cases fetched : t.store.fetch calls plan.query with
      | error other =>
        rw [fetched] at failed
        cases failed
        exact .fetching plan calls prepares fetched
      | ok rows =>
        rw [fetched] at failed
        change ((t.rowShape objectRows).shapeRows rows t.request.offset).map _ = _ at failed
        cases shaped : (t.rowShape objectRows).shapeRows rows t.request.offset with
        | error other =>
          rw [shaped] at failed
          cases failed
          exact .shaping plan calls rows prepares fetched (RowShape.shapeFrom_eq_error_iff.mp shaped)
        | ok data =>
          rw [shaped] at failed
          cases failed
  · intro fails
    cases fails with
    | preparing plan calls fails => exact fst_respond_of_fails (fails.relogged log) objectRows
    | fetching plan calls prepares fails =>
      rw [fst_respond_of_prepares (prepares.relogged log), fails]
      rfl
    | shaping plan calls rows prepares fetches fails =>
      have refused : (t.rowShape objectRows).shapeRows rows t.request.offset = .error e :=
        RowShape.shapeFrom_eq_error_iff.mpr fails
      rw [fst_respond_of_prepares (prepares.relogged log), fetches]
      change ((t.rowShape objectRows).shapeRows rows t.request.offset).map _ = _
      rw [refused]
      rfl

/-- An answer is given where the draw succeeds, whatever the log. -/
theorem fst_respond_eq_ok_iff {log : Log} {response : Response} :
    ((t.respond objectRows).run.run { s with log }).1 = .ok response ↔
      ∃ plan data, t.Draws objectRows s plan data ∧ t.answerWith plan data = response := by
  constructor
  · intro success
    obtain ⟨outcome, plan, calls, prepares⟩ := t.exists_preparesTo s
    cases outcome with
    | error other =>
      rw [fst_respond_of_fails (prepares.relogged log)] at success
      cases success
    | ok done =>
      rw [fst_respond_of_prepares (prepares.relogged log)] at success
      obtain ⟨rows, fetched, success⟩ := bind_eq_ok_iff.mp success
      obtain ⟨data, shaped, same⟩ := map_eq_ok_iff.mp success
      exact ⟨plan, data, ⟨calls, rows, prepares, fetched, RowShape.shapeFrom_eq_ok_iff.mp shaped⟩, same⟩
  · intro given
    obtain ⟨plan, data, ⟨calls, rows, prepares, fetched, shaped⟩, same⟩ := given
    rw [fst_respond_of_prepares (prepares.relogged log)]
    refine bind_eq_ok_iff.mpr ⟨rows, fetched, map_eq_ok_iff.mpr ⟨data, ?_, same⟩⟩
    exact RowShape.shapeFrom_eq_ok_iff.mpr shaped

theorem draws_of_success (success : ((t.run objectRows).run s).1.isSuccess = true) :
    ∃ plan data, t.Draws objectRows s plan data ∧ ((t.run objectRows).run s).1 = t.answerWith plan data := by
  rw [fst_run] at success ⊢
  cases outcome : ((t.respond objectRows).run.run { s with log := s.log.write t.scope.begun }).1 with
  | error e =>
    rw [outcome] at success
    cases success
  | ok response =>
    obtain ⟨plan, data, draws, rfl⟩ := fst_respond_eq_ok_iff.mp outcome
    exact ⟨plan, data, draws, rfl⟩

/-- The entry that begins a draw is written first, and the entry that closes it last. What is written in
between neither begins nor ends a draw. -/
def Told (t : Table) (before after : Log) (closing : LogEntry) : Prop :=
  ∃ between : List LogEntry,
    after.entries = before.entries ++
      ⟨.info, "TABLE_RUN_BEGIN", [("draw", toString t.request.draw)]⟩ :: between ++ [closing] ∧
    ∀ entry ∈ between, entry.event ∉
      ["TABLE_RUN_BEGIN", "TABLE_RUN_COMPLETE", "TABLE_RUN_FAILED", "TABLE_RUN_INCOMPLETE"]

theorem told_run (minimum : s.log.minimum = .info) (t : Table) (objectRows : Bool) :
    t.Told s.log ((t.run objectRows).run s).2.log
      (t.closing ((t.respond objectRows).run.run { s with log := s.log.write t.scope.begun }).1) := by
  obtain ⟨entries, events, written⟩ := t.log_run objectRows s
  obtain ⟨between, grown, within⟩ := (s.log.write t.scope.begun).exists_entries_writeAll entries
  have begins : s.log.enabled t.scope.begun.severity = true := by
    rw [Log.enabled, minimum]
    rfl
  have ends (outcome : Except TableError Response) :
      ((s.log.write t.scope.begun).writeAll entries).enabled (t.closing outcome).severity = true := by
    rw [Log.enabled, Log.minimum_writeAll, Log.minimum_write, minimum]
    cases outcome with
    | error e => rfl
    | ok response => rfl
  refine ⟨between, ?_, fun entry member => ?_⟩
  · rw [written, Log.entries_write (ends _), grown, Log.entries_write begins, List.append_assoc s.log.entries]
    rfl
  · obtain ⟨event, fields, rfl⟩ := events entry (within member)
    change event.name ∉ _
    cases event with
    | _ => decide

end Table

def Plan.Counted (plan : Plan) : Prop :=
  plan.prepared = true → ∃ total filtered, plan.total = some total ∧ plan.filtered = some filtered

namespace Table

variable {t : Table} {objectRows : Bool} {s : TableState}

theorem counted_of_planOutcome {calls : List StoreCall} {start done : Plan}
    (found : t.planOutcome calls start = .ok done) : done.Counted := by
  intro _
  obtain ⟨plan, unpaged, _, _, total, filtered⟩ := planOutcome_eq_ok found
  obtain ⟨_, m, _, n, totals, _, _, _, _, given, counted⟩ := unpagedOutcome_eq_ok unpaged
  rw [total, filtered, given, counted]
  cases skipped : t.skipTotal with
  | true => exact ⟨n, n, rfl, rfl⟩
  | false =>
    -- A total that is neither given nor left out is asked for.
    unfold totalOutcome at totals
    rw [skipped] at totals
    cases asked : start.total with
    | some k =>
      rw [asked] at totals
      cases totals
      exact ⟨k, n, rfl, rfl⟩
    | none =>
      rw [asked] at totals
      obtain ⟨k, _, rfl⟩ := map_eq_ok_iff.mp totals
      exact ⟨k, n, rfl, rfl⟩

/-- A plan that preparing leaves is prepared if that succeeds, and has its counts if the plan before had. -/
theorem PreparesTo.plan {outcome : Except TableError Unit} {plan : Plan} {calls : List StoreCall}
    (prepares : t.PreparesTo s outcome plan calls) :
    (outcome = .ok () → plan.prepared = true) ∧ (s.plan.Counted → plan.Counted) := by
  obtain ⟨last, runs⟩ := prepares.run
  cases ready : s.plan.prepared with
  | true =>
    rw [prepare_run_of_prepared ready] at runs
    cases runs
    exact ⟨fun _ => ready, id⟩
  | false =>
    obtain ⟨_, others⟩ := (t.preparesTo_of_pending ready).run
    rw [others] at runs
    obtain ⟨rfl, state⟩ := Prod.mk.inj runs
    obtain ⟨rfl, _, _⟩ := TableState.mk.inj state
    cases found : t.planOutcome s.calls s.plan with
    | error e => exact ⟨nofun, id⟩
    | ok done => exact ⟨fun _ => prepared_of_planOutcome found, fun _ => counted_of_planOutcome found⟩

end Table

theorem TableUse.counted_after {s : TableState} (counted : s.plan.Counted) (use : TableUse) :
    (use.after s).plan.Counted := by
  obtain ⟨outcome, plan, calls, prepares, left⟩ := use.exists_preparesTo s
  rw [left]
  exact prepares.plan.2 counted

theorem TableState.counted_afterAll {s : TableState} (counted : s.plan.Counted) (uses : List TableUse) :
    (s.afterAll uses).plan.Counted := by
  induction uses generalizing s with
  | nil => exact counted
  | cons use rest ih => exact ih (TableUse.counted_after counted use)

namespace Table

/--
A draw is all or nothing, whatever calls came before it and whichever of them failed. Its answer has an error
exactly where preparing the table, fetching the rows or shaping one of them fails, and then it has nothing
else. Otherwise it has the counts of the plan, the shape of every fetched row in their order, and the members
that the caller adds. The log tells the same: one entry begins the draw and one ends it, with the code of
the error or with the counts of the answer.
-/
theorem run_all_or_nothing {s : TableState} (pending : s.plan.prepared = false)
    (minimum : s.log.minimum = .info) (before : List TableUse) (t : Table) (objectRows : Bool) :
    let start := s.afterAll before
    let response := ((t.run objectRows).run start).1
    let after := ((t.run objectRows).run start).2
    (response.error.isSome = true ↔ ∃ e, t.DrawFails objectRows start e) ∧
    (∀ e, t.DrawFails objectRows start e →
      response =
        { draw := t.request.draw, recordsTotal := 0, recordsFiltered := 0, data := [],
          error := some (e.code ++ ": " ++ e.message), queries := none, input := none, payload := [] } ∧
      t.Told start.log after.log
        ⟨.error, "TABLE_RUN_FAILED",
          [("draw", toString t.request.draw), ("code", e.code), ("reason", e.message)]⟩) ∧
    (response.error = none →
      t.Draws objectRows start after.plan response.data ∧ response.draw = t.request.draw ∧
      after.plan.total = some response.recordsTotal ∧ after.plan.filtered = some response.recordsFiltered ∧
      response.payload = t.payload ∧
      t.Told start.log after.log
        ⟨.info, "TABLE_RUN_COMPLETE",
          [("draw", toString t.request.draw), ("filtered", toString response.recordsFiltered),
            ("rows", toString response.data.length), Scope.elapsed]⟩) := by
  intro start response after
  have told := told_run (s := start) ((s.minimum_afterAll before).trans minimum) t objectRows
  have counted : start.plan.Counted := by
    refine TableState.counted_afterAll (fun ready => ?_) before
    rw [pending] at ready
    cases ready
  have answers : response = t.answerOf ((t.respond objectRows).run.run
      { start with log := start.log.write t.scope.begun }).1 := t.fst_run objectRows start
  rw [answers]
  cases outcome : ((t.respond objectRows).run.run { start with log := start.log.write t.scope.begun }).1 with
  | error e =>
    rw [outcome] at told
    have fails : t.DrawFails objectRows start e := fst_respond_eq_error_iff.mp outcome
    refine ⟨iff_of_true rfl ⟨e, fails⟩, fun other failed => ?_, nofun⟩
    rw [fst_respond_eq_error_iff.mpr failed] at outcome
    cases outcome
    exact ⟨rfl, told⟩
  | ok result =>
    rw [outcome] at told
    obtain ⟨plan, data, draws, rfl⟩ := fst_respond_eq_ok_iff.mp outcome
    obtain ⟨calls, rows, prepares, shaped⟩ := draws
    have kept : after.plan = plan := (TableCall.after_of_prepares prepares (.run objectRows)).1
    have fits (e : TableError) : ¬ t.DrawFails objectRows start e := by
      intro failed
      cases outcome.symm.trans (fst_respond_eq_error_iff.mpr failed)
    obtain ⟨total, filtered, totals, counts⟩ := prepares.plan.2 counted (prepares.plan.1 rfl)
    refine ⟨iff_of_false nofun fun ⟨e, failed⟩ => fits e failed, fun e failed => absurd failed (fits e),
      fun _ => ?_⟩
    rw [kept]
    refine ⟨⟨calls, rows, prepares, shaped⟩, rfl, ?_, ?_, rfl, told⟩
    · rw [totals]
      exact congrArg some (congrArg (·.getD 0) totals).symm
    · rw [counts]
      exact congrArg some (congrArg (·.getD 0) counts).symm

set_option maxRecDepth 100000 in
/-- Of three draws the first is refused its rows, the second cannot compute a column, and the third succeeds. -/
theorem run_all_or_nothing_of_refusals :
    let c : Collection := ⟨"docs", [.object [("name", .string "Ann")], .object [("name", .string "Bob")]]⟩
    let store : Store :=
      { count := fun _ q => c.count q
        fetch := fun calls q => if calls.length = 2 then .error (.store "refused") else c.fetch q }
    let r : Request := { draw := 7, columns := [{ data := some "name" }, {}], search := { value := "ann" } }
    let t := Table.new store c.query r
    let failing := t.computeColumn "name" fun _ => .error (.callback "name" "down")
    let s : TableState := { plan := t.initialPlan }
    let once : List TableUse := [⟨t, .run true⟩]
    let twice : List TableUse := [⟨t, .run true⟩, ⟨failing, .run true⟩]
    s.plan.prepared = false ∧ s.log.minimum = .info ∧
      (∃ e, ((failing.run true).run (s.afterAll once)).1 = .failure r.draw e ∧
        failing.Told (s.afterAll once).log ((failing.run true).run (s.afterAll once)).2.log
          ⟨.error, "TABLE_RUN_FAILED",
            [("draw", toString r.draw), ("code", e.code), ("reason", e.message)]⟩) ∧
      ((t.run true).run (s.afterAll twice)).1.error = none ∧
      t.Told (s.afterAll twice).log ((t.run true).run (s.afterAll twice)).2.log
        ⟨.info, "TABLE_RUN_COMPLETE",
          [("draw", toString r.draw),
            ("filtered", toString ((t.run true).run (s.afterAll twice)).1.recordsFiltered),
            ("rows", toString ((t.run true).run (s.afterAll twice)).1.data.length), Scope.elapsed]⟩ := by
  intro c store r t failing s once twice
  have fails : ((failing.run true).run (s.afterAll once)).1.error.isSome = true := by decide +kernel
  have succeeds : ((t.run true).run (s.afterAll twice)).1.error.isSome = false := by decide +kernel
  have complete : ((t.run true).run (s.afterAll twice)).1.error = none := by
    rwa [← Option.not_isSome_iff_eq_none, Bool.not_eq_true]
  have second := run_all_or_nothing (s := s) rfl rfl once failing true
  have third := run_all_or_nothing (s := s) rfl rfl twice t true
  obtain ⟨e, failed⟩ := second.1.mp fails
  exact ⟨rfl, rfl, ⟨e, second.2.1 e failed⟩, complete, (third.2.2 complete).2.2.2.2.2⟩

end Table

end TableQuery
