import TableQuery.Proofs.Table.Answers

set_option autoImplicit false

namespace TableQuery

namespace Table

variable {t : Table} {objectRows : Bool} {s : TableState}

theorem queryLog_of_planOutcome {calls : List StoreCall} {start done : Plan}
    (found : t.planOutcome calls start = .ok done) :
    done.queryLog = (t.countsAsked calls start).map Query.toDocument ++ t.debugLog done.query := by
  obtain ⟨plan, unpaged, cut⟩ := bind_eq_ok_iff.mp found
  obtain ⟨total, totals, unpaged⟩ := bind_eq_ok_iff.mp unpaged
  obtain ⟨searched, filters, unpaged⟩ := bind_eq_ok_iff.mp unpaged
  obtain ⟨n, _, unpaged⟩ := bind_eq_ok_iff.mp unpaged
  obtain ⟨ordered, _, unpaged⟩ := bind_eq_ok_iff.mp unpaged
  obtain ⟨paged, _, cut⟩ := bind_eq_ok_iff.mp cut
  cases unpaged
  cases cut
  rw [countsAsked, totals, filters, List.map_append]
  rfl

theorem queries_run (debug : t.settings.debug = true)
    (success : ((t.run objectRows).run s).1.isSuccess = true) :
    ((t.run objectRows).run s).1.queries = some ((t.run objectRows).run s).2.plan.queryLog := by
  obtain ⟨plan, data, ⟨calls, rows, prepares, _, _⟩, answered⟩ := draws_of_success success
  have kept : ((t.run objectRows).run s).2.plan = plan :=
    (TableCall.after_of_prepares prepares (.run objectRows)).1
  rw [answered, kept, answerWith, debug]
  rfl

theorem calls_run_of_pending (pending : s.plan.prepared = false)
    (success : ((t.run objectRows).run s).1.isSuccess = true) :
    ∃ done, t.planOutcome s.calls s.plan = .ok done ∧ ((t.run objectRows).run s).2.plan = done ∧
      ((t.run objectRows).run s).2.calls =
        s.calls ++ (t.countsAsked s.calls s.plan).map StoreCall.count ++ [.fetch done.query] := by
  have prepares := t.preparesTo_of_pending pending
  cases found : t.planOutcome s.calls s.plan with
  | error e =>
    rw [found] at prepares
    rw [fst_run, fst_respond_of_fails (prepares.relogged _)] at success
    cases success
  | ok done =>
    rw [found] at prepares
    obtain ⟨plan, calls⟩ := TableCall.after_of_prepares prepares (.run objectRows)
    exact ⟨done, rfl, plan, calls⟩

/--
The debug output of a draw tells exactly what the store was asked. Where a draw prepares the table and
succeeds, its answer lists the renderings of all queries that the store received in this draw, in their order:
those that were counted, and last the one whose rows were fetched. Whatever calls follow, later draws of the
table that succeed list the same.
-/
theorem queries_tell_calls (debug : t.settings.debug = true) (pending : s.plan.prepared = false)
    (success : ((t.run objectRows).run s).1.isSuccess = true) :
    let response := ((t.run objectRows).run s).1
    let after := ((t.run objectRows).run s).2
    (∃ counted fetched,
      after.calls = s.calls ++ (counted.map StoreCall.count ++ [StoreCall.fetch fetched]) ∧
      response.queries = some ((counted ++ [fetched]).map Query.toDocument)) ∧
    ∀ (later : List TableUse) (again : Table) (rows : Bool), again.settings.debug = true →
      ((again.run rows).run (after.afterAll later)).1.isSuccess = true →
        ((again.run rows).run (after.afterAll later)).1.queries = response.queries := by
  intro response after
  obtain ⟨done, found, plan, calls⟩ := calls_run_of_pending pending success
  have told : response.queries = some after.plan.queryLog := queries_run debug success
  refine ⟨⟨t.countsAsked s.calls s.plan, done.query, ?_, ?_⟩, fun later again rows debugged succeeds => ?_⟩
  · rw [← List.append_assoc]
    exact calls
  · rw [told, plan, queryLog_of_planOutcome found, debugLog, debug, List.map_append]
    rfl
  · have ready : after.plan.prepared = true := by
      rw [plan]
      exact prepared_of_planOutcome found
    -- The later draw finds the table prepared, so it adds one fetch and keeps the plan.
    let use : TableUse := ⟨again, .run rows⟩
    have kept : (use.after (after.afterAll later)).plan = after.plan := by
      have all := (TableState.afterAll_of_prepared ready (later ++ [use])).1
      rwa [TableState.afterAll_append] at all
    rw [queries_run debugged succeeds, told]
    exact congrArg (some ·.queryLog) kept

set_option maxRecDepth 100000 in
/-- A draw with both counts; a later draw by arrays, after a call that fails to fetch, lists the same. -/
theorem queries_tell_calls_of_search :
    let c : Collection := ⟨"docs", [.object [("name", .string "Ann")], .object [("name", .string "Bob")]]⟩
    let store : Store :=
      { count := fun _ q => c.count q
        fetch := fun calls q => if calls.length = 3 then .error (.store "refused") else c.fetch q }
    let r : Request := { columns := [{ data := some "name" }], search := { value := "ann" } }
    let t := (Table.new store c.query r).withSettings { debug := true }
    let s : TableState := { plan := t.initialPlan }
    let later : List TableUse := [⟨t, .fetchRows⟩]
    t.settings.debug = true ∧ s.plan.prepared = false ∧
      ((t.run true).run s).1.isSuccess = true ∧
      (t.fetchRows.run.run ((t.run true).run s).2).1.isOk = false ∧
      ((t.run false).run (((t.run true).run s).2.afterAll later)).1.isSuccess = true ∧
      (∃ counted fetched,
        ((t.run true).run s).2.calls = s.calls ++ (counted.map StoreCall.count ++ [StoreCall.fetch fetched]) ∧
        ((t.run true).run s).1.queries = some ((counted ++ [fetched]).map Query.toDocument)) ∧
      ((t.run false).run (((t.run true).run s).2.afterAll later)).1.queries =
        ((t.run true).run s).1.queries := by
  intro c store r t s later
  have success : ((t.run true).run s).1.isSuccess = true := by decide +kernel
  have refused : (t.fetchRows.run.run ((t.run true).run s).2).1.isOk = false := by decide +kernel
  have succeeds : ((t.run false).run (((t.run true).run s).2.afterAll later)).1.isSuccess = true := by
    decide +kernel
  obtain ⟨told, same⟩ := queries_tell_calls (t := t) rfl (s := s) rfl success
  exact ⟨rfl, rfl, success, refused, succeeds, told, same later t false rfl succeeds⟩

end Table

end TableQuery
