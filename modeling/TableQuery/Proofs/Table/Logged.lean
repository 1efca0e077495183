import TableQuery.Proofs.Table.Calls

set_option autoImplicit false

namespace TableQuery

namespace Log

@[simp] theorem minimum_write (log : Log) (entry : LogEntry) : (log.write entry).minimum = log.minimum := by
  unfold write
  split
  · rfl
  · rfl

@[simp] theorem minimum_writeAll (log : Log) (entries : List LogEntry) :
    (log.writeAll entries).minimum = log.minimum := by
  unfold writeAll
  induction entries generalizing log with
  | nil => rfl
  | cons entry rest ih => rw [List.foldl_cons, ih, minimum_write]

theorem entries_write {log : Log} {entry : LogEntry} (severe : log.enabled entry.severity = true) :
    (log.write entry).entries = log.entries ++ [entry] := by
  rw [write, if_pos severe]

/-- Writing entries keeps those before them and adds some of the new ones. -/
theorem exists_entries_writeAll (log : Log) (entries : List LogEntry) :
    ∃ written, (log.writeAll entries).entries = log.entries ++ written ∧ written ⊆ entries := by
  unfold writeAll
  induction entries generalizing log with
  | nil => exact ⟨[], (List.append_nil log.entries).symm, List.nil_subset _⟩
  | cons entry rest ih =>
    obtain ⟨written, same, within⟩ := ih (log.write entry)
    rw [List.foldl_cons, same]
    by_cases severe : log.enabled entry.severity = true
    · refine ⟨entry :: written, ?_, List.cons_subset_cons entry within⟩
      rw [entries_write severe, List.append_assoc, List.singleton_append]
    · refine ⟨written, ?_, List.Subset.trans within (List.subset_cons_self entry rest)⟩
      rw [write, if_neg severe]

end Log

def LogEntry.IsEvent (entry : LogEntry) : Prop :=
  ∃ (event : Event) (fields : List LogField), entry = event.entry fields

namespace TableM

variable {α β : Type}

/-- Whether the step fails or not, it writes nothing to the log but events of the pipeline. -/
def WritesEvents (x : TableM α) : Prop := ∀ s, ∃ entries : List LogEntry,
  (∀ entry ∈ entries, entry.IsEvent) ∧ (x.run.run s).2.log = s.log.writeAll entries

theorem writesEvents_of_silent {x : TableM α} (silent : ∀ s, (x.run.run s).2.log = s.log) : x.WritesEvents :=
  fun s => ⟨[], List.forall_mem_nil _, silent s⟩

theorem writesEvents_pure (a : α) : (pure a : TableM α).WritesEvents := writesEvents_of_silent fun _ => rfl

theorem Quiet.writesEvents {x : TableM α} (quiet : x.Quiet) : x.WritesEvents :=
  writesEvents_of_silent fun s => congrArg TableState.log (quiet s)

theorem writesEvents_lift (outcome : Except TableError α) : (lift outcome).WritesEvents :=
  (quiet_lift outcome).writesEvents

theorem writesEvents_log (event : Event) (fields : List LogField) : (log (event.entry fields)).WritesEvents :=
  fun _ => ⟨[event.entry fields], List.forall_mem_singleton.mpr ⟨event, fields, rfl⟩, rfl⟩

theorem WritesEvents.bind {x : TableM α} {f : α → TableM β} (first : x.WritesEvents)
    (next : ∀ a, (f a).WritesEvents) : (x >>= f).WritesEvents := by
  intro s
  obtain ⟨entries, events, written⟩ := first s
  rw [run_bind]
  rcases same : x.run.run s with ⟨e | a, after⟩
  · rw [same] at written
    exact ⟨entries, events, written⟩
  · rw [same] at written
    obtain ⟨more, others, later⟩ := next a after
    refine ⟨entries ++ more, List.forall_mem_append.mpr ⟨events, others⟩, ?_⟩
    rw [Log.writeAll_append, ← written]
    exact later

end TableM

/-- Planning writes an event for each order on a column without a name. -/
theorem Rules.planOrders_writesEvents (r : Rules) (resolve : Nat → Option String) (orders : List ColumnOrder)
    (log : Log) (q : Query) : ∃ entries : List LogEntry, (∀ entry ∈ entries, entry.IsEvent) ∧
      (r.planOrders resolve orders log q).log = log.writeAll entries := by
  induction orders generalizing log q with
  | nil => exact ⟨[], List.forall_mem_nil _, rfl⟩
  | cons order rest ih =>
    unfold planOrders
    cases resolve order.column with
    | none =>
      obtain ⟨entries, events, written⟩ := ih (log.write (unresolvedEntry order.column "order")) q
      exact ⟨unresolvedEntry order.column "order" :: entries,
        List.forall_mem_cons.mpr ⟨⟨.columnUnresolved, _, rfl⟩, events⟩, written⟩
    | some column =>
      simp only
      split
      · exact ih log q
      · cases r.orderEdit? column order.direction with
        | none => exact ih log _
        | some edit =>
          simp only
          rcases edit q with ⟨after, _ | e⟩
          · exact ih log after
          · exact ⟨[], List.forall_mem_nil _, rfl⟩

namespace Table

open TableM

theorem resolveColumn_writesEvents (t : Table) (index : Nat) (stage : String) :
    (t.resolveColumn index stage).WritesEvents := by
  unfold resolveColumn
  cases t.request.fieldAt? index with
  | none => exact (writesEvents_log _ _).bind fun _ => writesEvents_pure none
  | some column => exact writesEvents_pure (some column)

theorem searchedColumns_writesEvents (t : Table) (positions : List Nat) :
    (t.searchedColumns positions).WritesEvents := by
  induction positions with
  | nil => exact writesEvents_pure []
  | cons index rest ih =>
    exact (t.resolveColumn_writesEvents index _).bind fun _ => ih.bind fun _ => writesEvents_pure _

theorem filterGlobally_writesEvents (t : Table) (q : Query) : (t.filterGlobally q).WritesEvents := by
  unfold filterGlobally
  split
  · exact (t.searchedColumns_writesEvents _).bind fun _ => writesEvents_lift _
  · exact writesEvents_pure q

theorem filterColumnAt_writesEvents (t : Table) (index : Nat) (q : Query) :
    (t.filterColumnAt index q).WritesEvents := by
  unfold filterColumnAt
  split
  · refine (t.resolveColumn_writesEvents index _).bind fun column => ?_
    split
    · exact writesEvents_lift _
    · exact writesEvents_pure q
  · exact writesEvents_pure q

theorem filterColumns_writesEvents (t : Table) (positions : List Nat) (q : Query) :
    (t.filterColumns positions q).WritesEvents := by
  induction positions generalizing q with
  | nil => exact writesEvents_pure q
  | cons index rest ih => exact (t.filterColumnAt_writesEvents index q).bind ih

theorem runHook_writesEvents (hook : Option QueryEdit) (q : Query) : (runHook hook q).WritesEvents := by
  cases hook with
  | none => exact writesEvents_pure q
  | some edit => exact writesEvents_lift _

theorem applyFilters_writesEvents (t : Table) (q : Query) : (t.applyFilters q).WritesEvents :=
  (t.filterGlobally_writesEvents q).bind fun q =>
    (runHook_writesEvents t.filterHook q).bind fun q => t.filterColumns_writesEvents _ q

theorem applyOrder_writesEvents (t : Table) (q : Query) : (t.applyOrder q).WritesEvents := by
  unfold applyOrder
  cases t.orderHook with
  | some edit => exact writesEvents_lift _
  | none =>
    cases t.request.applicableOrders with
    | nil => exact writesEvents_pure _
    | cons first rest =>
      intro s
      obtain ⟨entries, events, written⟩ :=
        t.rules.planOrders_writesEvents t.request.fieldAt? (first :: rest) s.log q
      refine ⟨entries, events, ?_⟩
      rw [run_get_bind, run_set_bind, ← written]
      cases (t.rules.planOrders t.request.fieldAt? (first :: rest) s.log q).failure with
      | none => rfl
      | some e => rfl

theorem applyPaging_writesEvents (t : Table) (q : Query) : (t.applyPaging q).WritesEvents := by
  unfold applyPaging
  split
  · exact writesEvents_pure q
  · exact writesEvents_lift _

theorem askCount_writesEvents (t : Table) (q : Query) : (t.askCount q).WritesEvents :=
  writesEvents_of_silent fun s => by rw [askCount_run]

theorem askFetch_writesEvents (t : Table) (q : Query) : (t.askFetch q).WritesEvents :=
  writesEvents_of_silent fun s => by rw [askFetch_run]

theorem countTotal_writesEvents (t : Table) (plan : Plan) (q : Query) : (t.countTotal plan q).WritesEvents := by
  unfold countTotal
  split
  · exact writesEvents_pure _
  · split
    · exact writesEvents_pure _
    · exact (t.askCount_writesEvents q).bind fun _ => writesEvents_pure _

theorem countFiltered_writesEvents (t : Table) (plan : Plan) (total : Option Nat) (before q : Query) :
    (t.countFiltered plan total before q).WritesEvents := by
  unfold countFiltered
  split
  · exact writesEvents_pure _
  · split
    · exact writesEvents_pure _
    · exact (t.askCount_writesEvents q).bind fun _ => writesEvents_pure _

theorem logPrepared_writesEvents (t : Table) (q : Query) : (t.logPrepared q).WritesEvents := by
  unfold logPrepared
  split
  · exact (writesEvents_log _ _).bind fun _ => writesEvents_pure _
  · exact writesEvents_pure _

theorem buildPlan_writesEvents (t : Table) (plan : Plan) : (t.buildPlan plan).WritesEvents := by
  refine (t.countTotal_writesEvents plan _).bind fun (total, _) => ?_
  refine (t.applyFilters_writesEvents _).bind fun searched => ?_
  refine (t.countFiltered_writesEvents plan total _ searched).bind fun _ => ?_
  refine (t.applyOrder_writesEvents searched).bind fun ordered => ?_
  refine (t.applyPaging_writesEvents ordered).bind fun paged => ?_
  exact (t.logPrepared_writesEvents paged).bind fun _ => writesEvents_pure _

theorem prepare_writesEvents (t : Table) : t.prepare.WritesEvents := by
  intro s
  unfold prepare
  rw [run_get_bind]
  split
  · exact writesEvents_pure () s
  · exact ((t.buildPlan_writesEvents s.plan).bind fun _ => writesEvents_of_silent fun _ => rfl) s

theorem fetchRows_writesEvents (t : Table) : t.fetchRows.WritesEvents :=
  t.prepare_writesEvents.bind fun _ s => t.askFetch_writesEvents s.plan.query s

theorem fetchCounted_writesEvents (t : Table) : t.fetchCounted.WritesEvents :=
  t.fetchRows_writesEvents.bind fun _ => writesEvents_of_silent fun _ => rfl

theorem explain_writesEvents (t : Table) : t.explain.WritesEvents :=
  t.prepare_writesEvents.bind fun _ => writesEvents_of_silent fun _ => rfl

theorem respond_writesEvents (t : Table) (objectRows : Bool) : (t.respond objectRows).WritesEvents := by
  intro s
  rw [state_respond]
  exact t.fetchRows_writesEvents s

/-- Between the entries that begin and end a draw there are events of the pipeline alone. -/
theorem log_run (t : Table) (objectRows : Bool) (s : TableState) :
    ∃ between : List LogEntry, (∀ entry ∈ between, entry.IsEvent) ∧
      ((t.run objectRows).run s).2.log = ((s.log.write t.scope.begun).writeAll between).write
        (t.closing ((t.respond objectRows).run.run { s with log := s.log.write t.scope.begun }).1) := by
  obtain ⟨between, events, written⟩ :=
    t.respond_writesEvents objectRows { s with log := s.log.write t.scope.begun }
  refine ⟨between, events, ?_⟩
  rw [run_eq, ← written]

end Table

/-- No call changes how severe an entry has to be. -/
theorem TableUse.minimum_after (use : TableUse) (s : TableState) :
    (use.after s).log.minimum = s.log.minimum := by
  have kept {α : Type} {x : TableM α} (writes : x.WritesEvents) :
      (x.run.run s).2.log.minimum = s.log.minimum := by
    obtain ⟨entries, _, written⟩ := writes s
    rw [written, Log.minimum_writeAll]
  obtain ⟨t, call⟩ := use
  cases call with
  | prepare => exact kept t.prepare_writesEvents
  | fetchRows => exact kept t.fetchRows_writesEvents
  | fetchCounted => exact kept t.fetchCounted_writesEvents
  | explain => exact kept t.explain_writesEvents
  | run objectRows =>
    obtain ⟨between, _, written⟩ := t.log_run objectRows s
    change ((t.run objectRows).run s).2.log.minimum = _
    rw [written, Log.minimum_write, Log.minimum_writeAll, Log.minimum_write]

theorem TableState.minimum_afterAll (s : TableState) (uses : List TableUse) :
    (s.afterAll uses).log.minimum = s.log.minimum := by
  induction uses generalizing s with
  | nil => rfl
  | cons use rest ih => rw [afterAll_cons, ih, TableUse.minimum_after]

end TableQuery
