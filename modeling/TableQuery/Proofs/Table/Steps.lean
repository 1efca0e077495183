import TableQuery.Proofs.Plan.Ordering
import TableQuery.Table.Prepare

set_option autoImplicit false

namespace TableQuery

namespace TableM

variable {α β : Type}

/-- A step runs on from a success, and a failure ends the run. -/
theorem run_bind (x : TableM α) (f : α → TableM β) (s : TableState) :
    (x >>= f).run.run s =
      match x.run.run s with
      | (.ok a, after) => (f a).run.run after
      | (.error e, after) => (.error e, after) := by
  change (ExceptT.bind x f) s = _
  simp only [ExceptT.bind, ExceptT.mk, bind, StateT.bind, ExceptT.bindCont]
  rcases same : x s with ⟨_ | a, after⟩
  · simp only [ExceptT.run, StateT.run, same]
    rfl
  · simp only [ExceptT.run, StateT.run, same]

theorem run_bind_of_ok {x : TableM α} {f : α → TableM β} {s after : TableState} {a : α}
    (first : x.run.run s = (.ok a, after)) : (x >>= f).run.run s = (f a).run.run after := by
  rw [run_bind, first]

theorem run_bind_of_error {x : TableM α} {f : α → TableM β} {s after : TableState} {e : TableError}
    (first : x.run.run s = (.error e, after)) : (x >>= f).run.run s = (.error e, after) := by
  rw [run_bind, first]

theorem fst_run_eq_ok_iff {x : TableM α} {s : TableState} {a : α} :
    (x.run.run s).1 = .ok a ↔ ∃ last, x.run.run s = (.ok a, last) := by
  constructor
  · intro done
    exact ⟨(x.run.run s).2, Prod.ext done rfl⟩
  · intro given
    obtain ⟨last, done⟩ := given
    rw [done]

theorem exists_run_of_isOk {x : TableM α} {s : TableState} (ok : (x.run.run s).1.isOk = true) :
    ∃ a last, x.run.run s = (.ok a, last) := by
  obtain ⟨a, done⟩ := isOk_iff.mp ok
  exact ⟨a, fst_run_eq_ok_iff.mp done⟩

theorem run_get_bind (f : TableState → TableM β) (s : TableState) :
    (get >>= f).run.run s = (f s).run.run s := rfl

theorem run_set_bind (after : TableState) (f : PUnit → TableM β) (s : TableState) :
    (set after >>= f).run.run s = (f ⟨⟩).run.run after := rfl

theorem run_lift (outcome : Except TableError α) (s : TableState) :
    (lift outcome).run.run s = (outcome, s) := by
  cases outcome with
  | error e => rfl
  | ok a => rfl

/-- Whatever the state, the step comes to this outcome, and all it leaves behind is log entries. -/
def Yields (x : TableM α) (outcome : Except TableError α) : Prop :=
  ∃ entries, ∀ s : TableState, x.run.run s = (outcome, { s with log := s.log.writeAll entries })

theorem yields_pure (a : α) : (pure a : TableM α).Yields (.ok a) := ⟨[], fun _ => rfl⟩

theorem yields_log (entry : LogEntry) : (log entry).Yields (.ok ()) := ⟨[entry], fun _ => rfl⟩

theorem yields_lift (outcome : Except TableError α) : (lift outcome).Yields outcome :=
  ⟨[], run_lift outcome⟩

theorem Yields.bind_ok {x : TableM α} {f : α → TableM β} {a : α} {outcome : Except TableError β}
    (yields : x.Yields (.ok a)) (continues : (f a).Yields outcome) : (x >>= f).Yields outcome := by
  obtain ⟨entries, runs⟩ := yields
  obtain ⟨more, later⟩ := continues
  refine ⟨entries ++ more, fun s => ?_⟩
  rw [run_bind_of_ok (runs s), later, Log.writeAll_append]

theorem Yields.bind {x : TableM α} {f : α → TableM β} {first : Except TableError α}
    {next : α → Except TableError β} (yields : x.Yields first) (continues : ∀ a, (f a).Yields (next a)) :
    (x >>= f).Yields (first >>= next) := by
  cases first with
  | error e =>
    obtain ⟨entries, runs⟩ := yields
    exact ⟨entries, fun s => run_bind_of_error (runs s)⟩
  | ok a => exact yields.bind_ok (continues a)

/--
After these calls the step comes to this outcome, whatever the plan and the log. It asks the store to
count these queries and leaves no other trace but log entries.
-/
def Asks (x : TableM α) (calls : List StoreCall) (outcome : Except TableError α) (asked : List Query) :
    Prop :=
  ∃ entries, ∀ plan log, x.run.run ⟨plan, calls, log⟩ =
    (outcome, ⟨plan, calls ++ asked.map StoreCall.count, log.writeAll entries⟩)

theorem Yields.asks {x : TableM α} {outcome : Except TableError α} (yields : x.Yields outcome)
    (calls : List StoreCall) : x.Asks calls outcome [] := by
  obtain ⟨entries, runs⟩ := yields
  refine ⟨entries, fun plan log => ?_⟩
  rw [List.map_nil, List.append_nil, runs]

def followUp (first : Except TableError α) (more : α → List Query) : List Query :=
  match first with
  | .ok a => more a
  | .error _ => []

theorem followUp_nil (first : Except TableError α) : followUp first (fun _ => []) = [] := by
  cases first with
  | error e => rfl
  | ok a => rfl

/-- What a step has found may be a part of its result, next to what it has rendered. -/
theorem Asks.bind {γ : Type} {x : TableM γ} {f : γ → TableM β} {g : α → γ} {calls : List StoreCall}
    {asked : List Query} {first : Except TableError α} {next : α → Except TableError β}
    {more : α → List Query} (asks : x.Asks calls (first.map g) asked)
    (continues : ∀ a, (f (g a)).Asks (calls ++ asked.map StoreCall.count) (next a) (more a)) :
    (x >>= f).Asks calls (first >>= next) (asked ++ followUp first more) := by
  obtain ⟨entries, runs⟩ := asks
  cases first with
  | error e =>
    refine ⟨entries, fun plan log => ?_⟩
    rw [followUp, List.append_nil]
    exact run_bind_of_error (runs plan log)
  | ok a =>
    obtain ⟨later, runsOn⟩ := continues a
    refine ⟨entries ++ later, fun plan log => ?_⟩
    rw [run_bind_of_ok (runs plan log), runsOn, followUp, List.map_append, List.append_assoc,
      Log.writeAll_append]
    rfl

/-- Steps that leave nothing but log entries ask for no more. -/
theorem Asks.bind_yields {γ : Type} {x : TableM γ} {f : γ → TableM β} {g : α → γ}
    {calls : List StoreCall} {asked : List Query} {first : Except TableError α}
    {next : α → Except TableError β} (asks : x.Asks calls (first.map g) asked)
    (continues : ∀ a, (f (g a)).Yields (next a)) : (x >>= f).Asks calls (first >>= next) asked := by
  have all := asks.bind fun a => (continues a).asks _
  rwa [followUp_nil, List.append_nil] at all

theorem Yields.bind_asks {x : TableM α} {f : α → TableM β} {calls : List StoreCall}
    {first : Except TableError α} {next : α → Except TableError β} {more : α → List Query}
    (yields : x.Yields first) (continues : ∀ a, (f a).Asks calls (next a) (more a)) :
    (x >>= f).Asks calls (first >>= next) (followUp first more) := by
  have whole : first.map id = first := by
    cases first with
    | error e => rfl
    | ok a => rfl
  rw [← whole] at yields
  exact (yields.asks calls).bind fun a => by
    rw [List.map_nil, List.append_nil]
    exact continues a

end TableM

end TableQuery
