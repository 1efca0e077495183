import TableQuery.Query.Filter

set_option autoImplicit false

namespace TableQuery

variable {α β : Type}

/-- The runs that are closed: all but the last. -/
def closedRuns (items : List (Connective × α)) : List (List α) := (runs items).dropLast

def openRun (items : List (Connective × α)) : List α := (runs items).getLast?.getD []

def joining : List (Connective × α) → List α
  | (.and, a) :: rest => a :: joining rest
  | _ => []

/-- The runs that items start after a run which is open before them. -/
def starting : List (Connective × α) → List (List α)
  | [] => []
  | (.and, _) :: rest => starting rest
  | (.or, a) :: rest => runsFrom [a] rest

theorem runsFrom_eq (opened : List α) (items : List (Connective × α)) :
    runsFrom opened items = (opened ++ joining items) :: starting items := by
  induction items generalizing opened with
  | nil => simp only [runsFrom, joining, starting, List.append_nil]
  | cons item rest ih =>
    obtain ⟨connective, a⟩ := item
    cases connective with
    | and => simp only [runsFrom, joining, starting, ih, List.append_assoc, List.singleton_append]
    | or => simp only [runsFrom, joining, starting, List.append_nil]

theorem runs_cons (item : Connective × α) (rest : List (Connective × α)) :
    runs (item :: rest) = (item.2 :: joining rest) :: starting rest :=
  runsFrom_eq [item.2] rest

theorem isEmpty_runs (items : List (Connective × α)) : (runs items).isEmpty = items.isEmpty := by
  cases items with
  | nil => rfl
  | cons item rest => simp only [runs_cons, List.isEmpty_cons]

theorem runs_ne_nil {items : List (Connective × α)} (some : items ≠ []) : runs items ≠ [] := by
  simpa only [ne_eq, ← List.isEmpty_iff, isEmpty_runs] using some

theorem closedRuns_append_openRun {items : List (Connective × α)} (some : items ≠ []) :
    closedRuns items ++ [openRun items] = runs items := by
  have present := runs_ne_nil some
  rw [closedRuns, openRun, List.getLast?_eq_some_getLast present, Option.getD_some]
  exact List.dropLast_concat_getLast present

/-- A list that grows: its closed runs stay, its open run is joined, and further runs may start. -/
theorem runs_append {items : List (Connective × α)} (some : items ≠ [])
    (added : List (Connective × α)) :
    runs (items ++ added) = closedRuns items ++ (openRun items ++ joining added) :: starting added := by
  -- The open run is all that a longer prefix leaves to decide, so the induction is on the prefix.
  have grows : ∀ (items : List (Connective × α)) (opened : List α),
      runsFrom opened (items ++ added) = (runsFrom opened items).dropLast ++
        ((runsFrom opened items).getLast?.getD [] ++ joining added) :: starting added := by
    intro items
    induction items with
    | nil => intro opened; exact runsFrom_eq opened added
    | cons item rest ih =>
      intro opened
      obtain ⟨connective, a⟩ := item
      cases connective with
      | and => exact ih (opened ++ [a])
      | or =>
        have present : runsFrom [a] rest ≠ [] := by rw [runsFrom_eq]; exact List.cons_ne_nil _ _
        simp only [List.cons_append, runsFrom, ih [a], List.dropLast_cons_of_ne_nil present,
          List.getLast?_cons_of_ne_nil present]
  cases items with
  | nil => exact absurd rfl some
  | cons item rest => exact grows rest [item.2]

theorem joining_and (items : List α) : joining (items.map (Connective.and, ·)) = items := by
  induction items with
  | nil => rfl
  | cons a rest ih => simp only [List.map_cons, joining, ih]

theorem starting_and (items : List α) : starting (items.map (Connective.and, ·)) = [] := by
  induction items with
  | nil => rfl
  | cons a rest ih => simpa only [List.map_cons, starting] using ih

/-- What is appended with "and" closes no run. -/
theorem closedRuns_append_and (items : List (Connective × α)) (added : List α) :
    closedRuns (items ++ added.map (Connective.and, ·)) = closedRuns items := by
  by_cases empty : items = []
  · subst empty
    cases added with
    | nil => rfl
    | cons a rest =>
      simp only [List.nil_append, List.map_cons, closedRuns, runs_cons, starting_and]
      rfl
  · rw [closedRuns, runs_append empty, starting_and, List.dropLast_concat]

theorem openRun_append_and (items : List (Connective × α)) (added : List α) :
    openRun (items ++ added.map (Connective.and, ·)) = openRun items ++ added := by
  by_cases empty : items = []
  · subst empty
    cases added with
    | nil => rfl
    | cons a rest =>
      simp only [List.nil_append, List.map_cons, openRun, runs_cons, starting_and, joining_and]
      rfl
  · rw [openRun, runs_append empty, starting_and, joining_and, List.getLast?_concat, Option.getD_some]

theorem starting_eq_nil_iff (items : List (Connective × α)) :
    starting items = [] ↔ ∀ item ∈ items, item.1 = .and := by
  induction items with
  | nil => simp only [starting, List.not_mem_nil, false_implies, implies_true]
  | cons item rest ih =>
    obtain ⟨connective, a⟩ := item
    cases connective with
    | and => simpa [starting] using ih
    | or => simp [starting, runsFrom_eq]

theorem closedRuns_eq_nil_iff (item : Connective × α) (rest : List (Connective × α)) :
    closedRuns (item :: rest) = [] ↔ ∀ other ∈ rest, other.1 = .and := by
  rw [closedRuns, runs_cons, ← starting_eq_nil_iff]
  cases starting rest with
  | nil => simp
  | cons run others => simp

/-- Each run of a list joins the run before the list, or starts after it. -/
theorem mem_joining_or_starting {items : List (Connective × α)} {run : List α} (member : run ∈ runs items) :
    run = joining items ∨ run ∈ starting items := by
  cases items with
  | nil => cases member
  | cons item rest =>
    obtain ⟨connective, a⟩ := item
    rw [runs_cons] at member
    cases connective with
    | and =>
      rw [joining, starting]
      exact List.mem_cons.mp member
    | or =>
      rw [starting, runsFrom_eq]
      exact Or.inr member

/-- Whatever comes before a list, its open run stays at the end of the open run. -/
theorem openRun_suffix (items added : List (Connective × α)) :
    openRun added <:+ openRun (items ++ added) := by
  by_cases empty : items = []
  · subst empty
    exact List.suffix_refl _
  · cases added with
    | nil => exact List.nil_suffix
    | cons item rest =>
      obtain ⟨connective, a⟩ := item
      rw [openRun, openRun, runs_append empty, runs_cons, List.getLast?_append, List.getLast?_cons,
        List.getLast?_cons, Option.some_or, Option.getD_some, Option.getD_some]
      cases connective with
      | and =>
        rw [joining, starting]
        cases (starting rest).getLast? with
        | none => exact List.suffix_append _ _
        | some run => exact List.suffix_refl _
      | or =>
        rw [starting, runsFrom_eq, List.getLast?_cons, Option.getD_some]
        exact List.suffix_refl _

theorem flatten_runsFrom (opened : List α) (items : List (Connective × α)) :
    (runsFrom opened items).flatten = opened ++ items.map (·.2) := by
  induction items generalizing opened with
  | nil => simp only [runsFrom, List.flatten_cons, List.flatten_nil, List.map_nil]
  | cons item rest ih =>
    obtain ⟨connective, a⟩ := item
    cases connective with
    | and => simp only [runsFrom, ih, List.map_cons, List.append_assoc, List.singleton_append]
    | or => simp only [runsFrom, List.flatten_cons, ih, List.map_cons, List.singleton_append]

/-- The runs of a list hold its items in their order. -/
theorem flatten_runs (items : List (Connective × α)) : (runs items).flatten = items.map (·.2) := by
  cases items with
  | nil => rfl
  | cons item rest => exact flatten_runsFrom [item.2] rest

theorem runsFrom_map (f : α → β) (opened : List α) (items : List (Connective × α)) :
    runsFrom (opened.map f) (items.map fun item => (item.1, f item.2)) =
      (runsFrom opened items).map (List.map f) := by
  induction items generalizing opened with
  | nil => rfl
  | cons item rest ih =>
    obtain ⟨connective, a⟩ := item
    cases connective with
    | and =>
      simpa only [runsFrom, List.map_append, List.map_cons, List.map_nil] using ih (opened ++ [a])
    | or => simpa only [runsFrom, List.map_cons, List.map_nil, List.cons.injEq, true_and] using ih [a]

theorem runs_map (f : α → β) (items : List (Connective × α)) :
    runs (items.map fun item => (item.1, f item.2)) = (runs items).map (List.map f) := by
  cases items with
  | nil => rfl
  | cons item rest => exact runsFrom_map f [item.2] rest

end TableQuery
