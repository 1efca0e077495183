import TableQuery.Proofs.Table.Preparation
import TableQuery.Proofs.Table.Search

set_option autoImplicit false

namespace TableQuery

open Json (Value)

namespace Table

theorem prepared_filter {t : Table} (unhooked : t.Unhooked)
    (appends : t.rules.OrdersBy QueryEdit.AppendsClauses) {s after : TableState}
    (unused : s.plan = t.initialPlan) (success : t.prepare.run.run s = (.ok (), after)) :
    ∃ added, after.plan.query.filter = t.base.filter ++ t.searchFilters.map (Connective.and, ·) ++ added ∧
      (t.rules.OrdersBy QueryEdit.PushesSorts → added = []) := by
  obtain ⟨searched, ordered, stages⟩ := prepare_of_unused unused success
  obtain ⟨_, rfl⟩ := (filterOutcome_eq_ok_iff unhooked rfl).mp stages.filters
  obtain ⟨added, grown, kept⟩ := orderOutcome_filter unhooked.order appends stages.orders
  refine ⟨added, ?_, kept⟩
  rw [pageOutcome_filter unhooked.limit stages.pages, grown]
  rfl

/--
Without hooks, what a prepared table matches satisfies the searches exactly where nothing is let in that
the searches do not reach: no document that fails them meets a closed run of the query before them, nor
a run that an own order starts after them.
-/
theorem prepared_satisfies_searches_iff {t : Table} (unhooked : t.Unhooked)
    (appends : t.rules.OrdersBy QueryEdit.AppendsClauses) {s after : TableState}
    (unused : s.plan = t.initialPlan) (success : t.prepare.run.run s = (.ok (), after)) :
    ∃ added, after.plan.query.filter = t.base.filter ++ t.searchFilters.map (Connective.and, ·) ++ added ∧
      (t.rules.OrdersBy QueryEdit.PushesSorts → added = []) ∧
      ((∀ document, (Filter.group after.plan.query.filter).Matches document →
          ∀ filter ∈ t.searchFilters, filter.Matches document) ↔
        ((Filter.group after.plan.query.filter).Compiles → ∀ document,
          Filter.meetsClosed document t.base.filter = true ∨ Filter.meetsStarted document added = true →
            t.selects document = true)) := by
  obtain ⟨added, grown, kept⟩ := prepared_filter unhooked appends unused success
  refine ⟨added, grown, kept, ?_⟩
  have required : (Filter.group after.plan.query.filter).Compiles →
      ∀ filter ∈ t.searchFilters, filter.Compiles := by
    intro compiles
    rw [grown, Filter.compiles_append_iff, Filter.compiles_append_iff, Filter.compiles_group_map] at compiles
    exact compiles.1.2
  -- A document that fails the searches can only be let in where they are not asked for.
  have reached (document : Value) : t.selects document = false →
      (Filter.group after.plan.query.filter).meets document =
        (Filter.meetsClosed document t.base.filter || Filter.meetsStarted document added) := by
    intro unmet
    rw [← searchFilters_all] at unmet
    rw [grown, Filter.meets_of_unmet unmet]
  constructor
  · intro sound compiles document outside
    by_contra unmet
    rw [Bool.not_eq_true] at unmet
    rw [← Bool.or_eq_true, ← reached document unmet] at outside
    have selected := sound document (Filter.matches_iff.mpr ⟨compiles, outside⟩)
    rw [(searchFilters_match_iff.mp selected).2] at unmet
    cases unmet
  · intro bounded document matched
    obtain ⟨compiles, met⟩ := Filter.matches_iff.mp matched
    refine searchFilters_match_iff.mpr ⟨required compiles, ?_⟩
    by_contra unmet
    rw [Bool.not_eq_true] at unmet
    rw [reached document unmet, Bool.or_eq_true] at met
    rw [bounded compiles document met] at unmet
    cases unmet

set_option maxRecDepth 100000 in
theorem prepared_satisfies_searches_of_team :
    let base : Query := { collection := "docs", filter := [(.and, .compare "team" .eq (.string "core"))] }
    let r : Request :=
      { columns := [{ data := some "name" }, { data := some "team" }], search := { value := "ann" } }
    let t := Table.new (Collection.store ⟨"docs", []⟩) base r
    t.Unhooked ∧ t.rules.OrdersBy QueryEdit.AppendsClauses ∧ ∃ after,
      t.prepare.run.run { plan := t.initialPlan } = (.ok (), after) ∧
        ∀ document, (Filter.group after.plan.query.filter).Matches document →
          ∀ filter ∈ t.searchFilters, filter.Matches document := by
  intro base r t
  have unhooked : t.Unhooked := ⟨rfl, rfl, rfl, rfl⟩
  have kinds := Rules.withDefaultExclusions_unordered.ordersBy
  have prepares : (t.prepare.run.run { plan := t.initialPlan }).1.isOk = true := by decide +kernel
  obtain ⟨_, after, success⟩ := TableM.exists_run_of_isOk prepares
  obtain ⟨added, _, kept, sound⟩ := prepared_satisfies_searches_iff unhooked (kinds _) rfl success
  refine ⟨unhooked, kinds _, after, success, sound.mpr fun _ document outside => ?_⟩
  rw [kept (kinds _)] at outside
  rcases outside with closed | started
  · cases closed
  · cases started

set_option maxRecDepth 100000 in
/-- An "or" in the query of the caller lets Bob through a search for "ann". -/
theorem search_escaped_by_or :
    let bob : Value := .object [("name", .string "Bob"), ("team", .string "core")]
    let base : Query :=
      { collection := "docs"
        filter := [(.and, .compare "team" .eq (.string "core")),
          (.or, .compare "team" .eq (.string "growth"))] }
    let r : Request :=
      { columns := [{ data := some "name" }, { data := some "team" }], search := { value := "ann" } }
    let t := Table.new (Collection.store ⟨"docs", [bob]⟩) base r
    let prepared := t.prepare.run.run { plan := t.initialPlan }
    t.Unhooked ∧ prepared.1.isOk = true ∧ (Filter.group prepared.2.plan.query.filter).Matches bob ∧
      ∃ filter ∈ t.searchFilters, ¬ filter.Matches bob := by
  intro bob base r t prepared
  refine ⟨⟨rfl, rfl, rfl, rfl⟩, ?_⟩
  decide +kernel

theorem meets_searched (t : Table) (document : Value) :
    (Filter.group (t.base.requireAll t.searchFilters).filter).meets document =
      (Filter.meetsClosed document t.base.filter ||
        Filter.meetsOpen document t.base.filter && t.selects document) := by
  rw [Query.requireAll, Query.append, Filter.meets_group_append_and, searchFilters_all]

theorem meets_of_meets_searched {t : Table} {document : Value}
    (met : (Filter.group (t.base.requireAll t.searchFilters).filter).meets document = true) :
    (Filter.group t.base.filter).meets document = true := by
  rw [meets_searched] at met
  rw [Filter.meets_group_eq]
  cases closed : Filter.meetsClosed document t.base.filter with
  | true => rfl
  | false =>
    rw [closed, Bool.false_or, Bool.and_eq_true] at met
    rw [met.1, Bool.or_true]

theorem prepared_satisfies_searches {t : Table} (unhooked : t.Unhooked)
    (pushes : t.rules.OrdersBy QueryEdit.PushesSorts) (plain : ∀ clause ∈ t.base.filter.tail, clause.1 = .and)
    {s after : TableState} (unused : s.plan = t.initialPlan)
    (success : t.prepare.run.run s = (.ok (), after)) {document : Value}
    (matched : (Filter.group after.plan.query.filter).Matches document) :
    ∀ filter ∈ t.searchFilters, filter.Matches document := by
  obtain ⟨added, grown, kept⟩ := prepared_filter unhooked pushes.appendsClauses unused success
  rw [grown, kept pushes, List.append_nil] at matched
  obtain ⟨compiles, met⟩ := Filter.matches_iff.mp matched
  rw [Filter.compiles_append_iff, Filter.compiles_group_map] at compiles
  have inside : (Filter.group (t.base.requireAll t.searchFilters).filter).meets document = true := met
  rw [meets_searched, Filter.meetsClosed_of_and plain, Bool.false_or, Bool.and_eq_true] at inside
  exact searchFilters_match_iff.mpr ⟨compiles.2, inside.2⟩

theorem filtered_le_total {t : Table} {c : Collection} (unhooked : t.Unhooked) (stored : t.store = c.store)
    (uncounted : t.totalOverride = none) (unfiltered : t.filteredOverride = none)
    {searched ordered : Query} {done : Plan}
    (stages : t.Preparation t.initialPlan searched ordered done) :
    ∃ total filtered, done.total = some total ∧ done.filtered = some filtered ∧ filtered ≤ total := by
  obtain ⟨filters, _, _, before, between, total, n, found, counted, totals, counts⟩ := stages
  obtain ⟨_, rfl⟩ := (filterOutcome_eq_ok_iff unhooked rfl).mp filters
  rw [filteredOutcome_eq_count stored unfiltered uncounted found ⟨_, rfl⟩] at counted
  cases skipped : t.skipTotal with
  -- A total that is not counted is set to the filtered count.
  | true =>
    rw [skipped] at totals
    exact ⟨n, n, totals, counts, Nat.le_refl n⟩
  | false =>
    unfold totalOutcome initialPlan at found
    rw [uncounted, skipped, stored] at found
    obtain ⟨m, all, rfl⟩ := map_eq_ok_iff.mp found
    rw [skipped] at totals
    exact ⟨m, n, totals, counts, Collection.count_le counted all fun _ => meets_of_meets_searched⟩

/--
Without hooks and without own orders, a search lets in nothing that the query of the caller leaves out,
and leaves out nothing that meets both; over a collection the filtered count is at most the total.
-/
theorem prepared_between {t : Table} (unhooked : t.Unhooked) (unordered : t.rules.Unordered)
    {s after : TableState} (unused : s.plan = t.initialPlan)
    (success : t.prepare.run.run s = (.ok (), after)) :
    (∀ document, (Filter.group after.plan.query.filter).Matches document →
      (Filter.group t.base.filter).Matches document) ∧
    (∀ document, (Filter.group t.base.filter).Matches document →
      (∀ filter ∈ t.searchFilters, filter.Matches document) →
      (Filter.group after.plan.query.filter).Matches document) ∧
    ∀ c : Collection, t.store = c.store → t.totalOverride = none → t.filteredOverride = none →
      ∃ total filtered, after.plan.total = some total ∧ after.plan.filtered = some filtered ∧
        filtered ≤ total := by
  obtain ⟨added, grown, kept⟩ := prepared_filter unhooked (unordered.ordersBy _) unused success
  rw [kept (unordered.ordersBy _), List.append_nil] at grown
  have compiles : (Filter.group after.plan.query.filter).Compiles ↔
      (Filter.group t.base.filter).Compiles ∧ ∀ filter ∈ t.searchFilters, filter.Compiles := by
    rw [grown, Filter.compiles_append_iff, Filter.compiles_group_map]
  refine ⟨?_, ?_, ?_⟩
  · intro document matched
    obtain ⟨all, inside⟩ := Filter.matches_iff.mp matched
    rw [grown] at inside
    exact Filter.matches_iff.mpr ⟨(compiles.mp all).1, meets_of_meets_searched inside⟩
  · intro document matched satisfied
    obtain ⟨first, inside⟩ := Filter.matches_iff.mp matched
    obtain ⟨later, selected⟩ := searchFilters_match_iff.mp satisfied
    refine Filter.matches_iff.mpr ⟨compiles.mpr ⟨first, later⟩, ?_⟩
    have met := t.meets_searched document
    rw [selected, Bool.and_true, ← Filter.meets_group_eq, inside] at met
    rw [grown]
    exact met
  · intro c stored uncounted unfiltered
    obtain ⟨searched, ordered, stages⟩ := prepare_of_unused unused success
    exact filtered_le_total unhooked stored uncounted unfiltered stages

set_option maxRecDepth 100000 in
theorem prepared_between_of_teams :
    let bob : Value := .object [("name", .string "Bob"), ("team", .string "core")]
    let ann : Value := .object [("name", .string "Ann"), ("team", .string "growth")]
    let base : Query :=
      { collection := "docs"
        filter := [(.and, .compare "team" .eq (.string "core")),
          (.or, .compare "team" .eq (.string "growth"))] }
    let r : Request :=
      { columns := [{ data := some "name" }, { data := some "team" }], search := { value := "ann" } }
    let c : Collection := ⟨"docs", [bob, ann]⟩
    let t := Table.new c.store base r
    t.Unhooked ∧ t.rules.Unordered ∧ ∃ after,
      t.prepare.run.run { plan := t.initialPlan } = (.ok (), after) ∧
        (Filter.group after.plan.query.filter).Matches ann ∧
        ∃ total filtered, after.plan.total = some total ∧ after.plan.filtered = some filtered ∧
          filtered ≤ total := by
  intro bob ann base r c t
  have unhooked : t.Unhooked := ⟨rfl, rfl, rfl, rfl⟩
  have prepares : (t.prepare.run.run { plan := t.initialPlan }).1.isOk = true := by decide +kernel
  obtain ⟨_, after, success⟩ := TableM.exists_run_of_isOk prepares
  obtain ⟨_, kept, counts⟩ :=
    prepared_between unhooked Rules.withDefaultExclusions_unordered rfl success
  have based : (Filter.group t.base.filter).Matches ann := by decide +kernel
  have found : ∀ filter ∈ t.searchFilters, filter.Matches ann := by decide +kernel
  exact ⟨unhooked, Rules.withDefaultExclusions_unordered, after, success, kept ann based found,
    counts c rfl rfl rfl⟩

end Table

end TableQuery
