import TableQuery.Proofs.Table.Preparation
import TableQuery.Proofs.Table.Search

set_option autoImplicit false

/- The hook appends its clauses to the query itself, after the filter of the global search and before those of
the searches in columns. An "or" in it therefore closes a run that the searches in columns no longer reach,
and starts one that the global search does not reach. -/
namespace TableQuery

open Json (Value)

namespace Table

def front (t : Table) (own : Clauses) : Clauses := t.globalFilters.map (Connective.and, ·) ++ own

/-- Whether a document meets the global search, the clauses of the hook as one group, and the searches
in columns. -/
def selectsWith (t : Table) (own : Clauses) (document : Value) : Bool :=
  t.globalFilters.all (Filter.meets document) && (Filter.group own).meets document &&
    t.columnFilters.all (Filter.meets document)

theorem selectsWith_eq_true_iff {t : Table} {own : Clauses} {document : Value} :
    t.selectsWith own document = true ↔
      t.globalFilters.all (Filter.meets document) = true ∧ (Filter.group own).meets document = true ∧
        t.columnFilters.all (Filter.meets document) = true := by
  rw [selectsWith, Bool.and_eq_true, Bool.and_eq_true, and_assoc]

theorem match_with_iff (t : Table) (own : Clauses) (document : Value) :
    ((∀ filter ∈ t.globalFilters, filter.Matches document) ∧ (Filter.group own).Matches document ∧
        ∀ filter ∈ t.columnFilters, filter.Matches document) ↔
      (Filter.group (t.front own ++ t.columnFilters.map (Connective.and, ·))).Compiles ∧
        t.selectsWith own document = true := by
  rw [Filter.forall_matches_iff, Filter.forall_matches_iff, Filter.matches_iff, front,
    Filter.compiles_append_iff, Filter.compiles_append_iff, Filter.compiles_group_map,
    Filter.compiles_group_map, selectsWith_eq_true_iff]
  constructor
  · intro given
    obtain ⟨⟨first, globals⟩, ⟨second, hook⟩, third, columns⟩ := given
    exact ⟨⟨⟨first, second⟩, third⟩, globals, hook, columns⟩
  · intro given
    obtain ⟨⟨⟨first, second⟩, third⟩, globals, hook, columns⟩ := given
    exact ⟨⟨first, globals⟩, ⟨second, hook⟩, third, columns⟩

theorem meets_front_of_selectsWith {t : Table} {own : Clauses} {document : Value}
    (selected : t.selectsWith own document = true) :
    (Filter.group (t.front own)).meets document = true := by
  obtain ⟨globals, hook, _⟩ := selectsWith_eq_true_iff.mp selected
  exact Filter.meets_and_append_group globals hook

theorem filterOutcome_hooked {t : Table} (searched : t.globalSearch = true) {hook : QueryEdit}
    (hooked : t.filterHook = some hook) {own : Clauses} (appends : hook.Appends own) {q after : Query}
    (same : q.fresh = t.base.fresh) (done : t.filterOutcome q = .ok after) :
    after.filter = q.filter ++ t.front own ++ t.columnFilters.map (Connective.and, ·) := by
  unfold filterOutcome at done
  obtain ⟨first, globals, done⟩ := bind_eq_ok_iff.mp done
  obtain ⟨_, rfl⟩ := (globalOutcome_eq_ok_iff searched same).mp globals
  obtain ⟨middle, hooks, columns⟩ := bind_eq_ok_iff.mp done
  rw [hooked, hookOutcome, QueryEdit.run_eq_ok_iff] at hooks
  obtain ⟨grown, stays⟩ := appends (q.requireAll t.globalFilters)
  rw [hooks] at grown stays
  have fresh : middle.fresh = t.base.fresh := by
    rw [← same, Query.fresh, stays]
    rfl
  obtain ⟨_, rfl⟩ := (columnsOutcome_eq_ok_iff fresh).mp columns
  rw [Query.requireAll, Query.append, grown, Query.requireAll, Query.append, front, ← List.append_assoc]
  rfl

theorem prepared_filter_hooked {t : Table} (unhooked : t.Unhooked) (empty : t.base.filter = [])
    (pushes : t.rules.OrdersBy QueryEdit.PushesSorts) {hook : QueryEdit} {own : Clauses}
    (appends : hook.Appends own) {s after : TableState} (unused : s.plan = (t.filter hook true).initialPlan)
    (success : (t.filter hook true).prepare.run.run s = (.ok (), after)) :
    after.plan.query.filter = t.front own ++ t.columnFilters.map (Connective.and, ·) := by
  obtain ⟨searched, ordered, stages⟩ := prepare_of_unused unused success
  have filtered := filterOutcome_hooked (t := t.filter hook true) rfl rfl appends rfl stages.filters
  obtain ⟨added, grown, kept⟩ := orderOutcome_filter unhooked.order pushes.appendsClauses stages.orders
  rw [pageOutcome_filter unhooked.limit stages.pages, grown, kept pushes, List.append_nil, filtered]
  change t.base.filter ++ t.front own ++ _ = _
  rw [empty, List.nil_append]
  rfl

/--
What a hook between the searches comes to. A document that matches the global search, the clauses of the
hook and the searches in columns always matches the prepared query. The converse holds exactly where a
document that meets a run which the hook has closed satisfies all three, and one that meets the open run
and the searches in columns satisfies the global search.
-/
theorem hooked_matches_iff {t : Table} (unhooked : t.Unhooked) (empty : t.base.filter = [])
    (pushes : t.rules.OrdersBy QueryEdit.PushesSorts) {hook : QueryEdit} {own : Clauses}
    (appends : hook.Appends own) {s after : TableState} (unused : s.plan = (t.filter hook true).initialPlan)
    (success : (t.filter hook true).prepare.run.run s = (.ok (), after)) (document : Value) :
    ((∀ filter ∈ t.globalFilters, filter.Matches document) ∧ (Filter.group own).Matches document ∧
        (∀ filter ∈ t.columnFilters, filter.Matches document) →
      (Filter.group after.plan.query.filter).Matches document) ∧
    (((Filter.group after.plan.query.filter).Matches document →
        (∀ filter ∈ t.globalFilters, filter.Matches document) ∧ (Filter.group own).Matches document ∧
          ∀ filter ∈ t.columnFilters, filter.Matches document) ↔
      ((Filter.group after.plan.query.filter).Compiles →
        (Filter.meetsClosed document (t.front own) = true → t.selectsWith own document = true) ∧
        (Filter.meetsOpen document (t.front own) = true →
          t.columnFilters.all (Filter.meets document) = true →
          t.globalFilters.all (Filter.meets document) = true))) := by
  have grown := prepared_filter_hooked unhooked empty pushes appends unused success
  have met : (Filter.group after.plan.query.filter).meets document =
      (Filter.meetsClosed document (t.front own) ||
        Filter.meetsOpen document (t.front own) && t.columnFilters.all (Filter.meets document)) := by
    rw [grown, Filter.meets_group_append_and]
  have wanted := t.match_with_iff own document
  rw [← grown] at wanted
  rw [wanted, Filter.matches_iff]
  refine ⟨?_, ?_, ?_⟩
  · intro given
    obtain ⟨compiles, selected⟩ := given
    refine ⟨compiles, ?_⟩
    rw [met, (selectsWith_eq_true_iff.mp selected).2.2, Bool.and_true, ← Filter.meets_group_eq]
    exact meets_front_of_selectsWith selected
  · intro sound compiles
    constructor
    · intro closed
      exact (sound ⟨compiles, by rw [met, closed, Bool.true_or]⟩).2
    · intro opened columns
      have selected := (sound ⟨compiles, by rw [met, opened, columns, Bool.and_self, Bool.or_true]⟩).2
      exact (selectsWith_eq_true_iff.mp selected).1
  · intro bounded matched
    obtain ⟨compiles, inside⟩ := matched
    refine ⟨compiles, ?_⟩
    rw [met, Bool.or_eq_true, Bool.and_eq_true] at inside
    rcases inside with closed | ⟨opened, columns⟩
    · exact (bounded compiles).1 closed
    · have globals := (bounded compiles).2 opened columns
      exact selectsWith_eq_true_iff.mpr ⟨globals, Filter.meets_group_of_meetsOpen opened, columns⟩

set_option maxRecDepth 100000 in
theorem hooked_matches_of_young :
    let r : Request :=
      { columns := [{ data := some "name" }, { data := some "team" }], search := { value := "jan" } }
    let t := Table.ofCollection ⟨"docs", []⟩ r
    let young : Filter := .compare "age" .lt (.int 30)
    let hook : QueryEdit := .pure (·.push .and young)
    t.Unhooked ∧ t.base.filter = [] ∧ t.rules.OrdersBy QueryEdit.PushesSorts ∧
      hook.Appends [(.and, young)] ∧ ∃ after,
        (t.filter hook true).prepare.run.run { plan := (t.filter hook true).initialPlan } = (.ok (), after) ∧
          ∀ document, (Filter.group after.plan.query.filter).Matches document →
            (∀ filter ∈ t.globalFilters, filter.Matches document) ∧
              (Filter.group [(.and, young)]).Matches document ∧
              ∀ filter ∈ t.columnFilters, filter.Matches document := by
  intro r t young hook
  have unhooked : t.Unhooked := ⟨rfl, rfl, rfl, rfl⟩
  have pushes := Rules.withDefaultExclusions_unordered.ordersBy QueryEdit.PushesSorts
  have appends : hook.Appends [(.and, young)] := fun q => ⟨rfl, rfl⟩
  have prepares : ((t.filter hook true).prepare.run.run
      { plan := (t.filter hook true).initialPlan }).1.isOk = true := by decide +kernel
  obtain ⟨_, after, success⟩ := TableM.exists_run_of_isOk prepares
  refine ⟨unhooked, rfl, pushes, appends, after, success, fun document => ?_⟩
  obtain ⟨_, sound⟩ := hooked_matches_iff unhooked rfl pushes appends rfl success document
  have joined : t.front [(.and, young)] = [] ++ (t.globalFilters ++ [young]).map (Connective.and, ·) := by
    rw [front, List.nil_append, List.map_append]
    rfl
  refine sound.mpr fun _ => ⟨fun closed => ?_, fun opened _ => ?_⟩
  · rw [joined, Filter.meetsClosed_append_and] at closed
    cases closed
  · rw [joined, Filter.meetsOpen_append_and, List.all_append, Bool.and_eq_true, Bool.and_eq_true] at opened
    exact opened.2.1

set_option maxRecDepth 100000 in
/-- An "or" in the hook lets Bob of the growth team through a search for "ann". -/
theorem hook_escaped_by_or :
    let bob : Value := .object [("name", .string "Bob"), ("team", .string "growth")]
    let r : Request :=
      { columns := [{ data := some "name" }, { data := some "team" }], search := { value := "ann" } }
    let hook : QueryEdit := .pure (·.push .or (.compare "team" .eq (.string "growth")))
    let t := (Table.ofCollection ⟨"docs", [bob]⟩ r).filter hook true
    let prepared := t.prepare.run.run { plan := t.initialPlan }
    prepared.1.isOk = true ∧ (Filter.group prepared.2.plan.query.filter).Matches bob ∧
      ∃ filter ∈ t.globalFilters, ¬ filter.Matches bob := by
  decide +kernel

end Table

end TableQuery
