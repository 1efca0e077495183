import TableQuery.Proofs.Search.Predicate
import TableQuery.Proofs.Table.Stages

set_option autoImplicit false

namespace TableQuery

open Json (Value)

namespace Table

def contributed (t : Table) : List Filter := t.searcher.filters t.base t.request.globalSearches

def globalFilters (t : Table) : List Filter := (Searcher.anyOf t.contributed).toList

def columnFilters (t : Table) : List Filter := t.searcher.filters t.base t.request.columnSearches

/-- The filters of all searches of the request, in the order in which they are added. -/
def searchFilters (t : Table) : List Filter := t.globalFilters ++ t.columnFilters

/--
Whether a document satisfies the searches of the request: it meets the filter of some column that
contributes to the search for the keyword, if any does, and the filters of all searches in columns.
-/
def selects (t : Table) (document : Value) : Bool :=
  (t.contributed.isEmpty || t.contributed.any (Filter.meets document)) &&
    t.columnFilters.all (Filter.meets document)

/-- None of the searches that are registered for the searched columns fails. -/
def SearchesSucceed (t : Table) : Prop := t.searcher.Succeeds t.base t.request.searches

instance (t : Table) : Decidable t.SearchesSucceed :=
  inferInstanceAs (Decidable (t.searcher.Succeeds t.base t.request.searches))

/-- The caller filters, orders and cuts nothing. -/
structure Unhooked (t : Table) : Prop where
  filter : t.filterHook = none
  order : t.orderHook = none
  limit : t.limitHook = none
  search : t.globalSearch = true

theorem globalFilters_all (t : Table) (document : Value) :
    t.globalFilters.all (Filter.meets document) =
      (t.contributed.isEmpty || t.contributed.any (Filter.meets document)) := by
  unfold globalFilters Searcher.anyOf
  cases t.contributed with
  | nil => rfl
  | cons filter rest =>
    simp only [List.isEmpty_cons, Bool.false_eq_true, ↓reduceIte, Option.toList_some, List.all_cons,
      List.all_nil, Bool.and_true, Bool.false_or, Filter.meets_group_or]

/-- A document satisfies the searches where it meets all their filters. -/
theorem searchFilters_all (t : Table) (document : Value) :
    t.searchFilters.all (Filter.meets document) = t.selects document := by
  rw [searchFilters, List.all_append, globalFilters_all, selects]

theorem searchFilters_match_iff {t : Table} {document : Value} :
    (∀ filter ∈ t.searchFilters, filter.Matches document) ↔
      (∀ filter ∈ t.searchFilters, filter.Compiles) ∧ t.selects document = true := by
  rw [Filter.forall_matches_iff, searchFilters_all]

theorem globalOutcome_eq_ok_iff {t : Table} {q after : Query} (searched : t.globalSearch = true)
    (same : q.fresh = t.base.fresh) :
    t.globalOutcome q = .ok after ↔
      t.searcher.Succeeds t.base t.request.globalSearches ∧ q.requireAll t.globalFilters = after := by
  unfold globalOutcome globalFilters contributed Request.globalSearches
  rw [searched]
  cases t.request.tableKeyword? with
  | none =>
    simp only [Option.toList_none, List.flatMap_nil, Searcher.succeeds_nil, true_and]
    exact ⟨fun done => Except.ok.inj done ▸ Query.requireAll_nil q,
      fun done => done ▸ congrArg Except.ok (Query.requireAll_nil q).symm⟩
  | some keyword =>
    simp only [Option.toList_some, List.flatMap_singleton]
    exact Searcher.addGlobal_eq_ok_iff same

theorem columnOutcome_eq_ok_iff {t : Table} {index : Nat} {q after : Query}
    (same : q.fresh = t.base.fresh) :
    t.columnOutcome index q = .ok after ↔
      t.searcher.Adds t.base (t.request.columnSearchAt? index).toList q after := by
  have idle : (Except.ok q : Except TableError Query) = .ok after ↔ t.searcher.Adds t.base [] q after := by
    rw [Searcher.adds_nil_iff, Except.ok.injEq]
  unfold columnOutcome Request.columnSearchAt?
  split
  · cases t.request.fieldAt? index with
    | none => exact idle
    | some column =>
      cases t.request.keywordAt? index with
      | none => exact idle
      | some keyword =>
        exact @Searcher.addColumn_eq_ok_iff _ _ _ _ same ⟨column, keyword, t.request.isPatternAt index⟩
  · exact idle

theorem columnsOutcome_eq_ok_iff {t : Table} {positions : List Nat} {q after : Query}
    (same : q.fresh = t.base.fresh) :
    t.columnsOutcome positions q = .ok after ↔
      t.searcher.Adds t.base (positions.filterMap t.request.columnSearchAt?) q after := by
  rw [List.filterMap_eq_flatMap_toList]
  induction positions generalizing q with
  | nil => rw [columnsOutcome, List.flatMap_nil, Searcher.adds_nil_iff, Except.ok.injEq]
  | cons index rest ih =>
    rw [columnsOutcome, bind_eq_ok_iff, List.flatMap_cons, Searcher.adds_append_iff]
    simp only [columnOutcome_eq_ok_iff same]
    constructor
    · intro given
      obtain ⟨middle, first, later⟩ := given
      exact ⟨middle, first, (ih (first.fresh.trans same)).mp later⟩
    · intro given
      obtain ⟨middle, first, later⟩ := given
      exact ⟨middle, first, (ih (first.fresh.trans same)).mpr later⟩

/-- Without a filter hook, filtering a query requires the filters of all searches of the request. -/
theorem filterOutcome_unfiltered_eq_ok_iff {t : Table} (unfiltered : t.filterHook = none)
    (searching : t.globalSearch = true) {q after : Query} (same : q.fresh = t.base.fresh) :
    t.filterOutcome q = .ok after ↔ t.SearchesSucceed ∧ q.requireAll t.searchFilters = after := by
  have columns : (q.requireAll t.globalFilters).fresh = t.base.fresh := same
  unfold filterOutcome
  simp only [bind_eq_ok_iff, globalOutcome_eq_ok_iff searching same, unfiltered, hookOutcome,
    Except.ok.injEq]
  unfold SearchesSucceed searchFilters Request.searches
  rw [Searcher.succeeds_append_iff, Query.requireAll_append]
  constructor
  · intro given
    obtain ⟨_, ⟨succeeds, rfl⟩, _, rfl, searched⟩ := given
    obtain ⟨follows, done⟩ := (columnsOutcome_eq_ok_iff columns).mp searched
    exact ⟨⟨succeeds, follows⟩, done⟩
  · intro given
    obtain ⟨⟨succeeds, follows⟩, done⟩ := given
    exact ⟨_, ⟨succeeds, rfl⟩, _, rfl, (columnsOutcome_eq_ok_iff columns).mpr ⟨follows, done⟩⟩

theorem filterOutcome_eq_ok_iff {t : Table} (unhooked : t.Unhooked) {q after : Query}
    (same : q.fresh = t.base.fresh) :
    t.filterOutcome q = .ok after ↔ t.SearchesSucceed ∧ q.requireAll t.searchFilters = after :=
  filterOutcome_unfiltered_eq_ok_iff unhooked.filter unhooked.search same

theorem orderOutcome_eq {t : Table} (unhooked : t.Unhooked) (unordered : t.defaultOrder = []) (q : Query) :
    t.orderOutcome q = (t.rules.orderSteps t.request.fieldAt? t.request.applicableOrders).run q := by
  unfold orderOutcome
  rw [unhooked.order]
  cases t.request.applicableOrders with
  | nil =>
    rw [unordered, Query.orderByAll_nil]
    rfl
  | cons order rest => rfl

/-- Where own orders only append, ordering without a hook appends to the filter, if anything. -/
theorem orderOutcome_filter {t : Table} (unhooked : t.orderHook = none)
    (appends : t.rules.OrdersBy QueryEdit.AppendsClauses) {q ordered : Query}
    (orders : t.orderOutcome q = .ok ordered) :
    ∃ added, ordered.filter = q.filter ++ added ∧
      (t.rules.OrdersBy QueryEdit.PushesSorts → added = []) := by
  unfold orderOutcome at orders
  rw [unhooked] at orders
  cases asked : t.request.applicableOrders with
  | nil =>
    rw [asked] at orders
    cases orders
    exact ⟨[], (List.append_nil q.filter).symm, fun _ => rfl⟩
  | cons order rest =>
    rw [asked] at orders
    have steps := QueryEdit.run_eq_ok_iff.mp orders
    obtain ⟨added, grown⟩ := Rules.orderSteps_appendsClauses appends t.request.fieldAt? (order :: rest) q
    rw [steps] at grown
    refine ⟨added, grown, fun pushes => ?_⟩
    have kept := (Rules.orderSteps_pushesSorts pushes t.request.fieldAt? (order :: rest)).filter_eq q
    rw [steps] at kept
    exact List.self_eq_append_right.mp (kept.symm.trans grown)

end Table

end TableQuery
