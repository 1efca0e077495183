import TableQuery.Proofs.Filter.Meaning
import TableQuery.Request.Basic

set_option autoImplicit false

namespace TableQuery

open Json (Value)

/-- A search in one column; under `regex` the keyword is itself the pattern. -/
structure ColumnSearch where
  column : String
  keyword : String
  regex : Bool
  deriving DecidableEq, Repr, Inhabited

namespace Request

/-- The searches for the keyword of the request, one in each searchable column that has a field. -/
def globalSearches (r : Request) : List ColumnSearch :=
  r.tableKeyword?.toList.flatMap fun keyword =>
    (r.searchablePositions.filterMap r.fieldAt?).map (⟨·, keyword, false⟩)

def columnSearchAt? (r : Request) (index : Nat) : Option ColumnSearch :=
  if r.isSearchedAt index then
    match r.fieldAt? index, r.keywordAt? index with
    | some column, some keyword => some ⟨column, keyword, r.isPatternAt index⟩
    | _, _ => none
  else none

def columnSearches (r : Request) : List ColumnSearch :=
  (List.range r.columns.length).filterMap r.columnSearchAt?

def searches (r : Request) : List ColumnSearch := r.globalSearches ++ r.columnSearches

end Request

namespace Searcher

/-- The filter of a search, if it has one, or the failure of the search registered for the column. -/
def filterOf (s : Searcher) (base : Query) (search : ColumnSearch) : Except TableError (Option Filter) :=
  s.column base search.column search.keyword search.regex

/-- None of the searches that are registered for these columns fails. -/
def Succeeds (s : Searcher) (base : Query) (searches : List ColumnSearch) : Prop :=
  ∀ search ∈ searches, ∀ edit, s.rules.searchEdit? search.column search.keyword = some edit →
    (edit base.fresh).2 = none

instance (s : Searcher) (base : Query) (searches : List ColumnSearch) :
    Decidable (s.Succeeds base searches) :=
  decidable_of_iff (∀ search ∈ searches, (s.rules.searchEdit? search.column search.keyword).all
    (fun edit => (edit base.fresh).2.isNone) = true) (by
      simp only [Option.all_eq_true, Option.isNone_iff_eq_none, Succeeds])

/-- The filter of a search that does not fail, if it has one. -/
def filterOf? (s : Searcher) (base : Query) (search : ColumnSearch) : Option Filter :=
  (s.filterOf base search).toOption.join

def filters (s : Searcher) (base : Query) (searches : List ColumnSearch) : List Filter :=
  searches.filterMap (s.filterOf? base)

/-- The searches in columns succeed, and requiring their filters takes one query to the next. -/
def Adds (s : Searcher) (base : Query) (searches : List ColumnSearch) (q after : Query) : Prop :=
  s.Succeeds base searches ∧ q.requireAll (s.filters base searches) = after

def anyOf (filters : List Filter) : Option Filter :=
  if filters.isEmpty then none else some (.group (filters.map (Connective.or, ·)))

theorem succeeds_nil (s : Searcher) (base : Query) : s.Succeeds base [] := by
  intro search member
  cases member

theorem succeeds_cons_iff {s : Searcher} {base : Query} {search : ColumnSearch}
    {rest : List ColumnSearch} :
    s.Succeeds base (search :: rest) ↔
      (∀ edit, s.rules.searchEdit? search.column search.keyword = some edit →
        (edit base.fresh).2 = none) ∧ s.Succeeds base rest := List.forall_mem_cons

theorem succeeds_append_iff {s : Searcher} {base : Query} {first later : List ColumnSearch} :
    s.Succeeds base (first ++ later) ↔ s.Succeeds base first ∧ s.Succeeds base later :=
  List.forall_mem_append

/-- Searches see no more of a query than its collection. -/
theorem filterOf_fresh (s : Searcher) {q base : Query} (same : q.fresh = base.fresh)
    (search : ColumnSearch) : s.filterOf q search = s.filterOf base search := by
  unfold filterOf column columnFilter byRule
  rw [same]

theorem filters_fresh (s : Searcher) {q base : Query} (same : q.fresh = base.fresh)
    (searches : List ColumnSearch) : s.filters q searches = s.filters base searches := by
  unfold filters filterOf?
  simp only [s.filterOf_fresh same]

theorem succeeds_fresh (s : Searcher) {q base : Query} (same : q.fresh = base.fresh)
    (searches : List ColumnSearch) : s.Succeeds q searches ↔ s.Succeeds base searches := by
  unfold Succeeds
  rw [same]

/-- A search comes to its filter exactly where the search registered for the column does not fail. -/
theorem filterOf_eq_ok_iff {s : Searcher} {base : Query} {search : ColumnSearch} {found : Option Filter} :
    s.filterOf base search = .ok found ↔
      (∀ edit, s.rules.searchEdit? search.column search.keyword = some edit →
        (edit base.fresh).2 = none) ∧ s.filterOf? base search = found := by
  unfold filterOf? filterOf column columnFilter
  cases s.rules.searchEdit? search.column search.keyword with
  | none => simp [Except.toOption]
  | some edit =>
    simp only [byRule, QueryEdit.run, Option.some.injEq, forall_eq']
    rcases edit base.fresh with ⟨after, _ | e⟩
    · simp [Except.map, Except.toOption]
    · simp [Except.map]

theorem filters_cons (s : Searcher) (base : Query) (search : ColumnSearch) (rest : List ColumnSearch) :
    s.filters base (search :: rest) = (s.filterOf? base search).toList ++ s.filters base rest := by
  simp only [filters, List.filterMap_eq_flatMap_toList, List.flatMap_cons]

theorem filters_append (s : Searcher) (base : Query) (first later : List ColumnSearch) :
    s.filters base (first ++ later) = s.filters base first ++ s.filters base later :=
  List.filterMap_append

theorem contributions_eq_ok_iff {s : Searcher} {base : Query} {keyword : String} {columns : List String}
    {found : List Filter} :
    s.contributions base keyword columns = .ok found ↔
      s.Succeeds base (columns.map (⟨·, keyword, false⟩)) ∧
        s.filters base (columns.map (⟨·, keyword, false⟩)) = found := by
  induction columns generalizing found with
  | nil =>
    constructor
    · intro same
      cases same
      exact ⟨s.succeeds_nil base, rfl⟩
    · intro given
      obtain ⟨_, rfl⟩ := given
      rfl
  | cons column rest ih =>
    have first (filter : Option Filter) : s.columnFilter base column keyword
        (s.settings.patternOf keyword) = .ok filter ↔ _ :=
      @filterOf_eq_ok_iff s base ⟨column, keyword, false⟩ filter
    simp only [contributions, bind_eq_ok_iff, first, ih, List.map_cons, succeeds_cons_iff, filters_cons]
    constructor
    · intro given
      obtain ⟨_, ⟨succeeds, rfl⟩, _, ⟨later, rfl⟩, same⟩ := given
      cases same
      exact ⟨⟨succeeds, later⟩, rfl⟩
    · intro given
      obtain ⟨⟨succeeds, later⟩, rfl⟩ := given
      exact ⟨_, ⟨succeeds, rfl⟩, _, ⟨later, rfl⟩, rfl⟩

/-- A search over columns comes to any of the filters of the searches in them. -/
theorem global_eq_ok_iff {s : Searcher} {base : Query} {keyword : String} {columns : List String}
    {found : Option Filter} :
    s.global base columns keyword = .ok found ↔
      s.Succeeds base (columns.map (⟨·, keyword, false⟩)) ∧
        anyOf (s.filters base (columns.map (⟨·, keyword, false⟩))) = found :=
  map_eq_ok_iff_of fun _ => contributions_eq_ok_iff

/-- A search over columns requires any of the filters of the searches in them. -/
theorem addGlobal_eq_ok_iff {s : Searcher} {q base after : Query} (same : q.fresh = base.fresh)
    {keyword : String} {columns : List String} :
    s.addGlobal q columns keyword = .ok after ↔
      s.Succeeds base (columns.map (⟨·, keyword, false⟩)) ∧
        q.requireAll (anyOf (s.filters base (columns.map (⟨·, keyword, false⟩)))).toList = after := by
  rw [← s.succeeds_fresh same, ← s.filters_fresh same]
  have part (found : Option Filter) : s.global q columns keyword = .ok found ↔ _ := global_eq_ok_iff
  rw [addGlobal_eq, map_eq_ok_iff_of part, require_eq]

theorem adds_nil_iff {s : Searcher} {base q after : Query} : s.Adds base [] q after ↔ q = after := by
  unfold Adds filters
  rw [List.filterMap_nil, Query.requireAll_nil]
  exact and_iff_right (s.succeeds_nil base)

theorem adds_append_iff {s : Searcher} {base q after : Query} {first later : List ColumnSearch} :
    s.Adds base (first ++ later) q after ↔
      ∃ middle, s.Adds base first q middle ∧ s.Adds base later middle after := by
  unfold Adds
  rw [succeeds_append_iff, filters_append, Query.requireAll_append]
  constructor
  · intro given
    obtain ⟨⟨succeeds, follows⟩, same⟩ := given
    exact ⟨_, ⟨succeeds, rfl⟩, follows, same⟩
  · intro given
    obtain ⟨_, ⟨succeeds, rfl⟩, follows, same⟩ := given
    exact ⟨⟨succeeds, follows⟩, same⟩

theorem Adds.fresh {s : Searcher} {base q after : Query} {searches : List ColumnSearch}
    (adds : s.Adds base searches q after) : after.fresh = q.fresh := by
  obtain ⟨_, rfl⟩ := adds
  rfl

theorem addColumn_eq_ok_iff {s : Searcher} {q base after : Query} (same : q.fresh = base.fresh)
    {search : ColumnSearch} :
    s.addColumn q search.column search.keyword search.regex = .ok after ↔
      s.Adds base [search] q after := by
  have found (filter : Option Filter) : s.column q search.column search.keyword search.regex =
      .ok filter ↔ _ := @filterOf_eq_ok_iff s q search filter
  have alone : s.filters q [search] = (s.filterOf? q search).toList := by
    rw [filters_cons, filters, List.filterMap_nil, List.append_nil]
  unfold Adds
  rw [← s.succeeds_fresh same, ← s.filters_fresh same, succeeds_cons_iff, alone]
  rw [addColumn_eq, map_eq_ok_iff_of found, require_eq]
  exact and_congr_left fun _ => (and_iff_left (s.succeeds_nil q)).symm

end Searcher

end TableQuery
