import TableQuery.Proofs.Rules.Registrations
import TableQuery.Table.Draw

set_option autoImplicit false

namespace TableQuery

namespace Rules

def Agree (r s : Rules) : Prop := ∀ column, r.ruleOf column = s.ruleOf column

section

variable {r s : Rules} (agree : r.Agree s)
include agree

theorem Agree.searchEdit? (column keyword : String) :
    r.searchEdit? column keyword = s.searchEdit? column keyword := by
  rw [Rules.searchEdit?, Rules.searchEdit?, search?_eq, search?_eq, agree]

theorem Agree.orderEdit? (column : String) (direction : Direction) :
    r.orderEdit? column direction = s.orderEdit? column direction := by
  rw [Rules.orderEdit?, Rules.orderEdit?, order?_eq, order?_eq, agree]

theorem Agree.isBarredFromSearch (column : String) :
    r.isBarredFromSearch column = s.isBarredFromSearch column := by
  rw [Rules.isBarredFromSearch, Rules.isBarredFromSearch, isExcluded_eq, isExcluded_eq, search?_eq,
    search?_eq, agree]

theorem Agree.isBarredFromOrder (column : String) :
    r.isBarredFromOrder column = s.isBarredFromOrder column := by
  rw [Rules.isBarredFromOrder, Rules.isBarredFromOrder, isExcluded_eq, isExcluded_eq, order?_eq,
    order?_eq, agree]

/-- The same orders are planned. -/
theorem Agree.planOrders (resolve : Nat → Option String) (orders : List ColumnOrder) (log : Log)
    (q : Query) :
    r.planOrders resolve orders log q = s.planOrders resolve orders log q := by
  induction orders generalizing log q with
  | nil => rfl
  | cons order rest ih =>
    rw [Rules.planOrders, Rules.planOrders]
    simp only [agree.isBarredFromOrder, agree.orderEdit?, ih]

end

end Rules

namespace Searcher

variable {r s : Rules} (agree : r.Agree s) (settings : SearchSettings)
include agree

theorem columnFilter_of_agree (base : Query) (column keyword : String) (pattern : SearchPattern) :
    columnFilter ⟨settings, r⟩ base column keyword pattern =
      columnFilter ⟨settings, s⟩ base column keyword pattern := by
  simp only [columnFilter, agree.searchEdit?, agree.isBarredFromSearch]

theorem contributions_of_agree (base : Query) (keyword : String) (columns : List String) :
    contributions ⟨settings, r⟩ base keyword columns = contributions ⟨settings, s⟩ base keyword columns := by
  induction columns with
  | nil => rfl
  | cons column rest ih => simp only [contributions, columnFilter_of_agree agree, ih]

theorem addColumn_of_agree (q : Query) (column keyword : String) (regex : Bool) :
    addColumn ⟨settings, r⟩ q column keyword regex = addColumn ⟨settings, s⟩ q column keyword regex := by
  simp only [addColumn_eq, Searcher.column, columnFilter_of_agree agree]

theorem addGlobal_of_agree (q : Query) (columns : List String) (keyword : String) :
    addGlobal ⟨settings, r⟩ q columns keyword = addGlobal ⟨settings, s⟩ q columns keyword := by
  simp only [addGlobal_eq, Searcher.global, contributions_of_agree agree]

end Searcher

namespace Table

/-- Whatever they are asked for, the tables do the same and answer the same. -/
structure ActsAs (t u : Table) : Prop where
  prepare : t.prepare = u.prepare
  fetchRows : t.fetchRows = u.fetchRows
  fetchCounted : t.fetchCounted = u.fetchCounted
  explain : t.explain = u.explain
  run : ∀ objectRows, t.run objectRows = u.run objectRows

section

variable {r s : Rules} (agree : r.Agree s) (t : Table)

theorem searchedColumns_withRules (rules : Rules) (positions : List Nat) :
    (t.withRules rules).searchedColumns positions = t.searchedColumns positions := by
  induction positions with
  | nil => rfl
  | cons index rest ih =>
    rw [searchedColumns, searchedColumns, ih]
    rfl

include agree

theorem filterGlobally_of_agree (q : Query) :
    (t.withRules r).filterGlobally q = (t.withRules s).filterGlobally q := by
  have adds (columns : List String) (keyword : String) :
      (t.withRules r).searcher.addGlobal q columns keyword =
        (t.withRules s).searcher.addGlobal q columns keyword :=
    Searcher.addGlobal_of_agree agree t.settings q columns keyword
  unfold filterGlobally
  simp only [searchedColumns_withRules, adds]
  rfl

theorem filterColumnAt_of_agree (index : Nat) (q : Query) :
    (t.withRules r).filterColumnAt index q = (t.withRules s).filterColumnAt index q := by
  have adds (column keyword : String) (regex : Bool) :
      (t.withRules r).searcher.addColumn q column keyword regex =
        (t.withRules s).searcher.addColumn q column keyword regex :=
    Searcher.addColumn_of_agree agree t.settings q column keyword regex
  unfold filterColumnAt
  simp only [adds]
  rfl

theorem filterColumns_of_agree (positions : List Nat) (q : Query) :
    (t.withRules r).filterColumns positions q = (t.withRules s).filterColumns positions q := by
  induction positions generalizing q with
  | nil => rfl
  | cons index rest ih => simp only [filterColumns, filterColumnAt_of_agree agree, ih]

theorem applyOrder_of_agree (q : Query) : (t.withRules r).applyOrder q = (t.withRules s).applyOrder q := by
  unfold applyOrder
  simp only [withRules, agree.planOrders]

theorem buildPlan_of_agree (plan : Plan) :
    (t.withRules r).buildPlan plan = (t.withRules s).buildPlan plan := by
  unfold buildPlan applyFilters
  simp only [filterGlobally_of_agree agree, filterColumns_of_agree agree, applyOrder_of_agree agree]
  rfl

/-- A table does the same with either rules. -/
theorem actsAs_of_agree : (t.withRules r).ActsAs (t.withRules s) := by
  have prepare : (t.withRules r).prepare = (t.withRules s).prepare := by
    unfold Table.prepare
    simp only [buildPlan_of_agree agree]
  have fetchRows : (t.withRules r).fetchRows = (t.withRules s).fetchRows := by
    unfold Table.fetchRows
    rw [prepare]
    rfl
  have fetchCounted : (t.withRules r).fetchCounted = (t.withRules s).fetchCounted := by
    unfold Table.fetchCounted
    rw [fetchRows]
  have explain : (t.withRules r).explain = (t.withRules s).explain := by
    unfold Table.explain
    rw [prepare]
  have run (objectRows : Bool) : (t.withRules r).run objectRows = (t.withRules s).run objectRows := by
    unfold Table.run respond
    rw [fetchCounted]
    rfl
  exact ⟨prepare, fetchRows, fetchCounted, explain, run⟩

end

end Table

namespace Rules

/-- Nothing that rules are used for tells the two apart. -/
structure BehaveAlike (r s : Rules) : Prop where
  search : ∀ column keyword q, r.applySearch column keyword q = s.applySearch column keyword q
  order : ∀ column direction q, r.applyOrder column direction q = s.applyOrder column direction q
  barredFromSearch : ∀ column, r.isBarredFromSearch column = s.isBarredFromSearch column
  barredFromOrder : ∀ column, r.isBarredFromOrder column = s.isBarredFromOrder column
  tables : ∀ t : Table, (t.withRules r).ActsAs (t.withRules s)

theorem Agree.behaveAlike {r s : Rules} (agree : r.Agree s) : r.BehaveAlike s :=
  { search := fun column keyword q => by rw [applySearch, applySearch, agree.searchEdit?]
    order := fun column direction q => by rw [applyOrder, applyOrder, agree.orderEdit?]
    barredFromSearch := agree.isBarredFromSearch
    barredFromOrder := agree.isBarredFromOrder
    tables := Table.actsAs_of_agree agree }

/--
No registration is lost, in whatever order searches, orders and exclusions are registered. Applying the search of a
column runs the last one that was registered for it; without one it says so and leaves the query alone. Orders are
applied likewise. Searches pass over a column that was ever excluded and has no search, and ordering passes over one
that was ever excluded and has no order. So rules behave alike where their registrations agree on the last search,
the last order and the exclusion of each column.
-/
theorem registrations_kept {given : List Registration} {r : Rules} (built : r.BuiltBy given) :
    (∀ column keyword q, Applies ((Registration.lastSearch? column given).map (· keyword)) q
      (r.applySearch column keyword q)) ∧
    (∀ column direction q, Applies ((Registration.lastOrder? column given).map (· direction)) q
      (r.applyOrder column direction q)) ∧
    (∀ column, r.isBarredFromSearch column = true ↔
      Registration.everExcludes column given = true ∧ Registration.lastSearch? column given = none) ∧
    (∀ column, r.isBarredFromOrder column = true ↔
      Registration.everExcludes column given = true ∧ Registration.lastOrder? column given = none) ∧
    ∀ {others : List Registration} {s : Rules}, s.BuiltBy others →
      (∀ column, Registration.lastSearch? column given = Registration.lastSearch? column others ∧
        Registration.lastOrder? column given = Registration.lastOrder? column others ∧
        Registration.everExcludes column given = Registration.everExcludes column others) →
      r.BehaveAlike s := by
  refine ⟨built.applySearch_applies, built.applyOrder_applies, built.isBarredFromSearch_iff,
    built.isBarredFromOrder_iff, fun {others s} rebuilt same => ?_⟩
  have agree : r.Agree s := fun column => by
    obtain ⟨search, order, excluded⟩ := same column
    rw [built.ruleOf_eq, rebuilt.ruleOf_eq, Registration.merged, Registration.merged, search, order, excluded]
  exact agree.behaveAlike

/-- A search is registered for a column, the column is excluded, and another search is registered for it: this one
runs, and no request orders by the column. Without the first search, and with the exclusion last, it is the same. -/
theorem registrations_kept_of_age :
    let earlier : String → QueryEdit := fun _ => .pure (·.push .and (.present "age" true))
    let later : String → QueryEdit := fun _ => .pure (·.push .and (.compare "age" .gte (.nat 30)))
    let r := (((Rules.searchColumnBy {} "age" earlier).exclude ["age"]).searchColumnBy "age" later)
    let s := (Rules.searchColumnBy {} "age" later).exclude ["age"]
    let given : List Registration := [.search "age" earlier, .exclude ["age"], .search "age" later]
    r.BuiltBy given ∧ r.isBarredFromSearch "age" = false ∧ r.isBarredFromOrder "age" = true ∧
      Applies (some (later "30")) { collection := "docs" } (r.applySearch "age" "30" { collection := "docs" }) ∧
      r.BehaveAlike s := by
  intro earlier later r s given
  have built : r.BuiltBy given :=
    ((BuiltBy.nothing.search "age" earlier).exclude ["age"]).search "age" later
  have rebuilt : s.BuiltBy [.search "age" later, .exclude ["age"]] :=
    (BuiltBy.nothing.search "age" later).exclude ["age"]
  obtain ⟨searches, orders, barredFromSearch, barredFromOrder, alike⟩ := registrations_kept built
  have same (column : String) :
      Registration.lastSearch? column given =
        Registration.lastSearch? column [.search "age" later, .exclude ["age"]] ∧
      Registration.lastOrder? column given =
        Registration.lastOrder? column [.search "age" later, .exclude ["age"]] ∧
      Registration.everExcludes column given =
        Registration.everExcludes column [.search "age" later, .exclude ["age"]] := by
    refine ⟨?_, rfl, ?_⟩
    · unfold Registration.lastSearch?
      by_cases here : "age" = column
      · subst here
        rfl
      · simp [given, Registration.searchFor?, here]
    · simp [given, Registration.everExcludes, Registration.excludes]
  refine ⟨built, ?_, (barredFromOrder "age").mpr ⟨rfl, rfl⟩, searches "age" "30" _, alike rebuilt same⟩
  rw [← Bool.not_eq_true, barredFromSearch]
  rintro ⟨-, unregistered⟩
  cases unregistered

end Rules

end TableQuery
