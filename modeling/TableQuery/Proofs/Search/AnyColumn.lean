import TableQuery.Proofs.Query.Rearranged
import TableQuery.Proofs.Search.Subquery

set_option autoImplicit false

namespace TableQuery

open Json (Value)

theorem failure?_settled {α : Type} (failure : Option TableError) (value : α) :
    failure? (settled failure value) = failure := by
  cases failure with
  | some e => rfl
  | none => rfl

theorem Filter.failure?_compile_group (connective : Connective) (filters : List Filter) :
    failure? (group (filters.map (connective, ·))).compile =
      filters.findSome? fun filter => failure? filter.compile := by
  rw [compile, failure?_map]
  induction filters with
  | nil => rfl
  | cons filter rest ih =>
    rw [List.map_cons, compile.compileClauses, List.findSome?_cons]
    cases filter.compile with
    | error e => rfl
    | ok test =>
      change failure? (compile.compileClauses (rest.map (connective, ·)) >>= fun tests =>
        pure ((connective, test) :: tests)) = _
      rw [failure?_bind_pure, ih]
      rfl

namespace Searcher

variable {s : Searcher} {base : Query} {keyword : String} {columns others : List String}

/-- The search in a column has this filter. -/
def Contributes (s : Searcher) (base : Query) (keyword column : String) (filter : Filter) : Prop :=
  s.column base column keyword false = .ok (some filter)

def contribution? (s : Searcher) (base : Query) (keyword column : String) : Option Filter :=
  s.filterOf? base ⟨column, keyword, false⟩

theorem contribution?_eq_some_iff {column : String} {filter : Filter} :
    s.contribution? base keyword column = some filter ↔ s.Contributes base keyword column filter := by
  change (s.column base column keyword false).toOption.join = some filter ↔
    s.column base column keyword false = .ok (some filter)
  rcases s.column base column keyword false with e | _ | found
  · exact ⟨nofun, nofun⟩
  · exact ⟨nofun, nofun⟩
  · exact ⟨congrArg Except.ok, Except.ok.inj⟩

theorem filters_eq (columns : List String) :
    s.filters base (columns.map (⟨·, keyword, false⟩)) =
      columns.filterMap (s.contribution? base keyword) := by
  rw [filters, List.filterMap_map]
  rfl

theorem mem_contributions_iff {filter : Filter} :
    filter ∈ columns.filterMap (s.contribution? base keyword) ↔
      ∃ column ∈ columns, s.Contributes base keyword column filter := by
  simp only [List.mem_filterMap, contribution?_eq_some_iff]

theorem failure?_column (column : String) :
    failure? (s.column base column keyword false) = s.failureOn? base.collection keyword column := by
  rw [← failure?_settled (s.failureOn? base.collection keyword column), ← columnFilter_eq]
  rfl

/-- Columns contribute nothing but a failure where the search in one of them fails, the first that does. -/
theorem failure?_contributions (columns : List String) :
    failure? (s.contributions base keyword columns) =
      columns.findSome? fun column => failure? (s.column base column keyword false) := by
  simp only [failure?_column]
  rw [contributions_eq, failure?_settled]

theorem global_eq_error_iff {e : TableError} : s.global base columns keyword = .error e ↔
    (columns.findSome? fun column => failure? (s.column base column keyword false)) = some e := by
  rw [← failure?_eq_some_iff, global, failure?_map, failure?_contributions]

theorem anyOf_of_global {found : Option Filter} (searched : s.global base columns keyword = .ok found) :
    anyOf (columns.filterMap (s.contribution? base keyword)) = found := by
  rw [← filters_eq]
  exact (global_eq_ok_iff.mp searched).2

theorem exists_global_iff : (∃ found, s.global base columns keyword = .ok found) ↔
    ∀ column ∈ columns, ∃ filter, s.column base column keyword false = .ok filter := by
  rw [← failure?_eq_none_iff, global, failure?_map, failure?_contributions, List.findSome?_eq_none_iff]
  simp only [failure?_eq_none_iff]

theorem global_eq_none_iff : s.global base columns keyword = .ok none ↔
    ∀ column ∈ columns, s.column base column keyword false = .ok none := by
  constructor
  · intro searched column member
    have all := exists_global_iff.mp ⟨none, searched⟩
    have none_found := anyOf_of_global searched
    unfold anyOf at none_found
    split at none_found
    · rename_i empty
      rw [List.isEmpty_iff, List.filterMap_eq_nil_iff] at empty
      obtain ⟨filter, found⟩ := all column member
      cases filter with
      | none => exact found
      | some filter => cases (empty column member).symm.trans (contribution?_eq_some_iff.mpr found)
    · cases none_found
  · intro nothing
    obtain ⟨found, searched⟩ := exists_global_iff.mpr fun column member => ⟨none, nothing column member⟩
    have empty : columns.filterMap (s.contribution? base keyword) = [] := by
      rw [List.filterMap_eq_nil_iff]
      intro column member
      rw [contribution?, filterOf?, filterOf, nothing column member]
      rfl
    have none_found := anyOf_of_global searched
    rw [empty] at none_found
    rw [searched, ← none_found]
    rfl

theorem eq_group_of_global {filter : Filter} (searched : s.global base columns keyword = .ok (some filter)) :
    columns.filterMap (s.contribution? base keyword) ≠ [] ∧
      filter = .group ((columns.filterMap (s.contribution? base keyword)).map (Connective.or, ·)) := by
  have found := anyOf_of_global searched
  unfold anyOf at found
  split at found
  · cases found
  · rename_i some_filter
    rw [List.isEmpty_iff] at some_filter
    exact ⟨some_filter, (Option.some.inj found).symm⟩

/-- The group does not compile exactly where some filter of a column does not, and fails as the first does. -/
theorem compile_global_eq_error_iff {filter : Filter}
    (searched : s.global base columns keyword = .ok (some filter)) {e : TableError} :
    filter.compile = .error e ↔
      (columns.findSome? fun column =>
        (s.contribution? base keyword column).bind fun f => failure? f.compile) = some e := by
  rw [(eq_group_of_global searched).2, ← failure?_eq_some_iff, Filter.failure?_compile_group,
    ← List.head?_filterMap, List.filterMap_filterMap, List.head?_filterMap]

theorem matches_global_iff {filter : Filter} (searched : s.global base columns keyword = .ok (some filter))
    (document : Value) :
    filter.Matches document ↔
      (∀ column ∈ columns, ∀ f, s.Contributes base keyword column f → f.Compiles) ∧
        ∃ column ∈ columns, ∃ f, s.Contributes base keyword column f ∧ f.Matches document := by
  obtain ⟨some_filter, rfl⟩ := eq_group_of_global searched
  have all_compile : (∀ f ∈ columns.filterMap (s.contribution? base keyword), f.Compiles) ↔
      ∀ column ∈ columns, ∀ f, s.Contributes base keyword column f → f.Compiles := by
    simp only [mem_contributions_iff]
    exact ⟨fun all column member f contributes => all f ⟨column, member, contributes⟩,
      fun all f ⟨column, member, contributes⟩ => all column member f contributes⟩
  rw [Filter.matches_iff, Filter.compiles_group_map, Filter.meets_group_map_or,
    List.isEmpty_eq_false_iff.mpr some_filter, Bool.false_or, List.any_eq_true, all_compile]
  refine and_congr_right fun compiles => ?_
  constructor
  · intro given
    obtain ⟨f, inside, met⟩ := given
    obtain ⟨column, member, contributes⟩ := mem_contributions_iff.mp inside
    exact ⟨column, member, f, contributes, Filter.matches_iff.mpr ⟨compiles column member f contributes, met⟩⟩
  · intro given
    obtain ⟨column, member, f, contributes, matching⟩ := given
    exact ⟨f, mem_contributions_iff.mpr ⟨column, member, contributes⟩, (Filter.matches_iff.mp matching).2⟩

/-- Searches over the same columns, whatever their order and however often each is listed, fail alike, have no
filter alike, or have filters that match the same documents. -/
theorem global_alike (same : ∀ column, column ∈ columns ↔ column ∈ others) :
    Alike (Option.Rel fun f g => ∀ document, f.Matches document ↔ g.Matches document)
      (s.global base columns keyword) (s.global base others keyword) := by
  have succeed : (∃ found, s.global base columns keyword = .ok found) ↔
      ∃ found, s.global base others keyword = .ok found := by
    simp only [exists_global_iff, same]
  have nothing : s.global base columns keyword = .ok none ↔ s.global base others keyword = .ok none := by
    simp only [global_eq_none_iff, same]
  cases searched : s.global base columns keyword with
  | error e =>
    cases again : s.global base others keyword with
    | error f => exact .failed e f
    | ok found =>
      obtain ⟨_, other⟩ := succeed.mpr ⟨found, again⟩
      cases searched.symm.trans other
  | ok found =>
    obtain ⟨other, again⟩ := succeed.mp ⟨found, searched⟩
    rw [again]
    refine .done ?_
    rcases found with _ | f
    · rcases other with _ | g
      · exact .none
      · cases (nothing.mp searched).symm.trans again
    · rcases other with _ | g
      · cases (nothing.mpr again).symm.trans searched
      · refine .some fun document => ?_
        simp only [matches_global_iff searched, matches_global_iff again, same]

/--
A search over several columns finds what the searches in them find. It fails with the first of them that
fails. It has no filter exactly where none of them has one. Otherwise its group fails to compile with the
first of their filters that does not compile, and if all of them do it matches a document where one of them
does. Neither the order of the columns nor how often one is listed makes a difference to what is found.
-/
theorem global_finds_any_column (s : Searcher) (base : Query) (keyword : String) (columns : List String) :
    (∀ e, s.global base columns keyword = .error e ↔
      (columns.findSome? fun column => failure? (s.column base column keyword false)) = some e) ∧
    (s.global base columns keyword = .ok none ↔
      ∀ column ∈ columns, s.column base column keyword false = .ok none) ∧
    (∀ filter, s.global base columns keyword = .ok (some filter) →
      (∀ e, filter.compile = .error e ↔
        (columns.findSome? fun column =>
          (s.contribution? base keyword column).bind fun f => failure? f.compile) = some e) ∧
      ∀ document, filter.Matches document ↔
        (∀ column ∈ columns, ∀ f, s.Contributes base keyword column f → f.Compiles) ∧
          ∃ column ∈ columns, ∃ f, s.Contributes base keyword column f ∧ f.Matches document) ∧
    ∀ others, (∀ column, column ∈ columns ↔ column ∈ others) →
      Alike (Option.Rel fun f g => ∀ document, f.Matches document ↔ g.Matches document)
        (s.global base columns keyword) (s.global base others keyword) :=
  ⟨fun _ => global_eq_error_iff, global_eq_none_iff,
    fun _ searched => ⟨fun _ => compile_global_eq_error_iff searched, matches_global_iff searched⟩,
    fun _ same => global_alike same⟩

/-- Where the search of one column adds a pattern that cannot be read, the group matches no document, not even
one that the filter of another column matches. -/
theorem global_unmatched_of_unreadable :
    let rules := (Rules.searchColumnBy {} "name" fun _ =>
        .pure (·.push .and (.regex "name" (.verbatim "(" false)))).searchColumnBy "age" fun _ =>
          .pure (·.push .and (.compare "age" .gte (.nat 30)))
    let s : Searcher := ⟨{}, rules⟩
    let base : Query := { collection := "docs" }
    let document : Value := .object [("age", .nat 41)]
    ∃ filter, s.global base ["name", "age"] "ann" = .ok (some filter) ∧
      ¬ (filter.Matches document ↔ ∃ column ∈ ["name", "age"], ∃ f,
        s.Contributes base "ann" column f ∧ f.Matches document) := by
  intro rules s base document
  let named : Filter := .group [(.and, .regex "name" (.verbatim "(" false))]
  let aged : Filter := .group [(.and, .compare "age" .gte (.nat 30))]
  refine ⟨.group [(.or, named), (.or, aged)], rfl, fun same => ?_⟩
  have unmatched : ¬ (Filter.group [(.or, named), (.or, aged)]).Matches document := by decide +kernel
  have matching : aged.Matches document := by decide +kernel
  exact unmatched (same.mpr ⟨"age", by decide, aged, rfl, matching⟩)

end Searcher

end TableQuery
