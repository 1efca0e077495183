import TableQuery.Proofs.Query.IntegerKeys
import TableQuery.Proofs.Table.Pages
import TableQuery.Proofs.Table.Search

set_option autoImplicit false

namespace TableQuery

open Json (Value)

theorem lastAt?_append {key : String} {done rows : List Value} (some : rows ≠ []) :
    lastAt? key (done ++ rows) = lastAt? key rows := by
  rw [lastAt?, lastAt?, List.getLast?_append_of_ne_nil done some]

theorem Filter.compiles_after {key : String} {value : Option Value} :
    ∀ filter ∈ Filter.after key value, filter.Compiles := by
  intro filter member
  obtain ⟨v, _, rfl⟩ := List.mem_map.mp member
  exact List.forall_mem_nil _

section ReadsOn

variable (key : String) (draw : Option Value → Except TableError CountedRows) {all : List Value}
  {length total filtered : Nat} (positive : 0 < length)
  (drawn : ∀ done left, done ++ left = all →
    draw (lastAt? key done) = .ok ⟨left.take length, total, filtered⟩)
include positive drawn

theorem exists_readsOn_from : ∀ done left : List Value, done ++ left = all → ∃ pages last,
    ReadsOn draw (fun _ page => lastAt? key page.rows) (lastAt? key done) pages last ∧
      pages.flatMap (·.rows) = left ∧
      ∀ page ∈ pages ++ [last], page.total = total ∧ page.filtered = filtered
  | done, [], whole => by
    refine ⟨[], _, .done (drawn done [] whole) List.take_nil, rfl, ?_⟩
    exact List.forall_mem_singleton.mpr ⟨rfl, rfl⟩
  | done, first :: rest, whole => by
    have some : (first :: rest).take length ≠ [] := by
      rw [ne_eq, List.take_eq_nil_iff]
      rintro (zero | none)
      · exact Nat.ne_of_gt positive zero
      · cases none
    -- A page with rows moves the cursor to its own last row, whatever came before it.
    have parted : (first :: rest).take length ++ (first :: rest).drop length = first :: rest :=
      List.take_append_drop _ _
    have further : (done ++ (first :: rest).take length) ++ (first :: rest).drop length = all := by
      rw [List.append_assoc, parted, whole]
    obtain ⟨pages, last, read, tiled, counts⟩ := exists_readsOn_from _ _ further
    rw [lastAt?_append some] at read
    refine ⟨_ :: pages, last, .next (drawn done _ whole) some read, ?_, ?_⟩
    · rw [List.flatMap_cons, tiled]
      exact parted
    · exact List.forall_mem_cons.mpr ⟨⟨rfl, rfl⟩, counts⟩
termination_by _ left => left.length
decreasing_by
  rw [List.length_drop, List.length_cons]
  omega

end ReadsOn

namespace Table

/-- The table for the page after a value at a key; without a value, for the first page. -/
def afterKey (t : Table) (key : String) (value : Option Value) : Table :=
  t.limit (match value with
    | none => .pure id
    | some v => .pure (·.push .and (.compare key .gt v)))

variable {t : Table} {key : String}

theorem pageOutcome_afterKey (paged : t.skipPaging = false) (value : Option Value) (q : Query) :
    (t.afterKey key value).pageOutcome q =
      .ok ((q.limitRows (pageLength t.request.length)).requireAll (Filter.after key value)) := by
  have unskipped : (t.afterKey key value).skipPaging = false := paged
  unfold pageOutcome
  rw [unskipped]
  cases value with
  | none => exact congrArg Except.ok (Query.requireAll_nil _).symm
  | some v => rfl

section Collection

variable {c : Collection} (stored : t.store = c.store) (paged : t.skipPaging = false)
include stored paged

theorem drawn_afterKey (value : Option Value) : (t.afterKey key value).drawn =
    t.unpagedOutcome [] t.initialPlan >>= fun plan =>
      (c.fetch ((plan.query.limitRows (pageLength t.request.length)).requireAll (Filter.after key value))).map
        (⟨·, plan.total.getD 0, plan.filtered.getD 0⟩) := by
  have drawn : (t.afterKey key value).drawn = (t.afterKey key value).planOutcome [] t.initialPlan >>= c.draw :=
    fetchCounted_run_of_collection (t := t.afterKey key value) stored rfl
  have same : (t.afterKey key value).unpagedOutcome [] t.initialPlan = t.unpagedOutcome [] t.initialPlan :=
    t.unpagedOutcome_repaged t.request.start t.request.length _ t.skipPaging [] t.initialPlan
  rw [drawn, planOutcome, same]
  cases t.unpagedOutcome [] t.initialPlan with
  | error e => rfl
  | ok plan =>
    change (t.afterKey key value).cutOutcome plan >>= c.draw = _
    unfold cutOutcome
    rw [pageOutcome_afterKey paged]
    rfl

end Collection

section Keyed

variable {c : Collection} (keyed : KeyedBy key c.documents)
include keyed

/-- The rows of a page: from the documents that satisfy the searches, in ascending order, those that come
after the value, as many as a page holds. -/
theorem fetch_afterKey_eq_ok_iff {value : Option Value} {rows : List Value} {length : Nat} :
    c.fetch ((((c.query.requireAll t.searchFilters).orderBy key .asc).limitRows length).requireAll
        (Filter.after key value)) = .ok rows ↔
      (∀ filter ∈ t.searchFilters, filter.Compiles) ∧
        ((sortDocuments [⟨key, .asc⟩] (c.documents.filter t.selects)).filter fun document =>
          (Filter.after key value).all (Filter.meets document)).take length = rows := by
  have clauses : ((((c.query.requireAll t.searchFilters).orderBy key .asc).limitRows length).requireAll
      (Filter.after key value)).filter =
        (t.searchFilters ++ Filter.after key value).map (Connective.and, ·) := by
    rw [List.map_append, ← c.filter_requireAll]
    rfl
  have compiles : (Filter.group ((t.searchFilters ++ Filter.after key value).map (Connective.and, ·))).Compiles ↔
      ∀ filter ∈ t.searchFilters, filter.Compiles := by
    rw [Filter.compiles_group_map, List.forall_mem_append]
    exact ⟨And.left, fun all => ⟨all, Filter.compiles_after⟩⟩
  have met : (c.documents.filter ((Filter.group
      ((t.searchFilters ++ Filter.after key value).map (Connective.and, ·))).meets ·)) =
        (c.documents.filter t.selects).filter fun document =>
          (Filter.after key value).all (Filter.meets document) := by
    rw [List.filter_filter]
    refine List.filter_congr fun document _ => ?_
    rw [Filter.meets_group_and, List.all_append, searchFilters_all, Bool.and_comm]
  rw [Collection.fetch_eq_ok_iff, clauses, compiles, met]
  refine and_congr_right fun _ => ?_
  rw [← (keyed.sublist List.filter_sublist).sortDocuments_filter]
  rfl

end Keyed

section Planned

variable {c : Collection} (stored : t.store = c.store) (whole : t.base = c.query)
  (unfiltered : t.filterHook = none) (searching : t.globalSearch = true)
  (planned : t.orderOutcome (c.query.requireAll t.searchFilters) =
    .ok ((c.query.requireAll t.searchFilters).orderBy key .asc))
include whole unfiltered searching planned

theorem query_of_unpagedOutcome {plan : Plan} (found : t.unpagedOutcome [] t.initialPlan = .ok plan) :
    t.SearchesSucceed ∧ plan.query = (c.query.requireAll t.searchFilters).orderBy key .asc := by
  obtain ⟨_, _, searched, _, _, filters, _, orders, _⟩ := unpagedOutcome_eq_ok found
  obtain ⟨succeeds, rfl⟩ := (filterOutcome_unfiltered_eq_ok_iff unfiltered searching rfl).mp filters
  change t.orderOutcome (t.base.requireAll t.searchFilters) = .ok plan.query at orders
  rw [whole, planned] at orders
  exact ⟨succeeds, (Except.ok.inj orders).symm⟩

include stored in
theorem exists_unpagedOutcome (succeeds : t.SearchesSucceed)
    (compiles : ∀ filter ∈ t.searchFilters, filter.Compiles) :
    ∃ plan, t.unpagedOutcome [] t.initialPlan = .ok plan ∧
      plan.query = (c.query.requireAll t.searchFilters).orderBy key .asc := by
  have filters := (filterOutcome_unfiltered_eq_ok_iff unfiltered searching (Eq.refl t.base.fresh)).mpr
    ⟨succeeds, rfl⟩
  have total : c.count t.initialPlan.query = .ok c.documents.length := by
    change c.count t.base = _
    rw [whole, c.count_query]
  obtain ⟨n, filtered⟩ : ∃ n, c.count (t.base.requireAll t.searchFilters) = .ok n := by
    refine ⟨_, Collection.count_eq_ok_iff.mpr ⟨?_, rfl⟩⟩
    rwa [whole, c.filter_requireAll, Filter.compiles_group_map]
  rw [← whole] at planned ⊢
  exact unpagedOutcome_succeeds filters planned (exists_totalOutcome stored total)
    fun _ calls total _ => exists_filteredOutcome stored filtered calls total

include stored in
theorem isOk_drawn_afterKey (paged : t.skipPaging = false) (keyed : KeyedBy key c.documents)
    (value : Option Value) : (t.afterKey key value).drawn.isOk = true ↔
      t.SearchesSucceed ∧ ∀ filter ∈ t.searchFilters, filter.Compiles := by
  rw [isOk_iff, drawn_afterKey stored paged]
  constructor
  · intro given
    obtain ⟨page, drawn⟩ := given
    obtain ⟨plan, unpaged, drawn⟩ := bind_eq_ok_iff.mp drawn
    obtain ⟨rows, fetched, _⟩ := map_eq_ok_iff.mp drawn
    obtain ⟨succeeds, same⟩ := query_of_unpagedOutcome whole unfiltered searching planned unpaged
    rw [same] at fetched
    exact ⟨succeeds, ((fetch_afterKey_eq_ok_iff keyed).mp fetched).1⟩
  · intro given
    obtain ⟨succeeds, compiles⟩ := given
    obtain ⟨plan, unpaged, same⟩ :=
      exists_unpagedOutcome stored whole unfiltered searching planned succeeds compiles
    obtain ⟨rows, fetched⟩ : ∃ rows, c.fetch ((plan.query.limitRows
        (pageLength t.request.length)).requireAll (Filter.after key value)) = .ok rows := by
      rw [same]
      exact ⟨_, (fetch_afterKey_eq_ok_iff keyed).mpr ⟨compiles, rfl⟩⟩
    exact ⟨_, bind_eq_ok_iff.mpr ⟨plan, unpaged, map_eq_ok_iff.mpr ⟨rows, fetched, rfl⟩⟩⟩

end Planned

/--
Paging by a cursor tiles the rows. Where the documents of a collection hold distinct integers at a key and
the plan is to sort by it alone, ascending, each page goes on after the last row of the page before: up to
the first page without rows, the pages make up the documents that satisfy the searches, each once and in
ascending order, and all of them report the same counts. Where a page starts in the request plays no part.
Pages are drawn exactly where no search fails and all patterns compile.
-/
theorem cursor_pages_tile {c : Collection} (stored : t.store = c.store) (whole : t.base = c.query)
    (unfiltered : t.filterHook = none) (searching : t.globalSearch = true) (paged : t.skipPaging = false)
    (keyed : KeyedBy key c.documents)
    (planned : t.orderOutcome (c.query.requireAll t.searchFilters) =
      .ok ((c.query.requireAll t.searchFilters).orderBy key .asc)) :
    (∀ value, (t.afterKey key value).drawn.isOk = true ↔
      t.SearchesSucceed ∧ ∀ filter ∈ t.searchFilters, filter.Compiles) ∧
    (t.SearchesSucceed → (∀ filter ∈ t.searchFilters, filter.Compiles) → ∃ pages last,
      ReadsOn (fun value => (t.afterKey key value).drawn) (fun _ page => lastAt? key page.rows) none pages
        last ∧
      (pages.flatMap (·.rows)).Perm (c.documents.filter t.selects) ∧
      (pages.flatMap (·.rows)).Pairwise (placeOf key · < placeOf key ·) ∧
      ∀ page ∈ pages ++ [last], page.total = last.total ∧ page.filtered = last.filtered) := by
  refine ⟨isOk_drawn_afterKey stored whole unfiltered searching planned paged keyed, ?_⟩
  intro succeeds compiles
  obtain ⟨plan, unpaged, same⟩ :=
    exists_unpagedOutcome stored whole unfiltered searching planned succeeds compiles
  have among : KeyedBy key (c.documents.filter t.selects) := keyed.sublist List.filter_sublist
  have perm : (sortDocuments [⟨key, .asc⟩] (c.documents.filter t.selects)).Perm
      (c.documents.filter t.selects) := sortDocuments_perm _ _
  have ascending := among.pairwise_sortDocuments
  have drawn : ∀ done left, done ++ left = sortDocuments [⟨key, .asc⟩] (c.documents.filter t.selects) →
      (t.afterKey key (lastAt? key done)).drawn =
        .ok ⟨left.take (pageLength t.request.length), plan.total.getD 0, plan.filtered.getD 0⟩ := by
    intro done left parted
    rw [← parted] at ascending perm
    have beyond := filter_after_lastAt? (fun document member => among.held document (perm.subset member))
      ascending
    rw [drawn_afterKey stored paged, unpaged]
    refine map_eq_ok_iff.mpr ⟨_, ?_, rfl⟩
    rw [same, fetch_afterKey_eq_ok_iff keyed, ← parted, beyond]
    exact ⟨compiles, rfl⟩
  obtain ⟨pages, last, read, tiled, counts⟩ := exists_readsOn_from key
    (fun value => (t.afterKey key value).drawn) (pageLength_pos t.request.length) drawn [] _ (List.nil_append _)
  have ofLast := counts last List.mem_concat_self
  refine ⟨pages, last, read, tiled ▸ perm, tiled ▸ ascending, fun page member => ?_⟩
  rw [ofLast.1, ofLast.2]
  exact counts page member

set_option maxRecDepth 100000 in
/-- Three of a crew match "an"; the numbers of two of them are the same as doubles, and yet none is lost. -/
theorem cursor_pages_tile_of_crew :
    let c : Collection :=
      ⟨"crew", [.object [("name", .string "Dan"), ("no", .int 9007199254740993)],
        .object [("name", .string "Bob"), ("no", .int (-5))],
        .object [("name", .string "Ian"), ("no", .int 9007199254740992)],
        .object [("name", .string "Ann"), ("no", .int 3)]]⟩
    let r : Request :=
      { columns := [{ data := some "name" }, { data := some "no", searchable := false }]
        order := [⟨1, .asc⟩], start := 40, length := 2, search := { value := "an" } }
    let t := ofCollection c r
    KeyedBy "no" c.documents ∧
      t.orderOutcome (c.query.requireAll t.searchFilters) =
        .ok ((c.query.requireAll t.searchFilters).orderBy "no" .asc) ∧
      t.SearchesSucceed ∧ (∀ filter ∈ t.searchFilters, filter.Compiles) ∧
      ∃ pages last, ReadsOn (fun value => (t.afterKey "no" value).drawn)
          (fun _ page => lastAt? "no" page.rows) none pages last ∧
        (pages.flatMap (·.rows)).length = 3 ∧
        (pages.flatMap (·.rows)).Pairwise (placeOf "no" · < placeOf "no" ·) := by
  intro c r t
  have keyed : KeyedBy "no" c.documents := ⟨by decide +kernel, by decide +kernel⟩
  have planned : t.orderOutcome (c.query.requireAll t.searchFilters) =
      .ok ((c.query.requireAll t.searchFilters).orderBy "no" .asc) := by
    rw [orderOutcome_eq ⟨rfl, rfl, rfl, rfl⟩ rfl]
    exact (Rules.orderSteps_run_eq_ok_iff (Rules.withDefaultExclusions_unordered.ordersBy _) _ _ _ _).mpr
      ⟨[⟨"no", .asc⟩], rfl, rfl⟩
  have succeeds : t.SearchesSucceed := by decide +kernel
  have compiles : ∀ filter ∈ t.searchFilters, filter.Compiles := by decide +kernel
  obtain ⟨_, tile⟩ := cursor_pages_tile (t := t) (c := c) rfl rfl rfl rfl rfl keyed planned
  obtain ⟨pages, last, read, perm, ascending, _⟩ := tile succeeds compiles
  have three : (c.documents.filter t.selects).length = 3 := by decide +kernel
  exact ⟨keyed, planned, succeeds, compiles, pages, last, read, perm.length_eq.trans three, ascending⟩

end Table

end TableQuery
