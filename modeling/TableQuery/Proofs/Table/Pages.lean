import Mathlib.Algebra.Order.Floor.Div
import TableQuery.Proofs.Table.Unpaged

set_option autoImplicit false

namespace TableQuery

theorem pageLength_pos (length : Int64) : 0 < pageLength length := by
  unfold pageLength
  split
  · omega
  · exact Nat.succ_pos 9

/-- How many pages of a length there are of so many rows; the last may be short. -/
def pageCount (length rows : Nat) : Nat := rows ⌈/⌉ length

theorem pageCount_le_iff {length : Nat} (positive : 0 < length) {rows index : Nat} :
    pageCount length rows ≤ index ↔ rows ≤ index * length := by
  rw [pageCount, ceilDiv_le_iff_le_mul positive, Nat.mul_comm]

namespace CountedRows

def page (all : CountedRows) (length index : Nat) : CountedRows :=
  { all with rows := (all.rows.drop (index * length)).take length }

variable {all : CountedRows} {length : Nat}

theorem rows_page_eq_nil_iff (positive : 0 < length) {index : Nat} :
    (all.page length index).rows = [] ↔ pageCount length all.rows.length ≤ index := by
  rw [pageCount_le_iff positive, page, List.take_eq_nil_iff, List.drop_eq_nil_iff]
  exact or_iff_right (Nat.ne_of_gt positive)

theorem length_rows_page (positive : 0 < length) {index : Nat}
    (later : index + 1 < pageCount length all.rows.length) : (all.page length index).rows.length = length := by
  have beyond : (index + 1) * length < all.rows.length := by
    rw [← Nat.not_le, ← pageCount_le_iff positive, Nat.not_le]
    exact later
  rw [Nat.succ_mul] at beyond
  rw [page, List.length_take, List.length_drop]
  omega

theorem flatMap_rows_page (all : CountedRows) (length count : Nat) :
    (List.range count).flatMap (fun index => (all.page length index).rows) =
      all.rows.take (count * length) := by
  induction count with
  | zero => rw [Nat.zero_mul]; rfl
  | succ count ih =>
    rw [List.range_succ, List.flatMap_append, ih, Nat.succ_mul, List.take_add, List.flatMap_singleton]
    rfl

def pages (all : CountedRows) (length : Nat) : List CountedRows :=
  (List.range (pageCount length all.rows.length)).map (all.page length)

theorem flatMap_rows_pages (positive : 0 < length) : (all.pages length).flatMap (·.rows) = all.rows := by
  have enough : all.rows.length ≤ pageCount length all.rows.length * length :=
    (pageCount_le_iff positive).mp (Nat.le_refl _)
  rw [pages, List.flatMap_map, flatMap_rows_page, List.take_of_length_le enough]

theorem length_rows_of_mem_dropLast (positive : 0 < length) {page : CountedRows}
    (member : page ∈ (all.pages length).dropLast) : page.rows.length = length := by
  unfold pages at member
  cases count : pageCount length all.rows.length with
  | zero =>
    rw [count] at member
    cases member
  | succ before =>
    rw [count, List.range_succ, List.map_append, List.map_singleton, List.dropLast_concat] at member
    obtain ⟨index, within, rfl⟩ := List.mem_map.mp member
    have earlier : index < before := List.mem_range.mp within
    apply length_rows_page positive
    omega

end CountedRows

/--
Draws one after the other up to the first without rows: the draws before it, and this last one. A place says
what is drawn, and where to go on may depend on the rows that were drawn.
-/
inductive ReadsOn {Place : Type} (draw : Place → Except TableError CountedRows)
    (turn : Place → CountedRows → Place) : Place → List CountedRows → CountedRows → Prop where
  | done {place : Place} {last : CountedRows} :
      draw place = .ok last → last.rows = [] → ReadsOn draw turn place [] last
  | next {place : Place} {page last : CountedRows} {rest : List CountedRows} :
      draw place = .ok page → page.rows ≠ [] → ReadsOn draw turn (turn place page) rest last →
        ReadsOn draw turn place (page :: rest) last

/-- Draws whose rows run out at an index are read up to this one. -/
theorem readsOn_range {draw : Nat → Except TableError CountedRows} {pages : Nat → CountedRows}
    {count : Nat} (drawn : ∀ index ≤ count, draw index = .ok (pages index))
    (empty : ∀ index, (pages index).rows = [] ↔ count ≤ index) :
    ReadsOn draw (fun index _ => index + 1) 0 ((List.range count).map pages) (pages count) := by
  -- The induction is on how many pages with rows are left.
  have rest : ∀ left index, index + left = count →
      ReadsOn draw (fun index _ => index + 1) index ((List.range' index left).map pages) (pages count) := by
    intro left
    induction left with
    | zero =>
      intro index reached
      obtain rfl : index = count := reached
      exact .done (drawn index (Nat.le_refl index)) ((empty index).mpr (Nat.le_refl index))
    | succ left ih =>
      intro index reached
      rw [List.range'_succ, List.map_cons]
      apply ReadsOn.next
      · exact drawn index (by omega)
      · rw [ne_eq, empty]
        omega
      · exact ih (index + 1) (by omega)
  rw [List.range_eq_range']
  exact rest count 0 (Nat.zero_add count)

theorem Collection.fetch_window {c : Collection} {q : Query} (unskipped : q.skip = none)
    (unlimited : q.limit = none) (skip limit : Nat) :
    c.fetch ((q.skipRows skip).limitRows limit) = (c.fetch q).map fun rows => (rows.drop skip).take limit := by
  unfold fetch
  rw [unskipped, unlimited]
  change (c.matching q.filter).map _ = _
  cases c.matching q.filter with
  | error e => rfl
  | ok rows => rfl

namespace Table

/-- The draw of a table that was not used before. -/
def drawn (t : Table) : Except TableError CountedRows :=
  (t.fetchCounted.run.run { plan := t.initialPlan }).1

def atPage (t : Table) (index : Nat) : Table :=
  { t with request := { t.request with start := .ofNat (index * pageLength t.request.length) } }

variable {t : Table}

theorem offset_atPage {index : Nat} (fits : index * pageLength t.request.length < 2 ^ 63) :
    (t.atPage index).request.offset = index * pageLength t.request.length := by
  unfold Request.offset atPage
  rw [Int64.toInt_ofNat_of_lt fits, Int.toNat_natCast]

section Collection

variable {c : Collection} (stored : t.store = c.store) (uncut : t.Uncut QueryEdit.Extends)
  (unlimited : t.limitHook = none) (paged : t.skipPaging = false)
include stored uncut unlimited paged

/-- A page is drawn with success where all rows are, and it is the page of these rows. -/
theorem drawn_atPage {index : Nat} (fits : index * pageLength t.request.length < 2 ^ 63) :
    (t.atPage index).drawn = t.withoutPaging.drawn.map (·.page (pageLength t.request.length) index) := by
  have same : (t.atPage index).unpagedOutcome [] t.initialPlan = t.unpagedOutcome [] t.initialPlan :=
    t.unpagedOutcome_repaged _ t.request.length t.limitHook t.skipPaging [] t.initialPlan
  have drawn : (t.atPage index).drawn = (t.atPage index).planOutcome [] t.initialPlan >>= c.draw :=
    fetchCounted_run_of_collection (t := t.atPage index) stored rfl
  have whole : t.withoutPaging.drawn = t.unpagedOutcome [] t.initialPlan >>= c.draw :=
    fetchCounted_withoutPaging (s := { plan := t.initialPlan }) stored rfl
  rw [drawn, whole, planOutcome, same]
  cases found : t.unpagedOutcome [] t.initialPlan with
  | error e => rfl
  | ok plan =>
    have window := (unpagedOutcome_extends uncut found).window
    have rows := Collection.fetch_window (c := c) (window.1.trans uncut.skip) (window.2.trans uncut.limit)
    have cut : (t.atPage index).pageOutcome plan.query = .ok _ :=
      pageOutcome_eq (t := t.atPage index) unlimited paged plan.query
    change ((t.atPage index).cutOutcome plan >>= c.draw) = (c.draw plan).map _
    unfold cutOutcome
    rw [cut, offset_atPage fits]
    change (c.fetch _).map _ = ((c.fetch plan.query).map _).map _
    rw [rows]
    cases c.fetch plan.query with
    | error e => rfl
    | ok all => rfl

/--
Offset paging tiles the rows. Read from the start up to the first page without rows, the pages make up
all rows that the table gives without paging, in their order; every page but the last with rows is full; and
all of them report the same counts. A page fails only as the draw of all rows does.
-/
theorem pages_tile :
    (∀ index, index * pageLength t.request.length < 2 ^ 63 → (t.atPage index).drawn =
      t.withoutPaging.drawn.map (·.page (pageLength t.request.length) index)) ∧
    ∀ all, t.withoutPaging.drawn = .ok all →
      pageCount (pageLength t.request.length) all.rows.length * pageLength t.request.length < 2 ^ 63 →
      ∃ pages last, ReadsOn (fun index => (t.atPage index).drawn) (fun index _ => index + 1) 0 pages last ∧
        pages.flatMap (·.rows) = all.rows ∧
        (∀ page ∈ pages.dropLast, page.rows.length = pageLength t.request.length) ∧
        ∀ page ∈ pages ++ [last], page.total = all.total ∧ page.filtered = all.filtered := by
  refine ⟨fun index => drawn_atPage stored uncut unlimited paged, fun all whole fits => ?_⟩
  have positive := pageLength_pos t.request.length
  have drawn : ∀ index ≤ pageCount (pageLength t.request.length) all.rows.length,
      (t.atPage index).drawn = .ok (all.page (pageLength t.request.length) index) := by
    intro index within
    have before := Nat.mul_le_mul_right (pageLength t.request.length) within
    rw [drawn_atPage stored uncut unlimited paged (Nat.lt_of_le_of_lt before fits), whole]
    rfl
  refine ⟨all.pages (pageLength t.request.length), _,
    readsOn_range drawn fun index => CountedRows.rows_page_eq_nil_iff positive,
    CountedRows.flatMap_rows_pages positive, fun page => CountedRows.length_rows_of_mem_dropLast positive, ?_⟩
  intro page member
  rw [List.mem_append, List.mem_singleton] at member
  obtain member | rfl := member
  · obtain ⟨index, _, rfl⟩ := List.mem_map.mp member
    exact ⟨rfl, rfl⟩
  · exact ⟨rfl, rfl⟩

end Collection

set_option maxRecDepth 100000 in
/-- A crew of three in pages of two, the order given by a hook: there is a page of two and one of one. -/
theorem pages_tile_of_crew :
    let c : Collection :=
      ⟨"crew", [.object [("name", .string "Ann")], .object [("name", .string "Bob")],
        .object [("name", .string "Cy")]]⟩
    let r : Request := { columns := [{ data := some "name" }], start := -1, length := 2 }
    let t := (ofCollection c r).order (.pure (·.orderBy "name" .desc))
    t.Uncut QueryEdit.Extends ∧ ∃ all pages last, t.withoutPaging.drawn = .ok all ∧ all.rows.length = 3 ∧
      ReadsOn (fun index => (t.atPage index).drawn) (fun index _ => index + 1) 0 pages last ∧
      pages.flatMap (·.rows) = all.rows := by
  intro c r t
  have uncut : t.Uncut QueryEdit.PushesSorts :=
    { skip := rfl
      limit := rfl
      filters := by
        intro edit hooked
        cases hooked
      orders := by
        intro edit hooked
        cases hooked
        exact QueryEdit.pure_pushesSorts fun q => ⟨[⟨"name", .desc⟩], rfl⟩
      own := Rules.withDefaultExclusions_unordered.ordersBy QueryEdit.PushesSorts }
  have planned : ((t.unpagedOutcome [] t.initialPlan).map Plan.filtered).toOption = some (some 3) := by
    decide +kernel
  cases found : t.unpagedOutcome [] t.initialPlan with
  | error e =>
    rw [found] at planned
    cases planned
  | ok plan =>
    obtain ⟨all, filtered, whole⟩ := exists_rows_withoutPaging (c := c) rfl uncut rfl rfl found
    rw [found] at planned
    have three : all.rows.length = 3 := Option.some.inj (filtered.symm.trans (Option.some.inj planned))
    have fits : pageCount (pageLength t.request.length) all.rows.length * pageLength t.request.length <
        2 ^ 63 := by
      rw [three]
      decide
    have appends := uncut.mono fun _ => QueryEdit.PushesSorts.extends
    obtain ⟨_, tile⟩ := pages_tile (c := c) rfl appends rfl rfl
    obtain ⟨pages, last, read, tiled, _⟩ := tile all (whole _ rfl) fits
    exact ⟨appends, all, pages, last, whole _ rfl, three, read, tiled⟩

end Table

end TableQuery
