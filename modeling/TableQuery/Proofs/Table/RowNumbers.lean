import TableQuery.Proofs.Rows.Edits
import TableQuery.Proofs.Table.Answers
import TableQuery.Proofs.Table.Unpaged

set_option autoImplicit false

namespace TableQuery

open Json (Value Members)

namespace RowShape

variable {m : RowShape} {row value : Value} {index : Nat} {members : Members}

theorem number_of_shapeRow (numbered : m.numbersRows = true)
    (shaped : m.shapeRow row index = .ok (.object members)) :
    Members.get? rowNumberKey members = some (.nat index) := by
  obtain ⟨edited, _, same⟩ := map_eq_ok_iff.mp shaped
  rw [numbered, if_pos rfl] at same
  split at same
  · cases same
  · cases edited with
    | object kept =>
      cases same
      rw [Members.get?_insert, if_pos rfl]
    | _ => cases same

end RowShape

namespace Collection

def allRows (c : Collection) (q : Query) : List Value :=
  sortDocuments q.sorts (c.documents.filter fun document => (Filter.group q.filter).Matches document)

theorem window_allRows {c : Collection} {q : Query} {rows : List Value} (fetched : c.fetch q = .ok rows) :
    window q.skip q.limit (c.allRows q) = rows := by
  obtain ⟨compiles, rfl⟩ := fetch_eq_ok_iff.mp fetched
  rw [allRows, c.filter_matches compiles]

end Collection

namespace Table

variable {t : Table} {c : Collection}

/-- How many of all rows come before the first that is drawn: those before the page, and none without paging. -/
def rowsBefore (t : Table) : Nat := if t.skipPaging then 0 else t.request.offset

/-- The rows that are drawn of all rows: those of the page, or every row without paging. -/
def drawnOf (t : Table) (all : List Value) : List Value :=
  if t.skipPaging then all else (all.drop t.request.offset).take (pageLength t.request.length)

theorem getElem?_of_drawnOf {all : List Value} {index : Nat} {row : Value}
    (found : (t.drawnOf all)[index]? = some row) : all[t.rowsBefore + index]? = some row := by
  unfold drawnOf at found
  unfold rowsBefore
  cases skipped : t.skipPaging with
  | true =>
    rw [skipped] at found
    rwa [if_pos rfl, Nat.zero_add]
  | false =>
    rw [skipped, if_neg Bool.false_ne_true, List.getElem?_take] at found
    split at found
    · rwa [List.getElem?_drop] at found
    · cases found

theorem fetched_eq_drawnOf (uncut : t.Uncut QueryEdit.Extends) (unlimited : t.limitHook = none)
    {calls : List StoreCall} {plan : Plan} (found : t.planOutcome calls t.initialPlan = .ok plan) {rows : List Value}
    (fetched : c.fetch plan.query = .ok rows) : rows = t.drawnOf (c.allRows plan.query) := by
  obtain ⟨whole, unpaged, pages, _⟩ := planOutcome_eq_ok found
  have window := (unpagedOutcome_extends uncut unpaged).window
  rw [← Collection.window_allRows fetched]
  unfold drawnOf
  cases skipped : t.skipPaging with
  | true =>
    unfold pageOutcome at pages
    rw [skipped] at pages
    rw [← Except.ok.inj pages, window.1.trans uncut.skip, window.2.trans uncut.limit]
    rfl
  | false =>
    rw [pageOutcome_eq unlimited skipped] at pages
    rw [← Except.ok.inj pages]
    rfl

theorem length_allRows_run {s : TableState} (ready : s.plan.prepared = true) {n : Nat}
    (counted : c.count s.plan.query = .ok n) {objectRows : Bool} :
    (c.allRows ((t.run objectRows).run s).2.plan.query).length = n := by
  have kept : ((t.run objectRows).run s).2.plan = s.plan :=
    (TableCall.after_of_prepares (preparesTo_of_prepared ready) (.run objectRows)).1
  rw [kept, Collection.allRows, length_sortDocuments]
  exact Collection.length_matches counted

theorem isSuccess_run_of_prepared (stored : t.store = c.store) (uncomputed : t.shape.edits = [])
    {s : TableState} (ready : s.plan.prepared = true)
    (compiles : (Filter.group s.plan.query.filter).Compiles) {objectRows : Bool} :
    ((t.run objectRows).run s).1.isSuccess = true := by
  have drawn := fetchCounted_run_of_prepared (s := { s with log := s.log.write t.scope.begun }) stored ready
  have found : c.draw s.plan = .ok _ := map_eq_ok_iff.mpr ⟨_, Collection.fetch_eq_ok_iff.mpr ⟨compiles, rfl⟩, rfl⟩
  exact isSuccess_run uncomputed (drawn.trans found)

theorem exists_shapes_of_run (stored : t.store = c.store) (uncut : t.Uncut QueryEdit.Extends)
    (unlimited : t.limitHook = none) {s : TableState} (has : t.HasPlan s.plan) {objectRows : Bool}
    (success : ((t.run objectRows).run s).1.isSuccess = true) :
    (t.rowShape objectRows).Shapes
      ((t.drawnOf (c.allRows ((t.run objectRows).run s).2.plan.query)).zipIdx (t.request.offset + 1))
      ((t.run objectRows).run s).1.data := by
  obtain ⟨plan, data, ⟨calls, rows, prepares, fetched, shapes⟩, answer⟩ := draws_of_success success
  have kept : ((t.run objectRows).run s).2.plan = plan :=
    (TableCall.after_of_prepares prepares (.run objectRows)).1
  obtain ⟨earlier, found⟩ := (has.of_prepares prepares).2 rfl
  rw [stored] at fetched
  rw [kept, answer, ← fetched_eq_drawnOf uncut unlimited found fetched]
  exact shapes

/--
What the numbers of rows say. Each value of the data is the shape of a row, which stands among all filtered and
sorted rows behind those before the page, and without paging behind none. The number that it holds counts from
the start of the request. So it is one more than the place of the row among all rows exactly where there is
paging, where the request starts with the first row, or where no row is an object that could hold a number.
-/
theorem rowNumber_is_place_iff (stored : t.store = c.store) (uncut : t.Uncut QueryEdit.Extends)
    (unlimited : t.limitHook = none) (numbered : t.shape.numbersRows = true) {start : TableState}
    (unused : start.plan = t.initialPlan) {before : List TableUse} (same : ∀ use ∈ before, use.table = t)
    (success : ((t.run true).run (start.afterAll before)).1.isSuccess = true) :
    let data := ((t.run true).run (start.afterAll before)).1.data
    let all := c.allRows ((t.run true).run (start.afterAll before)).2.plan.query
    data.length = (t.drawnOf all).length ∧
    (∀ index value, data[index]? = some value → ∃ row, all[t.rowsBefore + index]? = some row ∧
      t.shape.shapeRow row (t.request.offset + 1 + index) = .ok value) ∧
    (∀ index members, data[index]? = some (.object members) →
      Members.get? rowNumberKey members = some (.nat (t.request.offset + 1 + index))) ∧
    ((∀ index members, data[index]? = some (.object members) →
        Members.get? rowNumberKey members = some (.nat (t.rowsBefore + index + 1))) ↔
      (t.skipPaging = true → t.request.offset = 0 ∨ ∀ members, Value.object members ∉ data)) := by
  intro data all
  have shapes : t.shape.Shapes ((t.drawnOf all).zipIdx (t.request.offset + 1)) data :=
    exists_shapes_of_run stored uncut unlimited (TableState.hasPlan_afterAll (.inl unused) same) success
  have placed (index : Nat) (value : Value) (found : data[index]? = some value) :
      ∃ row, all[t.rowsBefore + index]? = some row ∧
        t.shape.shapeRow row (t.request.offset + 1 + index) = .ok value := by
    obtain ⟨row, drawn, shaped⟩ := shapes.getElem? found
    exact ⟨row, getElem?_of_drawnOf drawn, shaped⟩
  have numbers (index : Nat) (members : Members) (found : data[index]? = some (.object members)) :
      Members.get? rowNumberKey members = some (.nat (t.request.offset + 1 + index)) := by
    obtain ⟨row, _, shaped⟩ := placed index _ found
    exact RowShape.number_of_shapeRow numbered shaped
  refine ⟨?_, placed, numbers, fun absolute skipped => ?_, fun counted index members found => ?_⟩
  · rw [← shapes.length_eq, List.length_zipIdx]
  · refine Classical.or_iff_not_imp_right.mpr fun objects => ?_
    obtain ⟨members, member⟩ := Classical.not_forall.mp objects
    obtain ⟨index, found⟩ := List.getElem?_of_mem (Classical.not_not.mp member)
    have first := (numbers index members found).symm.trans (absolute index members found)
    rw [rowsBefore, if_pos skipped] at first
    have places := Int.ofNat.inj (Json.Number.integer.inj (Value.number.inj (Option.some.inj first)))
    omega
  · rw [numbers index members found]
    have before : t.rowsBefore = t.request.offset := by
      unfold rowsBefore
      split
      · rename_i skipped
        rcases counted skipped with zero | none_there
        · exact zero.symm
        · exact absurd (List.mem_of_getElem? found) (none_there members)
      · rfl
    rw [before, Nat.add_right_comm]

set_option maxRecDepth 100000 in
/-- The second of three pages of one row, after the plan was explained: its row is the second of all rows, and says
so. -/
theorem rowNumber_is_place_of_crew :
    let c : Collection :=
      ⟨"crew", [.object [("name", .string "Ann")], .object [("name", .string "Dan")],
        .object [("name", .string "Jan")]]⟩
    let r : Request :=
      { columns := [{ data := some "name" }], order := [⟨0, .desc⟩], start := 1, length := 1,
        search := { value := "an" } }
    let t := (ofCollection c r).numberRows
    let uses : List TableUse := [⟨t, .explain⟩]
    let start : TableState := { plan := t.initialPlan }
    let all := c.allRows ((t.run true).run (start.afterAll uses)).2.plan.query
    t.Uncut QueryEdit.Extends ∧ ((t.run true).run (start.afterAll uses)).1.isSuccess = true ∧
      ∃ row members, ((t.run true).run (start.afterAll uses)).1.data = [.object members] ∧ all[1]? = some row ∧
        t.shape.shapeRow row 2 = .ok (.object members) ∧
        Members.get? rowNumberKey members = some (.nat 2) := by
  intro c r t uses start all
  have uncut : t.Uncut QueryEdit.Extends :=
    { skip := rfl
      limit := rfl
      filters := nofun
      orders := nofun
      own := Rules.withDefaultExclusions_unordered.ordersBy QueryEdit.Extends }
  have ready : (start.afterAll uses).plan.prepared = true := by decide +kernel
  have counts : c.count (start.afterAll uses).plan.query = .ok 3 := by decide +kernel
  have success : ((t.run true).run (start.afterAll uses)).1.isSuccess = true :=
    isSuccess_run_of_prepared (c := c) rfl rfl ready (Collection.count_eq_ok_iff.mp counts).1
  have stored : t.store = c.store := rfl
  have unlimited : t.limitHook = none := rfl
  have numbered : t.shape.numbersRows = true := rfl
  have unused : start.plan = t.initialPlan := rfl
  have same : ∀ use ∈ uses, use.table = t := List.forall_mem_singleton.mpr rfl
  obtain ⟨length, placed, _, absolute⟩ :=
    rowNumber_is_place_iff stored uncut unlimited numbered unused same success
  have three : all.length = 3 := length_allRows_run ready counts
  have one : ((t.run true).run (start.afterAll uses)).1.data.length = 1 := by
    refine length.trans ?_
    change ((all.drop 1).take 1).length = 1
    rw [List.length_take, List.length_drop, three]
    rfl
  obtain ⟨value, only⟩ := List.length_eq_one_iff.mp one
  have found : ((t.run true).run (start.afterAll uses)).1.data[0]? = some value := by
    rw [only]
    rfl
  obtain ⟨row, atPlace, shaped⟩ := placed 0 value found
  have among : row ∈ c.documents :=
    List.mem_of_mem_filter ((sortDocuments_perm _ _).subset (List.mem_of_getElem? atPlace))
  obtain ⟨members, rfl⟩ : ∃ members, row = .object members := by
    simp only [c, List.mem_cons, List.not_mem_nil, or_false] at among
    rcases among with rfl | rfl | rfl <;> exact ⟨_, rfl⟩
  obtain ⟨kept, rfl, _⟩ := RowShape.exists_object_of_shapeRow rfl shaped
  exact ⟨uncut, success, _, kept, only, atPlace, shaped, absolute.mpr nofun 0 kept found⟩

set_option maxRecDepth 100000 in
/-- Without paging, the first of all rows of a request that starts with the sixth has the number six. -/
theorem rowNumber_beyond_place :
    let c : Collection := ⟨"docs", [.object [("name", .string "Ann")]]⟩
    let r : Request := { columns := [{ data := some "name" }], start := 5 }
    let t := (ofCollection c r).withoutPaging.numberRows
    let data := ((t.run true).run { plan := t.initialPlan }).1.data
    ((t.run true).run { plan := t.initialPlan }).1.isSuccess = true ∧ t.rowsBefore = 0 ∧
      ¬ ∀ index members, data[index]? = some (.object members) →
        Members.get? rowNumberKey members = some (.nat (t.rowsBefore + index + 1)) := by
  intro c r t data
  have success : ((t.run true).run { plan := t.initialPlan }).1.isSuccess = true := by decide +kernel
  refine ⟨success, rfl, fun absolute => ?_⟩
  have six : (data[0]?.bind (·.member? rowNumberKey)).any (·.equals (.nat 6)) = true := by decide +kernel
  cases found : data[0]? with
  | none =>
    rw [found] at six
    cases six
  | some value =>
    rw [found] at six
    cases value with
    | object members =>
      have one : Members.get? rowNumberKey members = some (.nat 1) := absolute 0 members found
      change (Members.get? rowNumberKey members).any (·.equals (.nat 6)) = true at six
      rw [one] at six
      revert six
      decide
    | _ => cases six

end Table

end TableQuery
