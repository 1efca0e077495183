import Mathlib.Data.List.Forall2
import TableQuery.Proofs.Table.Calls

set_option autoImplicit false

/- A part falters where it may fail although another part, which it otherwise does the same as, succeeds. What
a table with faltering parts comes to, if it is prepared at all, is what the sound table comes to; and a
preparation that fails leaves nothing behind but calls to the store and log entries. -/
namespace TableQuery

def Refines {α : Type} (x y : Except TableError α) : Prop := ∀ a, x = .ok a → y = .ok a

namespace Refines

variable {α β : Type}

theorem refl (x : Except TableError α) : Refines x x := fun _ found => found

theorem bind {x y : Except TableError α} {f g : α → Except TableError β} (first : Refines x y)
    (next : ∀ a, Refines (f a) (g a)) : Refines (x >>= f) (y >>= g) := by
  intro b found
  obtain ⟨a, comes, later⟩ := bind_eq_ok_iff.mp found
  exact bind_eq_ok_iff.mpr ⟨a, first a comes, next a b later⟩

theorem map {x y : Except TableError α} (first : Refines x y) (f : α → β) :
    Refines (x.map f) (y.map f) := by
  intro b found
  obtain ⟨a, comes, same⟩ := map_eq_ok_iff.mp found
  exact map_eq_ok_iff.mpr ⟨a, first a comes, same⟩

end Refines

namespace QueryEdit

/-- The edit may fail where the other succeeds, and does the same elsewhere. -/
def Falters (edit sound : QueryEdit) : Prop := ∀ q, Refines (edit.run q) (sound.run q)

theorem Falters.refl (edit : QueryEdit) : edit.Falters edit := fun q => Refines.refl (edit.run q)

theorem Falters.all {edits sound : List QueryEdit} (each : List.Forall₂ Falters edits sound) :
    (all edits).Falters (all sound) := by
  induction each with
  | nil => exact refl (QueryEdit.all [])
  | cons first _ ih =>
    intro q
    rw [run_all_cons, run_all_cons]
    exact (first q).bind ih

end QueryEdit

namespace Rules

/-- The searches and orders that are registered for columns may fail where the others succeed. -/
structure Falters (r sound : Rules) : Prop where
  excluded : ∀ column, r.isExcluded column = sound.isExcluded column
  searches : ∀ column, Option.Rel (fun search other => ∀ keyword, (search keyword).Falters (other keyword))
    (r.search? column) (sound.search? column)
  orders : ∀ column, Option.Rel (fun order other => ∀ direction, (order direction).Falters (other direction))
    (r.order? column) (sound.order? column)

namespace Falters

theorem refl (r : Rules) : r.Falters r where
  excluded _ := rfl
  searches column := by
    cases r.search? column with
    | none => exact .none
    | some search => exact .some fun keyword => QueryEdit.Falters.refl (search keyword)
  orders column := by
    cases r.order? column with
    | none => exact .none
    | some order => exact .some fun direction => QueryEdit.Falters.refl (order direction)

variable {r sound : Rules} (falters : r.Falters sound)
include falters

theorem isBarredFromSearch_eq (column : String) :
    r.isBarredFromSearch column = sound.isBarredFromSearch column := by
  unfold isBarredFromSearch
  rw [falters.excluded column]
  have related := falters.searches column
  generalize r.search? column = own, sound.search? column = other at related ⊢
  cases related with
  | none => rfl
  | some _ => rfl

theorem isBarredFromOrder_eq (column : String) :
    r.isBarredFromOrder column = sound.isBarredFromOrder column := by
  unfold isBarredFromOrder
  rw [falters.excluded column]
  have related := falters.orders column
  generalize r.order? column = own, sound.order? column = other at related ⊢
  cases related with
  | none => rfl
  | some _ => rfl

theorem searchEdit (column keyword : String) :
    Option.Rel QueryEdit.Falters (r.searchEdit? column keyword) (sound.searchEdit? column keyword) := by
  unfold searchEdit?
  have related := falters.searches column
  generalize r.search? column = own, sound.search? column = other at related ⊢
  cases related with
  | none => exact .none
  | some each => exact .some (each keyword)

theorem orderEdit (column : String) (direction : Direction) :
    Option.Rel QueryEdit.Falters (r.orderEdit? column direction) (sound.orderEdit? column direction) := by
  unfold orderEdit?
  have related := falters.orders column
  generalize r.order? column = own, sound.order? column = other at related ⊢
  cases related with
  | none => exact .none
  | some each => exact .some (each direction)

theorem orderStep (resolve : Nat → Option String) (order : ColumnOrder) :
    (r.orderStep resolve order).Falters (sound.orderStep resolve order) := by
  unfold Rules.orderStep
  cases resolve order.column with
  | none => exact QueryEdit.Falters.refl _
  | some column =>
    simp only [falters.isBarredFromOrder_eq column]
    split
    · exact QueryEdit.Falters.refl _
    · have related := falters.orderEdit column order.direction
      generalize r.orderEdit? column order.direction = own,
        sound.orderEdit? column order.direction = other at related ⊢
      cases related with
      | none => exact QueryEdit.Falters.refl _
      | some own => exact own

theorem orderSteps (resolve : Nat → Option String) (orders : List ColumnOrder) :
    (r.orderSteps resolve orders).Falters (sound.orderSteps resolve orders) := by
  apply QueryEdit.Falters.all
  rw [List.forall₂_map_left_iff, List.forall₂_map_right_iff, List.forall₂_same]
  exact fun order _ => falters.orderStep resolve order

end Falters

end Rules

namespace Searcher

variable {settings : SearchSettings} {r sound : Rules} (falters : r.Falters sound)
include falters

theorem columnFilter_refines (base : Query) (column keyword : String) (pattern : SearchPattern) :
    Refines (columnFilter ⟨settings, r⟩ base column keyword pattern)
      (columnFilter ⟨settings, sound⟩ base column keyword pattern) := by
  unfold columnFilter
  simp only [falters.isBarredFromSearch_eq column]
  have related := falters.searchEdit column keyword
  generalize r.searchEdit? column keyword = own, sound.searchEdit? column keyword = other at related ⊢
  cases related with
  | none => exact Refines.refl _
  | some search => exact (search base.fresh).map _

theorem addColumn_refines (q : Query) (column keyword : String) (regex : Bool) :
    Refines (addColumn ⟨settings, r⟩ q column keyword regex)
      (addColumn ⟨settings, sound⟩ q column keyword regex) := by
  rw [addColumn_eq, addColumn_eq]
  exact (columnFilter_refines falters q column keyword _).map _

theorem contributions_refines (base : Query) (keyword : String) (columns : List String) :
    Refines (contributions ⟨settings, r⟩ base keyword columns)
      (contributions ⟨settings, sound⟩ base keyword columns) := by
  induction columns with
  | nil => exact Refines.refl _
  | cons column rest ih =>
    unfold contributions
    exact (columnFilter_refines falters base column keyword _).bind fun filter =>
      ih.bind fun filters => Refines.refl _

theorem addGlobal_refines (q : Query) (columns : List String) (keyword : String) :
    Refines (addGlobal ⟨settings, r⟩ q columns keyword) (addGlobal ⟨settings, sound⟩ q columns keyword) := by
  rw [addGlobal_eq, addGlobal_eq]
  exact ((contributions_refines falters q keyword columns).map _).map _

end Searcher

namespace Table

/--
The table is the same as a sound one, except that its store and its callbacks may fail where those of the
sound table succeed. Where its store counts at all, it counts what the sound store counts at any time;
what it fetches, and how rows are shaped, is left open.
-/
structure Falters (u sound : Table) : Prop where
  counts : ∀ calls before q, Refines (u.store.count calls q) (sound.store.count before q)
  rules : u.rules.Falters sound.rules
  filterHook : Option.Rel QueryEdit.Falters u.filterHook sound.filterHook
  orderHook : Option.Rel QueryEdit.Falters u.orderHook sound.orderHook
  limitHook : Option.Rel QueryEdit.Falters u.limitHook sound.limitHook
  rest : { u with
    store := sound.store, rules := sound.rules, filterHook := sound.filterHook
    orderHook := sound.orderHook, limitHook := sound.limitHook, shape := sound.shape } = sound

theorem hookOutcome_refines {hook sound : Option QueryEdit} (falters : Option.Rel QueryEdit.Falters hook sound)
    (q : Query) : Refines (hookOutcome hook q) (hookOutcome sound q) := by
  cases falters with
  | none => exact Refines.refl _
  | some edit => exact edit q

namespace Falters

variable {u t : Table} (falters : u.Falters t)
include falters

/-- Whatever does not look at the parts that may falter is the same for both tables. -/
theorem eq_of_unaware {α : Type} (view : Table → α)
    (unaware : ∀ store rules filterHook orderHook limitHook shape, view u = view { u with
      store := store, rules := rules, filterHook := filterHook, orderHook := orderHook
      limitHook := limitHook, shape := shape }) : view u = view t := by
  rw [unaware t.store t.rules t.filterHook t.orderHook t.limitHook t.shape, falters.rest]

theorem request_eq : u.request = t.request :=
  falters.eq_of_unaware Table.request fun _ _ _ _ _ _ => rfl

theorem settings_eq : u.settings = t.settings :=
  falters.eq_of_unaware Table.settings fun _ _ _ _ _ _ => rfl

theorem skipTotal_eq : u.skipTotal = t.skipTotal :=
  falters.eq_of_unaware Table.skipTotal fun _ _ _ _ _ _ => rfl

theorem totalOutcome (calls before : List StoreCall) (start : Plan) :
    Refines (u.totalOutcome calls start) (t.totalOutcome before start) := by
  unfold Table.totalOutcome
  rw [falters.skipTotal_eq]
  cases start.total with
  | some n => exact Refines.refl _
  | none =>
    cases t.skipTotal with
    | true => exact Refines.refl _
    | false => exact (falters.counts calls before start.query).map some

theorem filteredOutcome (calls before : List StoreCall) (start : Plan) (total : Option Nat)
    (searched : Query) :
    Refines (u.filteredOutcome calls start total searched)
      (t.filteredOutcome before start total searched) := by
  unfold Table.filteredOutcome
  cases start.filtered with
  | some n => exact Refines.refl _
  | none =>
    simp only
    split
    · exact Refines.refl _
    · exact falters.counts calls before searched

theorem globalOutcome (q : Query) : Refines (u.globalOutcome q) (t.globalOutcome q) := by
  have given : u.globalSearch = t.globalSearch :=
    falters.eq_of_unaware Table.globalSearch fun _ _ _ _ _ _ => rfl
  unfold Table.globalOutcome searchedFields searcher
  rw [given, falters.request_eq, falters.settings_eq]
  cases t.globalSearch with
  | false => exact Refines.refl _
  | true =>
    cases t.request.tableKeyword? with
    | none => exact Refines.refl _
    | some keyword => exact Searcher.addGlobal_refines falters.rules q _ keyword

theorem columnOutcome (index : Nat) (q : Query) :
    Refines (u.columnOutcome index q) (t.columnOutcome index q) := by
  unfold Table.columnOutcome searcher
  rw [falters.request_eq, falters.settings_eq]
  split
  · cases t.request.fieldAt? index with
    | none => exact Refines.refl _
    | some column =>
      cases t.request.keywordAt? index with
      | none => exact Refines.refl _
      | some keyword => exact Searcher.addColumn_refines falters.rules q column keyword _
  · exact Refines.refl _

theorem columnsOutcome (positions : List Nat) (q : Query) :
    Refines (u.columnsOutcome positions q) (t.columnsOutcome positions q) := by
  induction positions generalizing q with
  | nil => exact Refines.refl _
  | cons index rest ih => exact (falters.columnOutcome index q).bind ih

theorem filterOutcome (q : Query) : Refines (u.filterOutcome q) (t.filterOutcome q) := by
  unfold Table.filterOutcome
  rw [falters.request_eq]
  exact (falters.globalOutcome q).bind fun q =>
    (hookOutcome_refines falters.filterHook q).bind fun q => falters.columnsOutcome _ q

theorem orderOutcome (q : Query) : Refines (u.orderOutcome q) (t.orderOutcome q) := by
  have given : u.defaultOrder = t.defaultOrder :=
    falters.eq_of_unaware Table.defaultOrder fun _ _ _ _ _ _ => rfl
  unfold Table.orderOutcome
  rw [falters.request_eq, given]
  have related := falters.orderHook
  generalize u.orderHook = own, t.orderHook = other at related ⊢
  cases related with
  | some edit => exact edit q
  | none =>
    cases t.request.applicableOrders with
    | nil => exact Refines.refl _
    | cons order rest => exact falters.rules.orderSteps t.request.fieldAt? (order :: rest) q

theorem pageOutcome (q : Query) : Refines (u.pageOutcome q) (t.pageOutcome q) := by
  have given : u.skipPaging = t.skipPaging :=
    falters.eq_of_unaware Table.skipPaging fun _ _ _ _ _ _ => rfl
  unfold Table.pageOutcome
  rw [falters.request_eq, given]
  split
  · exact Refines.refl _
  · unfold Request.applyPage
    have related := falters.limitHook
    generalize u.limitHook = own, t.limitHook = other at related ⊢
    cases related with
    | none => exact Refines.refl _
    | some edit => exact edit _

/-- A plan that a faltering table comes to is the plan of the sound one. -/
theorem planOutcome (calls before : List StoreCall) (start : Plan) :
    Refines (u.planOutcome calls start) (t.planOutcome before start) := by
  have asked : u.totalAsked start = t.totalAsked start :=
    falters.eq_of_unaware (·.totalAsked start) fun _ _ _ _ _ _ => rfl
  have logged (q : Query) : u.debugLog q = t.debugLog q :=
    falters.eq_of_unaware (·.debugLog q) fun _ _ _ _ _ _ => rfl
  unfold Table.planOutcome unpagedOutcome cutOutcome
  simp only [asked, logged, falters.skipTotal_eq]
  refine Refines.bind ?_ fun plan => (falters.pageOutcome plan.query).bind fun q => Refines.refl _
  refine (falters.totalOutcome calls before start).bind fun total => ?_
  refine (falters.filterOutcome start.query).bind fun searched => ?_
  refine (falters.filteredOutcome _ _ start total searched).bind fun filtered => ?_
  exact (falters.orderOutcome searched).bind fun ordered => Refines.refl _

end Falters

end Table

namespace TableState

def AllFail : TableState → List TableUse → Prop
  | _, [] => True
  | s, use :: rest => use.Fails s ∧ AllFail (use.after s) rest

instance decidableAllFail : (s : TableState) → (uses : List TableUse) → Decidable (s.AllFail uses)
  | _, [] => .isTrue trivial
  | s, use :: rest =>
    have := decidableAllFail (use.after s) rest
    inferInstanceAs (Decidable (use.Fails s ∧ AllFail (use.after s) rest))

theorem plan_afterAll_of_allFail {s : TableState} {uses : List TableUse} (fail : s.AllFail uses) :
    (s.afterAll uses).plan = s.plan := by
  induction uses generalizing s with
  | nil => rfl
  | cons use rest ih =>
    obtain ⟨first, later⟩ := fail
    rw [afterAll_cons, ih later, TableUse.plan_after_of_fails first]

/--
A failed preparation is invisible. Whatever uses came before, one in which preparing the table fails leaves the
plan as it was, and with it the query, the counts and the query log. The first one in which it succeeds,
on a table that may falter, gives the table the plan that the sound table comes to when it is new.
-/
theorem failed_preparation_invisible {t : Table} {s : TableState} (unused : s.plan = t.initialPlan)
    (uses : List TableUse) {use : TableUse} (falters : use.table.Falters t) :
    (use.Fails (s.afterAll uses) → (use.after (s.afterAll uses)).plan = (s.afterAll uses).plan) ∧
    (s.AllFail uses → use.Prepares (s.afterAll uses) →
      ∀ new : TableState, new.plan = t.initialPlan → ∃ done, t.prepare.run.run new = (.ok (), done) ∧
        (use.after (s.afterAll uses)).plan = done.plan) := by
  refine ⟨TableUse.plan_after_of_fails, fun fail success new same => ?_⟩
  have untouched : (s.afterAll uses).plan = t.initialPlan := (plan_afterAll_of_allFail fail).trans unused
  have found := TableUse.planOutcome_of_prepares (Table.pending_of_unused untouched) success
  rw [untouched, ← same] at found
  have sound := falters.planOutcome _ new.calls new.plan _ found
  have waiting := Table.pending_of_unused same
  obtain ⟨done, prepares⟩ :=
    TableM.fst_run_eq_ok_iff.mp ((Table.prepare_run_eq_ok_iff waiting).mpr ⟨_, sound⟩)
  have again := Table.planOutcome_of_run waiting prepares
  exact ⟨done, prepares, Except.ok.inj (sound.symm.trans again)⟩

set_option maxRecDepth 100000 in
/-- A count is refused, then the filter hook fails, then the table is prepared although its store fetches
nothing. -/
theorem failed_preparation_invisible_of_refusals :
    let c : Collection :=
      ⟨"docs", [.object [("name", .string "Ann"), ("team", .string "core")],
        .object [("name", .string "Bob"), ("team", .string "core")]]⟩
    let r : Request :=
      { columns := [{ data := some "name" }, { data := some "team" }], search := { value := "ann" } }
    let hook : QueryEdit := .pure (·.push .and (.compare "team" .eq (.string "core")))
    let t := (Table.ofCollection c r).filter hook true
    let store : Store :=
      { count := fun calls q => if calls.length = 0 then .error (.store "refused") else c.count q
        fetch := fun _ _ => .error (.store "refused") }
    let u := { t with store := store }
    let failing := u.filter (.fail (.callback "filter" "down")) true
    let uses : List TableUse := [⟨u, .prepare⟩, ⟨failing, .run true⟩]
    let use : TableUse := ⟨u, .fetchRows⟩
    let s : TableState := { plan := t.initialPlan }
    use.table.Falters t ∧ s.AllFail uses ∧ use.Prepares (s.afterAll uses) ∧
      ∃ done, t.prepare.run.run s = (.ok (), done) ∧ (use.after (s.afterAll uses)).plan = done.plan := by
  intro c r hook t store u failing uses use s
  have falters : use.table.Falters t :=
    { counts := by
        intro calls before q n counted
        simp only [use, u, store] at counted
        split at counted
        · cases counted
        · exact counted
      rules := Rules.Falters.refl _
      filterHook := .some (QueryEdit.Falters.refl hook)
      orderHook := .none
      limitHook := .none
      rest := rfl }
  have fail : s.AllFail uses := by decide +kernel
  have success : use.Prepares (s.afterAll uses) := by decide +kernel
  obtain ⟨_, sound⟩ := failed_preparation_invisible (s := s) rfl uses falters
  exact ⟨falters, fail, success, sound fail success s rfl⟩

end TableState

end TableQuery
