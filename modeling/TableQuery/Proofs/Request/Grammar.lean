import TableQuery.Proofs.Request.Reading

set_option autoImplicit false

namespace TableQuery

open Json (Value Members ShapeError)

namespace Json.Value

/-- A value stands for an integer of a 64-bit word: it is one, or a text that writes one. -/
inductive StandsFor : Value → Int → Prop
  | number {n : Int} (least : -2 ^ 63 ≤ n) (greatest : n < 2 ^ 63) : StandsFor (.int n) n
  | text {s : String} {n : Int} (writes : Text.WritesInt64 s n) : StandsFor (.string s) n

/-- A field tells an integer. It leaves it to a default where it is missing, `null` or blank. -/
inductive TellsInt (default : Int) : Option Value → Int → Prop
  | missing : TellsInt default none default
  | null : TellsInt default (some .null) default
  | blank {s : String} (blank : Text.isAllBlank s = true) : TellsInt default (some (.string s)) default
  | given {v : Value} {n : Int} (stands : v.StandsFor n) : TellsInt default (some v) n

def IsObject (v : Value) : Prop := ∃ members, v = .object members

def IsArray (v : Value) : Prop := ∃ items, v = .array items

def listed : Option Value → List Value
  | some (.array items) => items
  | _ => []

/-- A field lists things of a kind: it is missing, or an array with nothing but such things. -/
structure Lists (kind : Value → Prop) (field : Option Value) : Prop where
  array : ∀ v ∈ field, v.IsArray
  items : ∀ item ∈ listed field, kind item

/-- A field for a record may be missing or `null`, and else is an object. -/
def HoldsRecord (field : Option Value) : Prop := ∀ v ∈ field, v = .null ∨ v.IsObject

structure IsColumn (v : Value) : Prop where
  object : v.IsObject
  search : HoldsRecord (v.member? "search")

structure IsOrder (v : Value) : Prop where
  object : v.IsObject
  column : ∃ column n, v.member? "column" = some column ∧ column.StandsFor n ∧ 0 ≤ n

structure IsRequest (v : Value) : Prop where
  columns : Lists IsColumn (v.member? "columns")
  order : Lists IsOrder (v.member? "order")
  draw : ∃ n, TellsInt 0 (v.member? "draw") n
  start : ∃ n, TellsInt 0 (v.member? "start") n
  length : ∃ n, TellsInt 10 (v.member? "length") n
  search : HoldsRecord (v.member? "search")

/-- No record of a request is written as the list of its fields: no column, no order and no search. -/
structure NamesFields (v : Value) : Prop where
  columns : ∀ item ∈ listed (v.member? "columns"), ¬ item.IsArray ∧ ∀ s ∈ item.member? "search", ¬ s.IsArray
  order : ∀ item ∈ listed (v.member? "order"), ¬ item.IsArray
  search : ∀ s ∈ v.member? "search", ¬ s.IsArray

theorem StandsFor.fits {v : Value} {n : Int} (stands : v.StandsFor n) : fitsInt64 n = true := by
  cases stands with
  | number least greatest => exact fitsInt64_iff.mpr ⟨least, greatest⟩
  | text writes => exact fitsInt64_iff.mpr ⟨writes.least, writes.greatest⟩

theorem TellsInt.fits {default n : Int} {field : Option Value} (fits : fitsInt64 default = true)
    (tells : TellsInt default field n) : fitsInt64 n = true := by
  cases tells with
  | missing => exact fits
  | null => exact fits
  | blank => exact fits
  | given stands => exact stands.fits

end Json.Value

open Json.Value (TellsInt listed Lists HoldsRecord)

namespace Lenient

theorem int64_eq_ok_iff {field : String} {v : Value} {w : Int64} :
    int64 field v = .ok w ↔ v.StandsFor w.toInt := by
  constructor
  · intro read
    unfold int64 at read
    split at read
    · rename_i number
      cases number with
      | real x => cases read
      | integer n =>
        by_cases fits : Json.fitsInt64 n = true
        · simp only [Json.Number.int64?, fits, if_true, Except.ok.injEq] at read
          obtain ⟨least, greatest⟩ := Json.fitsInt64_iff.mp fits
          rw [← read, Json.toInt_ofInt_of_fits fits]
          exact .number least greatest
        · simp only [Json.Number.int64?, fits, if_false, Bool.false_eq_true, reduceCtorEq] at read
    · split at read
      · rename_i written
        cases read
        exact .text (Text.int64?_trimChars_eq_some_iff.mp written)
      · cases read
    · cases read
  · intro stands
    -- The relation is about an integer, so the word is taken out of it before its cases are split.
    generalize told : w.toInt = n at stands
    cases stands with
    | number least greatest =>
      have fits : Json.fitsInt64 n = true := Json.fitsInt64_iff.mpr ⟨least, greatest⟩
      rw [int64_int fits, ← told, Int64.ofInt_toInt]
    | text writes =>
      rw [← told] at writes
      exact int64_of_writes writes field

theorem int64Or_eq_ok_iff {name : String} {default w : Int64} {field : Option Value} :
    int64Or name default (field.getD .null) = .ok w ↔ TellsInt default.toInt field w.toInt := by
  constructor
  · intro read
    cases field with
    | none =>
      obtain rfl : default = w := Except.ok.inj read
      exact .missing
    | some v =>
      cases v with
      | null =>
        obtain rfl : default = w := Except.ok.inj read
        exact .null
      | string s =>
        rw [Option.getD_some, int64Or] at read
        by_cases blank : Text.isAllBlank s = true
        · rw [if_pos blank] at read
          obtain rfl : default = w := Except.ok.inj read
          exact .blank blank
        · rw [if_neg blank] at read
          exact .given (int64_eq_ok_iff.mp read)
      | _ => exact .given (int64_eq_ok_iff.mp read)
  · intro tells
    generalize told : w.toInt = n at tells
    cases tells with
    | missing => exact congrArg Except.ok (Int64.toInt_inj.mp told.symm)
    | null => exact congrArg Except.ok (Int64.toInt_inj.mp told.symm)
    | blank blank =>
      rw [Option.getD_some, int64Or, if_pos blank]
      exact congrArg Except.ok (Int64.toInt_inj.mp told.symm)
    | given stands =>
      cases stands with
      | number least greatest =>
        have fits : Json.fitsInt64 n = true := Json.fitsInt64_iff.mpr ⟨least, greatest⟩
        rw [Option.getD_some, int64Or_int fits, ← told, Int64.ofInt_toInt]
      | text writes =>
        rw [← told] at writes
        exact int64Or_of_writes writes name default

end Lenient

theorem SearchTerm.read_eq_ok_iff {field : Option Value} (named : ∀ s ∈ field, ¬ s.IsArray) {term : SearchTerm} :
    read field = .ok term ↔ HoldsRecord field ∧ told field = term := by
  have absent (bare : told field = {}) (holds : HoldsRecord field) (reads : read field = .ok {}) :
      read field = .ok term ↔ HoldsRecord field ∧ told field = term := by
    rw [reads, bare, Except.ok.injEq]
    exact ⟨fun same => ⟨holds, same⟩, And.right⟩
  cases field with
  | none => exact absent rfl nofun rfl
  | some v =>
    cases v with
    | null => exact absent rfl (fun v same => .inl (Option.some.inj same).symm) rfl
    | object members =>
      have holds : HoldsRecord (some (.object members)) := fun v same => .inr ⟨members, (Option.some.inj same).symm⟩
      rw [read_object, Except.ok.injEq]
      exact ⟨fun same => ⟨holds, same⟩, And.right⟩
    | array items => exact absurd ⟨items, rfl⟩ (named _ rfl)
    | _ =>
      refine iff_of_false nofun fun given => ?_
      obtain same | ⟨members, same⟩ := given.1 _ rfl
      · cases same
      · cases same

theorem Column.read_eq_ok_iff {item : Value} (named : ¬ item.IsArray)
    (searchNamed : ∀ s ∈ item.member? "search", ¬ s.IsArray) {column : Column} :
    read item = .ok column ↔ item.IsColumn ∧ told item = column := by
  cases item with
  | object members =>
    rw [read_object, map_eq_ok_iff]
    constructor
    · intro given
      obtain ⟨search, found, same⟩ := given
      obtain ⟨holds, rfl⟩ := (SearchTerm.read_eq_ok_iff searchNamed).mp found
      exact ⟨⟨⟨members, rfl⟩, holds⟩, same⟩
    · intro given
      exact ⟨_, (SearchTerm.read_eq_ok_iff searchNamed).mpr ⟨given.1.search, rfl⟩, given.2⟩
  | array items => exact absurd ⟨items, rfl⟩ named
  | _ =>
    refine iff_of_false nofun fun given => ?_
    obtain ⟨members, same⟩ := given.1.object
    cases same

namespace ColumnOrder

/-- An item tells an order: the place of its column, and its direction, which is ascending by default. -/
structure Told (item : Value) (order : ColumnOrder) : Prop where
  object : item.IsObject
  column : ∃ column, item.member? "column" = some column ∧ column.StandsFor order.column
  direction : order.direction = .ofText (((item.member? "dir").bind Value.string?).getD "asc")

theorem convert_eq_ok_iff {column : Value} {dir : Option Value} {order : ColumnOrder} :
    OrderForm.convert ⟨column, dir.getD .null⟩ = .ok order ↔
      column.StandsFor order.column ∧ order.direction = .ofText ((dir.bind Value.string?).getD "asc") := by
  have text : (dir.getD .null).string? = dir.bind Value.string? := by cases dir <;> rfl
  rw [OrderForm.convert, bind_eq_ok_iff, text]
  constructor
  · intro given
    obtain ⟨w, read, checked⟩ := given
    have stands := Lenient.int64_eq_ok_iff.mp read
    split at checked
    · cases checked
    · rename_i place
      obtain rfl := Except.ok.inj checked
      have nonneg : (w.toInt.toNat : Int) = w.toInt := Int.toNat_of_nonneg (Int.not_lt.mp place)
      rw [← nonneg] at stands
      exact ⟨stands, rfl⟩
  · intro given
    obtain ⟨stands, direction⟩ := given
    have value := Json.toInt_ofInt_of_fits stands.fits
    refine ⟨Int64.ofInt order.column, Lenient.int64_eq_ok_iff.mpr (value.symm ▸ stands), ?_⟩
    rw [value, if_neg (Int.not_lt.mpr (Int.natCast_nonneg _)), Int.toNat_natCast, ← direction]
    rfl

theorem read_eq_ok_iff {item : Value} (named : ¬ item.IsArray) {order : ColumnOrder} :
    read item = .ok (.ok order) ↔ Told item order := by
  cases item with
  | object members =>
    constructor
    · intro found
      cases given : Members.get? "column" members with
      | none =>
        rw [read_object_of_missing given] at found
        cases found
      | some column =>
        rw [read_object_of_given given, Except.ok.injEq, convert_eq_ok_iff] at found
        exact ⟨⟨members, rfl⟩, ⟨column, given, found.1⟩, found.2⟩
    · intro told
      obtain ⟨column, given, stands⟩ := told.column
      rw [read_object_of_given given, Except.ok.injEq, convert_eq_ok_iff]
      exact ⟨stands, told.direction⟩
  | array items => exact absurd ⟨items, rfl⟩ named
  | _ =>
    refine iff_of_false nofun fun told => ?_
    obtain ⟨members, same⟩ := told.object
    cases same

theorem exists_told_iff {item : Value} : (∃ order, Told item order) ↔ item.IsOrder := by
  constructor
  · intro given
    obtain ⟨order, told⟩ := given
    obtain ⟨column, found, stands⟩ := told.column
    exact ⟨told.object, column, order.column, found, stands, Int.natCast_nonneg _⟩
  · intro isOrder
    obtain ⟨column, n, found, stands, nonneg⟩ := isOrder.column
    rw [← Int.toNat_of_nonneg nonneg] at stands
    exact ⟨⟨n.toNat, _⟩, isOrder.object, ⟨column, found, stands⟩, rfl⟩

end ColumnOrder

namespace RequestForm

theorem listOf_eq_ok_iff {α : Type} {item : Value → Except ShapeError α} {field : Option Value} {parts : List α} :
    listOf item field = .ok parts ↔
      (∀ v ∈ field, v.IsArray) ∧ List.Forall₂ (fun v a => item v = .ok a) (listed field) parts := by
  cases field with
  | none =>
    rw [listOf, listed, List.forall₂_nil_left_iff, Except.ok.injEq]
    · exact ⟨fun same => ⟨nofun, same.symm⟩, fun given => given.2.symm⟩
    · exact nofun
  | some v =>
    cases v with
    | array items =>
      have array : ∀ v ∈ some (Value.array items), v.IsArray := fun v same => ⟨items, (Option.some.inj same).symm⟩
      rw [listOf, Json.decodeArray, listed, Json.decodeItems_eq_ok_iff]
      exact ⟨fun each => ⟨array, each⟩, And.right⟩
    | _ =>
      refine iff_of_false nofun fun given => ?_
      obtain ⟨items, same⟩ := given.1 _ rfl
      cases same

end RequestForm

theorem forall₂_congr_of_mem {α β : Type} {R S : α → β → Prop} {as : List α} {bs : List β}
    (each : ∀ a ∈ as, ∀ b, R a b ↔ S a b) : List.Forall₂ R as bs ↔ List.Forall₂ S as bs := by
  induction as generalizing bs with
  | nil => rw [List.forall₂_nil_left_iff, List.forall₂_nil_left_iff]
  | cons a rest ih =>
    obtain ⟨first, later⟩ := List.forall_mem_cons.mp each
    rw [List.forall₂_cons_left_iff, List.forall₂_cons_left_iff]
    simp only [first, ih later]

theorem mapM_id_eq_ok_iff {ε α : Type} {outcomes : List (Except ε α)} {parts : List α} :
    outcomes.mapM id = .ok parts ↔ parts.map .ok = outcomes := by
  induction outcomes generalizing parts with
  | nil =>
    rw [List.mapM_nil, List.map_eq_nil_iff]
    exact ⟨fun same => (Except.ok.inj same).symm, fun none => congrArg Except.ok none.symm⟩
  | cons outcome rest ih =>
    rw [List.mapM_cons, bind_eq_ok_iff, List.map_eq_cons_iff]
    constructor
    · intro given
      obtain ⟨a, first, given⟩ := given
      obtain ⟨others, later, same⟩ := bind_eq_ok_iff.mp given
      exact ⟨a, others, (Except.ok.inj same).symm, first.symm, ih.mp later⟩
    · intro given
      obtain ⟨a, others, rfl, first, later⟩ := given
      exact ⟨a, first.symm, bind_eq_ok_iff.mpr ⟨others, ih.mpr later, rfl⟩⟩

namespace Request

variable {members : Members} {r : Request}

theorem listOf_column_eq_ok_iff (named : (Value.object members).NamesFields) {columns : List Column} :
    RequestForm.listOf Column.read (Members.get? "columns" members) = .ok columns ↔
      Lists Value.IsColumn (Members.get? "columns" members) ∧
        (listed (Members.get? "columns" members)).map Column.told = columns := by
  have each (item : Value) (inside : item ∈ listed (Members.get? "columns" members)) (column : Column) :
      Column.read item = .ok column ↔ item.IsColumn ∧ Column.told item = column :=
    Column.read_eq_ok_iff (named.columns item inside).1 (named.columns item inside).2
  rw [RequestForm.listOf_eq_ok_iff, forall₂_congr_of_mem each, List.forall₂_and_left, ← List.forall₂_map_left_iff,
    List.forall₂_eq_eq_eq, ← and_assoc]
  exact and_congr_left' ⟨fun given => ⟨given.1, given.2⟩, fun given => ⟨given.array, given.items⟩⟩

theorem listOf_order_eq_ok_iff (named : (Value.object members).NamesFields) {order : List ColumnOrder} :
    RequestForm.listOf ColumnOrder.read (Members.get? "order" members) = .ok (order.map .ok) ↔
      (∀ v ∈ Members.get? "order" members, v.IsArray) ∧
        List.Forall₂ ColumnOrder.Told (listed (Members.get? "order" members)) order := by
  have each (item : Value) (inside : item ∈ listed (Members.get? "order" members)) (order : ColumnOrder) :
      ColumnOrder.read item = .ok (.ok order) ↔ ColumnOrder.Told item order :=
    ColumnOrder.read_eq_ok_iff (named.order item inside)
  rw [RequestForm.listOf_eq_ok_iff, List.forall₂_map_right_iff, forall₂_congr_of_mem each]

/-- An object tells a request: each of its fields is of its kind, and the request is what they tell. -/
structure Told (v : Value) (r : Request) : Prop where
  columns : Lists Value.IsColumn (v.member? "columns")
  columnsTold : (listed (v.member? "columns")).map Column.told = r.columns
  order : ∀ list ∈ v.member? "order", list.IsArray
  orderTold : List.Forall₂ ColumnOrder.Told (listed (v.member? "order")) r.order
  draw : ∃ n, TellsInt 0 (v.member? "draw") n ∧ r.draw = n.toNat
  start : TellsInt 0 (v.member? "start") r.start.toInt
  length : TellsInt 10 (v.member? "length") r.length.toInt
  search : HoldsRecord (v.member? "search")
  searchTold : SearchTerm.told (v.member? "search") = r.search

theorem ofValue_object_eq_ok_iff : ofValue (.object members) = .ok r ↔ read members = .ok (.ok r) := by
  rw [ofValue_object]
  cases read members with
  | error e => exact iff_of_false nofun nofun
  | ok outcome => exact ⟨congrArg Except.ok, Except.ok.inj⟩

/-- An object is read as the request that it tells. -/
theorem ofValue_eq_ok_iff_told (named : (Value.object members).NamesFields) :
    ofValue (.object members) = .ok r ↔ Told (.object members) r := by
  have search (term : SearchTerm) : SearchTerm.read (Members.get? "search" members) = .ok term ↔
      HoldsRecord (Members.get? "search" members) ∧ SearchTerm.told (Members.get? "search" members) = term :=
    SearchTerm.read_eq_ok_iff named.search
  rw [ofValue_object_eq_ok_iff]
  simp only [read, bind_eq_ok_iff, pure, Except.pure, Except.ok.injEq, mapM_id_eq_ok_iff,
    Lenient.int64Or_eq_ok_iff, listOf_column_eq_ok_iff named, search]
  constructor
  · intro given
    obtain ⟨columns, ⟨lists, told⟩, orders, found, search, ⟨holds, term⟩, order, rfl, draw, drawn, start, started,
      length, sized, rfl⟩ := given
    obtain ⟨array, each⟩ := (listOf_order_eq_ok_iff named).mp found
    exact ⟨lists, told, array, each, ⟨draw.toInt, drawn, rfl⟩, started, sized, holds, term⟩
  · intro told
    obtain ⟨n, drawn, draw⟩ := told.draw
    have value := Json.toInt_ofInt_of_fits (drawn.fits (by decide))
    rw [← value] at drawn draw
    have orders := (listOf_order_eq_ok_iff named).mpr ⟨told.order, told.orderTold⟩
    exact ⟨r.columns, ⟨told.columns, told.columnsTold⟩, _, orders, r.search, ⟨told.search, told.searchTold⟩, r.order,
      rfl, _, drawn, r.start, told.start, r.length, told.length, by rw [← draw]⟩

theorem exists_forall₂_iff {α β : Type} {R : α → β → Prop} {as : List α} :
    (∃ bs, List.Forall₂ R as bs) ↔ ∀ a ∈ as, ∃ b, R a b := by
  induction as with
  | nil => exact iff_of_true ⟨[], .nil⟩ nofun
  | cons a rest ih =>
    rw [List.forall_mem_cons, ← ih]
    constructor
    · intro given
      obtain ⟨bs, each⟩ := given
      cases each with
      | cons first later => exact ⟨⟨_, first⟩, _, later⟩
    · intro given
      obtain ⟨⟨b, first⟩, bs, later⟩ := given
      exact ⟨b :: bs, .cons first later⟩

/-- The objects that tell a request are those whose fields are each of its kind. -/
theorem exists_told_iff {v : Value} : (∃ r, Told v r) ↔ v.IsRequest := by
  constructor
  · intro given
    obtain ⟨r, told⟩ := given
    obtain ⟨n, draw, -⟩ := told.draw
    have orders : ∀ item ∈ listed (v.member? "order"), item.IsOrder := fun item inside =>
      ColumnOrder.exists_told_iff.mp (exists_forall₂_iff.mp ⟨r.order, told.orderTold⟩ item inside)
    exact ⟨told.columns, ⟨told.order, orders⟩, ⟨n, draw⟩, ⟨_, told.start⟩, ⟨_, told.length⟩, told.search⟩
  · intro isRequest
    obtain ⟨draw, drawn⟩ := isRequest.draw
    obtain ⟨start, started⟩ := isRequest.start
    obtain ⟨length, sized⟩ := isRequest.length
    obtain ⟨order, orders⟩ := exists_forall₂_iff.mpr fun item inside =>
      ColumnOrder.exists_told_iff.mpr (isRequest.order.items item inside)
    have startValue := Json.toInt_ofInt_of_fits (started.fits (by decide))
    have lengthValue := Json.toInt_ofInt_of_fits (sized.fits (by decide))
    let r : Request :=
      { draw := draw.toNat, columns := (listed (v.member? "columns")).map Column.told, order
        start := .ofInt start, length := .ofInt length, search := SearchTerm.told (v.member? "search") }
    exact ⟨r, isRequest.columns, rfl, isRequest.order.array, orders, ⟨draw, drawn, rfl⟩, startValue.symm ▸ started,
      lengthValue.symm ▸ sized, isRequest.search, rfl⟩

end Request

def OnlyRefuses {α : Type} (outcome : Except TableError α) : Prop :=
  ∀ e, outcome = .error e → ∃ reason, e = .request reason

namespace OnlyRefuses

variable {α β : Type}

theorem ok (a : α) : OnlyRefuses (.ok a) := nofun

theorem refusal (reason : String) : OnlyRefuses (.error (.request reason) : Except TableError α) :=
  fun _ failed => ⟨reason, (Except.error.inj failed).symm⟩

theorem bind {first : Except TableError α} {next : α → Except TableError β} (before : OnlyRefuses first)
    (after : ∀ a, OnlyRefuses (next a)) : OnlyRefuses (first >>= next) := by
  intro e failed
  cases first with
  | error other =>
    obtain rfl : other = e := Except.error.inj failed
    exact before other rfl
  | ok a => exact after a e failed

theorem mapM {step : α → Except TableError β} (each : ∀ a, OnlyRefuses (step a)) (parts : List α) :
    OnlyRefuses (parts.mapM step) := by
  induction parts with
  | nil => exact ok []
  | cons a rest ih =>
    rw [List.mapM_cons]
    exact (each a).bind fun b => ih.bind fun bs => ok (b :: bs)

theorem int64 (field : String) (v : Value) : OnlyRefuses (Lenient.int64 field v) := by
  unfold Lenient.int64
  split
  · split
    · exact ok _
    · exact refusal _
  · split
    · exact ok _
    · exact refusal _
  · exact refusal _

theorem int64Or (field : String) (default : Int64) (v : Value) : OnlyRefuses (Lenient.int64Or field default v) := by
  unfold Lenient.int64Or
  split
  · exact ok default
  · split
    · exact ok default
    · exact int64 field _
  · exact int64 field v

theorem convertOrder (form : OrderForm) : OnlyRefuses form.convert := by
  refine (int64 "order.column" form.column).bind fun column => ?_
  split
  · exact refusal _
  · exact ok _

/-- Whatever value is read as a request, it is refused as a bad request or not at all. -/
theorem ofValue (v : Value) : OnlyRefuses (Request.ofValue v) := by
  unfold Request.ofValue
  split
  · rename_i form _
    exact (mapM convertOrder form.order).bind fun order => (int64Or "draw" 0 form.draw).bind fun draw =>
      (int64Or "start" 0 form.start).bind fun start => (int64Or "length" 10 form.length).bind fun length => ok _
  · exact refusal _

end OnlyRefuses

namespace Request

/--
What is read as a request. Where no record in an object is written as the list of its fields, the object is read
exactly if each of its fields is of its kind. The columns and the orders of the request are then those of the object,
one for each item and in the same order. Otherwise the error is that of a bad request.
-/
theorem ofValue_accepts_iff {members : Members} (named : (Value.object members).NamesFields) :
    ((∃ r, ofValue (.object members) = .ok r) ↔ (Value.object members).IsRequest) ∧
    (∀ r, ofValue (.object members) = .ok r →
      r.columns = (listed (Members.get? "columns" members)).map Column.told ∧
      List.Forall₂ ColumnOrder.Told (listed (Members.get? "order" members)) r.order) ∧
    ∀ e, ofValue (.object members) = .error e → e.code = "TABLE_INVALID_REQUEST" := by
  refine ⟨?_, fun r read => ?_, fun e failed => ?_⟩
  · rw [← exists_told_iff]
    exact exists_congr fun r => ofValue_eq_ok_iff_told named
  · have told := (ofValue_eq_ok_iff_told named).mp read
    exact ⟨told.columnsTold.symm, told.orderTold⟩
  · obtain ⟨reason, rfl⟩ := OnlyRefuses.ofValue _ e failed
    rfl

/-- An object that spells some integers as texts and leaves others out is a request. -/
theorem ofValue_accepts_of_spelled :
    let members : Members :=
      [("columns", .array [.object [("data", .int 0), ("search", .null)], .object [("search", .object [])]]),
        ("draw", .string " +7 "), ("length", .string " "),
        ("order", .array [.object [("column", .string "1")], .object [("column", .int 0), ("dir", .string "desc")]])]
    (Value.object members).NamesFields ∧ (Value.object members).IsRequest ∧
      ∃ r, ofValue (.object members) = .ok r ∧ r.columns.length = 2 ∧ r.order.length = 2 := by
  intro members
  have named : (Value.object members).NamesFields := by
    refine ⟨fun item inside => ?_, fun item inside => ?_, nofun⟩
    · rcases List.mem_pair.mp inside with rfl | rfl
      · exact ⟨nofun, by rintro s ⟨⟩ ⟨items, ⟨⟩⟩⟩
      · exact ⟨nofun, by rintro s ⟨⟩ ⟨items, ⟨⟩⟩⟩
    · rcases List.mem_pair.mp inside with rfl | rfl
      · exact nofun
      · exact nofun
  obtain ⟨accepts, told, -⟩ := ofValue_accepts_iff named
  have read : ∃ r, ofValue (.object members) = .ok r := isOk_iff.mp (by decide +kernel)
  obtain ⟨r, read⟩ := read
  obtain ⟨columns, orders⟩ := told r read
  refine ⟨named, accepts.mp ⟨r, read⟩, r, read, ?_, orders.length_eq.symm⟩
  rw [columns]
  rfl

end Request

end TableQuery
