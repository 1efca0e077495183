import Mathlib.Algebra.Group.Int.Defs
import TableQuery.Proofs.Json.Members
import TableQuery.Request.Basic
import TableQuery.Request.Decode

set_option autoImplicit false

namespace TableQuery

open Json (Value Members Fields ShapeError)

namespace Json

/-- A field of an object that was made from pairs is the last of them under its name. -/
theorem Fields.get?_ofList (name : String) (position : Nat) (pairs : List (String × Value)) :
    (Fields.named (Members.ofList pairs)).get? name position = Members.get? name pairs.reverse :=
  Members.get?_ofList name pairs

/-- Items that are each read back are read back as a list. -/
theorem decodeItems_map {α β : Type} {item : Value → Except ShapeError β} {write : α → Value} {form : α → β}
    (reads : ∀ a, item (write a) = .ok (form a)) (items : List α) :
    decodeItems item (items.map write) = .ok (items.map form) := by
  induction items with
  | nil => rfl
  | cons a rest ih =>
    rw [List.map_cons, decodeItems, reads, ih]
    rfl

theorem fitsInt64_iff {n : Int} : fitsInt64 n = true ↔ -2 ^ 63 ≤ n ∧ n < 2 ^ 63 := decide_eq_true_iff

theorem fitsInt64_toInt (n : Int64) : fitsInt64 n.toInt = true := fitsInt64_iff.mpr ⟨n.le_toInt, n.toInt_lt⟩

theorem fitsInt64_ofNat {n : Nat} (bound : n < 2 ^ 63) : fitsInt64 n = true := by
  rw [fitsInt64_iff]
  omega

theorem toInt_ofInt_of_fits {n : Int} (fits : fitsInt64 n = true) : (Int64.ofInt n).toInt = n :=
  Int64.toInt_ofInt_of_le (fitsInt64_iff.mp fits).1 (fitsInt64_iff.mp fits).2

end Json

namespace Lenient

theorem int64_int {n : Int} (fits : Json.fitsInt64 n = true) (field : String) :
    int64 field (.int n) = .ok (Int64.ofInt n) := by
  rw [Value.int, int64, Json.Number.int64?, if_pos fits]

theorem int64Or_int {n : Int} (fits : Json.fitsInt64 n = true) (field : String) (default : Int64) :
    int64Or field default (.int n) = .ok (Int64.ofInt n) := int64_int fits field

theorem text?_orNull (text : Option String) : text? (.orNull .string text) = text := by
  cases text with
  | none => rfl
  | some s => rfl

end Lenient

namespace SearchTerm

/-- The fields of a search as they are written. -/
def form (s : SearchTerm) : SearchForm := ⟨.string s.value, .bool s.regex⟩

theorem ofValue_toValue (s : SearchTerm) : SearchForm.ofValue s.toValue = .ok s.form := by
  rw [toValue, Value.ofMembers, SearchForm.ofValue, Fields.ofValue]
  change Except.ok (SearchForm.mk (Fields.getOrNull "value" 0 _) (Fields.getOrNull "regex" 1 _)) = _
  rw [Fields.getOrNull, Fields.getOrNull, Json.Fields.get?_ofList, Json.Fields.get?_ofList]
  rfl

theorem ofOptional_toValue (s : SearchTerm) : SearchForm.ofOptional (some s.toValue) = .ok (some s.form) := by
  change (SearchForm.ofValue s.toValue).map some = _
  rw [s.ofValue_toValue]
  rfl

theorem convert_form (s : SearchTerm) : s.form.convert = s := rfl

end SearchTerm

namespace Column

def form (c : Column) : ColumnForm :=
  { data := .orNull .string c.data, name := .orNull .string c.name, searchable := .bool c.searchable
    orderable := .bool c.orderable, search := some c.search.form }

theorem ofValue_toValue (c : Column) : ColumnForm.ofValue c.toValue = .ok c.form := by
  rw [toValue, Value.ofMembers, ColumnForm.ofValue, Fields.ofValue]
  simp only [Fields.checkCount, Fields.getOrNull, Json.Fields.get?_ofList, bind, Except.bind]
  change (SearchForm.ofOptional (some c.search.toValue) >>= fun search => Except.ok (ColumnForm.mk
    (.orNull .string c.data) (.orNull .string c.name) (.bool c.searchable) (.bool c.orderable) search)) = _
  rw [c.search.ofOptional_toValue]
  rfl

theorem convert_form (c : Column) : c.form.convert = c := by
  rw [form, ColumnForm.convert, Lenient.text?_orNull, Lenient.text?_orNull]
  rfl

end Column

namespace ColumnOrder

/-- The fields of an order as they are read: its direction is written under a name that is not read. -/
def form (o : ColumnOrder) : OrderForm := ⟨.nat o.column, .null⟩

def ascending (o : ColumnOrder) : ColumnOrder := { o with direction := .asc }

theorem ofValue_toValue (o : ColumnOrder) : OrderForm.ofValue o.toValue = .ok o.form := by
  rw [toValue, Value.ofMembers, OrderForm.ofValue, Fields.ofValue]
  simp only [Fields.checkCount, Fields.getOrNull, Json.Fields.get?_ofList, bind, Except.bind]
  rfl

theorem convert_form {o : ColumnOrder} (bound : o.column < 2 ^ 63) : o.form.convert = .ok o.ascending := by
  have fits : Json.fitsInt64 o.column = true := Json.fitsInt64_ofNat bound
  have column : (Int64.ofInt o.column).toInt = o.column := Json.toInt_ofInt_of_fits fits
  have direction : Direction.ofText "asc" = .asc := by decide
  rw [form, OrderForm.convert, Value.nat, Lenient.int64_int fits]
  change (if (Int64.ofInt o.column).toInt < 0 then _ else _) = _
  rw [column, if_neg (Int.not_lt.mpr (Int.natCast_nonneg o.column)), Int.toNat_natCast]
  -- Where there is no direction to read, the default is read in its place.
  change Except.ok (ColumnOrder.mk o.column (Direction.ofText "asc")) = _
  rw [direction]
  rfl

end ColumnOrder

namespace Request

variable {r : Request}

def form (r : Request) : RequestForm :=
  { draw := .nat r.draw, columns := r.columns.map Column.form, order := r.order.map ColumnOrder.form
    start := .int r.start.toInt, length := .int r.length.toInt, search := some r.search.form }

/-- The request with all of its orders ascending. -/
def ascending (r : Request) : Request := { r with order := r.order.map ColumnOrder.ascending }

theorem form_of_toValue (r : Request) : RequestForm.ofValue r.toValue = .ok r.form := by
  rw [toValue, Value.ofMembers, RequestForm.ofValue, Fields.ofValue]
  simp only [Fields.checkCount, Fields.getOrNull, Json.Fields.get?_ofList, bind, Except.bind]
  change (Json.decodeItems ColumnForm.ofValue (r.columns.map Column.toValue) >>= fun columns =>
    Json.decodeItems OrderForm.ofValue (r.order.map ColumnOrder.toValue) >>= fun order =>
    SearchForm.ofOptional (some r.search.toValue) >>= fun search => Except.ok (RequestForm.mk (.nat r.draw) columns
      order (.int r.start.toInt) (.int r.length.toInt) search)) = _
  rw [Json.decodeItems_map Column.ofValue_toValue, Json.decodeItems_map ColumnOrder.ofValue_toValue,
    r.search.ofOptional_toValue]
  rfl

theorem mapM_convert_form {orders : List ColumnOrder} (bounds : ∀ o ∈ orders, o.column < 2 ^ 63) :
    (orders.map ColumnOrder.form).mapM OrderForm.convert = .ok (orders.map ColumnOrder.ascending) := by
  induction orders with
  | nil => rfl
  | cons o rest ih =>
    obtain ⟨first, later⟩ := List.forall_mem_cons.mp bounds
    rw [List.map_cons, List.mapM_cons, ColumnOrder.convert_form first, ih later]
    rfl

theorem convert_form (draw : r.draw < 2 ^ 63) (bounds : ∀ o ∈ r.order, o.column < 2 ^ 63) :
    r.form.convert = .ok r.ascending := by
  have fits : Json.fitsInt64 r.draw = true := Json.fitsInt64_ofNat draw
  have drawn : (Int64.ofInt r.draw).toInt.toNat = r.draw := by
    rw [Json.toInt_ofInt_of_fits fits, Int.toNat_natCast]
  have columns : (r.columns.map Column.form).map ColumnForm.convert = r.columns := by
    rw [List.map_map, List.map_congr_left fun c _ => c.convert_form, List.map_id']
  rw [form, RequestForm.convert, mapM_convert_form bounds, columns, Value.nat, Lenient.int64Or_int fits,
    Lenient.int64Or_int (Json.fitsInt64_toInt r.start), Lenient.int64Or_int (Json.fitsInt64_toInt r.length),
    Int64.ofInt_toInt, Int64.ofInt_toInt]
  change Except.ok (Request.mk (Int64.ofInt r.draw).toInt.toNat r.columns _ r.start r.length _) = _
  rw [drawn]
  rfl

/-- A request that was written is read with all of its orders ascending. -/
theorem ofValue_toValue (draw : r.draw < 2 ^ 63) (bounds : ∀ o ∈ r.order, o.column < 2 ^ 63) :
    ofValue r.toValue = .ok r.ascending := by
  rw [ofValue, form_of_toValue]
  exact convert_form draw bounds

theorem ascending_eq_iff : r.ascending = r ↔ ∀ o ∈ r.order, o.direction = .asc := by
  have orders : r.ascending = r ↔ r.order.map ColumnOrder.ascending = r.order.map id := by
    rw [List.map_id]
    exact ⟨congrArg Request.order, fun same => by rw [ascending, same]⟩
  rw [orders, List.map_inj_left]
  refine forall₂_congr fun o _ => ?_
  exact ⟨fun same => (congrArg ColumnOrder.direction same).symm, fun up => by rw [ColumnOrder.ascending, ← up, id]⟩

/--
Reading back a request that was written. If the number of its draw and the positions in its orders fit a signed
64-bit word, that succeeds, and gives the request with all of its orders ascending. So the request itself comes
back exactly where none of its orders is descending.
-/
theorem written_comes_back_iff (draw : r.draw < 2 ^ 63) (bounds : ∀ o ∈ r.order, o.column < 2 ^ 63) :
    ofValue r.toValue = .ok { r with order := r.order.map fun o => { o with direction := .asc } } ∧
    (ofValue r.toValue = .ok r ↔ ∀ o ∈ r.order, o.direction = .asc) := by
  have reads := ofValue_toValue draw bounds
  refine ⟨reads, ?_⟩
  rw [reads, Except.ok.injEq]
  exact ascending_eq_iff

/-- A request with every field filled comes back as it was. -/
theorem written_comes_back_of_page :
    let r : Request :=
      { draw := 9223372036854775807
        columns := [{ data := some "1", name := some "", searchable := false, search := ⟨" a.b ", true⟩ },
          { orderable := false }]
        order := [⟨1, .asc⟩, ⟨70, .asc⟩], start := -5, length := 25, search := ⟨"true", false⟩ }
    r.draw < 2 ^ 63 ∧ (∀ o ∈ r.order, o.column < 2 ^ 63) ∧ ofValue r.toValue = .ok r := by
  intro r
  have draw : r.draw < 2 ^ 63 := by decide
  have bounds : ∀ o ∈ r.order, o.column < 2 ^ 63 := by decide
  exact ⟨draw, bounds, (written_comes_back_iff draw bounds).2.mpr (by decide)⟩

/-- A descending order comes back ascending. -/
theorem written_descending_lost :
    let r : Request := { columns := [{ data := some "name" }], order := [⟨0, .desc⟩] }
    r.draw < 2 ^ 63 ∧ (∀ o ∈ r.order, o.column < 2 ^ 63) ∧ ofValue r.toValue ≠ .ok r := by
  intro r
  have draw : r.draw < 2 ^ 63 := by decide
  have bounds : ∀ o ∈ r.order, o.column < 2 ^ 63 := by decide
  have descending : ¬ ∀ o ∈ r.order, o.direction = .asc := by decide
  refine ⟨draw, bounds, fun same => descending ?_⟩
  rw [ofValue_toValue draw bounds] at same
  exact ascending_eq_iff.mp (Except.ok.inj same)

end Request

end TableQuery
