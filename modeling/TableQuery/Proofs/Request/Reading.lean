import Mathlib.Data.List.Forall2
import TableQuery.Proofs.Query.Edit
import TableQuery.Proofs.Request.RoundTrip
import TableQuery.Proofs.Text.Decimal

set_option autoImplicit false

/- A request is read in two passes: the shape of all of it is checked first, and then its fields are
converted. The conversion of a column or a search cannot fail and that of an order can, so a request is read
as well by converting each part as soon as its shape is checked, if the failures of the second pass are kept
until the first one is over. -/
namespace TableQuery

open Json (Value Members Fields ShapeError)

namespace Json

/-- Converting the decoded items is decoding them with their conversion. -/
theorem map_decodeItems {α β : Type} (item : Value → Except ShapeError α) (convert : α → β)
    (values : List Value) :
    (decodeItems item values).map (List.map convert) = decodeItems (fun v => (item v).map convert) values := by
  induction values with
  | nil => rfl
  | cons v rest ih =>
    rw [decodeItems, decodeItems, ← ih]
    cases item v with
    | error e => rfl
    | ok a =>
      cases decodeItems item rest with
      | error e => rfl
      | ok others => rfl

theorem decodeItems_eq_ok_iff {α : Type} {item : Value → Except ShapeError α} {values : List Value}
    {parts : List α} :
    decodeItems item values = .ok parts ↔ List.Forall₂ (fun v a => item v = .ok a) values parts := by
  induction values generalizing parts with
  | nil =>
    rw [decodeItems, Except.ok.injEq, List.forall₂_nil_left_iff]
    exact eq_comm
  | cons v rest ih =>
    rw [decodeItems, bind_eq_ok_iff, List.forall₂_cons_left_iff]
    constructor
    · intro decoded
      obtain ⟨a, first, decoded⟩ := decoded
      obtain ⟨others, later, same⟩ := bind_eq_ok_iff.mp decoded
      exact ⟨a, others, first, ih.mp later, (Except.ok.inj same).symm⟩
    · intro given
      obtain ⟨a, others, first, later, rfl⟩ := given
      exact ⟨a, first, bind_eq_ok_iff.mpr ⟨others, ih.mpr later, rfl⟩⟩

end Json

namespace Lenient

theorem text?_getD (field : Option Value) : text? (field.getD .null) = field.bind text? := by
  cases field with
  | none => rfl
  | some v => rfl

theorem bool_getD (default : Bool) (field : Option Value) :
    bool default (field.getD .null) = (field.map (bool default)).getD default := by
  cases field with
  | none => rfl
  | some v => rfl

theorem int64_of_writes {s : String} {w : Int64} (writes : Text.WritesInt64 s w.toInt) (field : String) :
    int64 field (.string s) = .ok w := by
  rw [int64, Text.int64?_trimChars_eq_some_iff.mpr writes]

/-- A text that writes an integer is not blank, so no default takes its place. -/
theorem int64Or_of_writes {s : String} {w : Int64} (writes : Text.WritesInt64 s w.toInt) (field : String)
    (default : Int64) : int64Or field default (.string s) = .ok w := by
  rw [int64Or, writes.not_isAllBlank]
  exact int64_of_writes writes field

end Lenient

namespace SearchTerm

def read (field : Option Value) : Except ShapeError SearchTerm :=
  (SearchForm.ofOptional field).map fun form => (form.map SearchForm.convert).getD {}

/-- The search that the members of an object tell, each field by its default where it is not there. -/
def told (field : Option Value) : SearchTerm where
  value := ((field.bind (·.member? "value")).bind Lenient.text?).getD ""
  regex := ((field.bind (·.member? "regex")).map (Lenient.bool false)).getD false

theorem read_object (members : Members) : read (some (.object members)) = .ok (told (some (.object members))) := by
  change Except.ok (SearchForm.convert ⟨(Members.get? "value" members).getD .null,
    (Members.get? "regex" members).getD .null⟩) = _
  rw [SearchForm.convert, told, Lenient.text?_getD, Lenient.bool_getD]
  rfl

end SearchTerm

namespace Column

def read (item : Value) : Except ShapeError Column := (ColumnForm.ofValue item).map ColumnForm.convert

/-- The column that the members of an object tell, each field by its default where it is not there. -/
def told (item : Value) : Column where
  data := (item.member? "data").bind Lenient.text?
  name := (item.member? "name").bind Lenient.text?
  searchable := ((item.member? "searchable").map (Lenient.bool true)).getD true
  orderable := ((item.member? "orderable").map (Lenient.bool true)).getD true
  search := SearchTerm.told (item.member? "search")

theorem read_object (members : Members) : read (.object members) =
    (SearchTerm.read (Members.get? "search" members)).map fun search => { told (.object members) with search } := by
  have fields (form : Option SearchForm) : ColumnForm.convert
      { data := (Members.get? "data" members).getD .null, name := (Members.get? "name" members).getD .null
        searchable := (Members.get? "searchable" members).getD .null
        orderable := (Members.get? "orderable" members).getD .null, search := form } =
      { told (.object members) with search := (form.map SearchForm.convert).getD {} } := by
    rw [ColumnForm.convert, Lenient.text?_getD, Lenient.text?_getD, Lenient.bool_getD, Lenient.bool_getD]
    rfl
  rw [read, SearchTerm.read]
  change (SearchForm.ofOptional (Members.get? "search" members) >>= fun form => _).map _ = _
  cases SearchForm.ofOptional (Members.get? "search" members) with
  | error e => rfl
  | ok form => exact congrArg Except.ok (fields form)

end Column

namespace ColumnOrder

/-- The order that an item writes, if it has the shape of one. -/
def read (item : Value) : Except ShapeError (Except TableError ColumnOrder) :=
  (OrderForm.ofValue item).map OrderForm.convert

theorem read_object_of_missing {members : Members} (missing : Members.get? "column" members = none) :
    read (.object members) = .error (.missingField "column") := by
  unfold read OrderForm.ofValue
  simp only [Fields.ofValue, Fields.get?, missing, bind, Except.bind]
  rfl

theorem read_object_of_given {members : Members} {column : Value}
    (given : Members.get? "column" members = some column) :
    read (.object members) = .ok (OrderForm.convert ⟨column, (Members.get? "dir" members).getD .null⟩) := by
  unfold read OrderForm.ofValue
  simp only [Fields.ofValue, Fields.get?, given, bind, Except.bind]
  rfl

end ColumnOrder

namespace Request

/-- The request that members write, if they have the shape of one. -/
def read (members : Members) : Except ShapeError (Except TableError Request) := do
  let columns ← RequestForm.listOf Column.read (Members.get? "columns" members)
  let orders ← RequestForm.listOf ColumnOrder.read (Members.get? "order" members)
  let search ← SearchTerm.read (Members.get? "search" members)
  pure do
    let order ← orders.mapM id
    let draw ← Lenient.int64Or "draw" 0 ((Members.get? "draw" members).getD .null)
    let start ← Lenient.int64Or "start" 0 ((Members.get? "start" members).getD .null)
    let length ← Lenient.int64Or "length" 10 ((Members.get? "length" members).getD .null)
    pure { draw := draw.toInt.toNat, columns, order, start, length, search }

def settle {α : Type} : Except ShapeError (Except TableError α) → Except TableError α
  | .ok outcome => outcome
  | .error e => .error (.ofJson (.shape e))

end Request

theorem RequestForm.map_listOf {α β : Type} (item : Value → Except ShapeError α) (convert : α → β)
    (field : Option Value) :
    (listOf item field).map (List.map convert) = listOf (fun v => (item v).map convert) field := by
  cases field with
  | none => rfl
  | some v =>
    cases v with
    | array items => exact Json.map_decodeItems item convert items
    | _ => rfl

namespace Request

/-- A request is read part by part. -/
theorem ofValue_object (members : Members) : ofValue (.object members) = settle (read members) := by
  have columns : RequestForm.listOf Column.read (Members.get? "columns" members) = _ :=
    (RequestForm.map_listOf ColumnForm.ofValue ColumnForm.convert _).symm
  have orders : RequestForm.listOf ColumnOrder.read (Members.get? "order" members) = _ :=
    (RequestForm.map_listOf OrderForm.ofValue OrderForm.convert _).symm
  rw [read, columns, orders, SearchTerm.read, ofValue, RequestForm.ofValue]
  simp only [Fields.ofValue, Fields.get?, Fields.getOrNull, Fields.checkCount, bind, Except.bind, pure, Except.pure]
  cases RequestForm.listOf ColumnForm.ofValue (Members.get? "columns" members) with
  | error e => rfl
  | ok columns =>
    cases RequestForm.listOf OrderForm.ofValue (Members.get? "order" members) with
    | error e => rfl
    | ok orders =>
      cases SearchForm.ofOptional (Members.get? "search" members) with
      | error e => rfl
      | ok search =>
        simp only [Except.map, settle, RequestForm.convert, List.mapM_map]
        rfl

end Request

end TableQuery
