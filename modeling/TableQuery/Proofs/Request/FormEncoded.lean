import TableQuery.Proofs.Request.Reading

set_option autoImplicit false

namespace TableQuery

open Json (Value Members ShapeError)

namespace Json

/-- Members with their values changed, each as its key tells. -/
def Members.mapValues (change : String → Value → Value) (members : Members) : Members :=
  members.map fun m => (m.1, change m.1 m.2)

theorem Members.get?_mapValues (change : String → Value → Value) (key : String) (members : Members) :
    get? key (mapValues change members) = (get? key members).map (change key) := by
  induction members with
  | nil => rfl
  | cons m rest ih =>
    obtain ⟨name, v⟩ := m
    rw [mapValues, List.map_cons, get?, get?]
    by_cases found : name = key
    · rw [if_pos found, if_pos found, found, Option.map_some]
    · rw [if_neg found, if_neg found]
      exact ih

namespace Value

/-- An object with the values of its members changed; another value stays as it is. -/
def mapMembers (change : String → Value → Value) : Value → Value
  | .object members => .object (Members.mapValues change members)
  | v => v

/-- An array with its items changed; another value stays as it is. -/
def mapItems (change : Value → Value) : Value → Value
  | .array items => .array (items.map change)
  | v => v

theorem member?_mapMembers (change : String → Value → Value) (key : String) (v : Value) :
    (v.mapMembers change).member? key = (v.member? key).map (change key) := by
  cases v with
  | object members => exact Members.get?_mapValues change key members
  | _ => rfl

/-- An integer of a 64-bit word as its decimal text. -/
def integerText : Value → Value
  | .number (.integer n) => if fitsInt64 n then .string (toString n) else .int n
  | v => v

/-- A truth value as the text `true` or `false`. -/
def flagText : Value → Value
  | .bool b => .string (if b then "true" else "false")
  | v => v

def scalarText : Value → Value
  | .number (.integer n) => .string (toString n)
  | v => v.flagText

end Value

end Json

namespace Lenient

open Json.Value (integerText flagText scalarText)

theorem text?_scalarText (v : Value) : text? (scalarText v) = text? v := by
  cases v with
  | bool b => cases b <;> rfl
  | number n => cases n <;> rfl
  | _ => rfl

theorem bool_flagText (default : Bool) (v : Value) : bool default (flagText v) = bool default v := by
  cases v with
  | bool b => cases b <;> rfl
  | _ => rfl

/-- The text of an integer writes it. -/
theorem writesInt64_of_fits {n : Int} (fits : Json.fitsInt64 n = true) :
    Text.WritesInt64 (toString n) (Int64.ofInt n).toInt := by
  obtain ⟨least, greatest⟩ := Json.fitsInt64_iff.mp fits
  rw [Json.toInt_ofInt_of_fits fits]
  exact Text.writesInt64_toString least greatest

theorem int64_integerText (field : String) (v : Value) : int64 field (integerText v) = int64 field v := by
  cases v with
  | number n =>
    cases n with
    | real x => rfl
    | integer n =>
      rw [integerText]
      by_cases fits : Json.fitsInt64 n = true
      · rw [if_pos fits, int64_of_writes (writesInt64_of_fits fits)]
        exact (int64_int fits field).symm
      · rw [if_neg fits, Value.int]
  | _ => rfl

theorem int64Or_integerText (field : String) (default : Int64) (v : Value) :
    int64Or field default (integerText v) = int64Or field default v := by
  cases v with
  | number n =>
    cases n with
    | real x => rfl
    | integer n =>
      rw [integerText]
      by_cases fits : Json.fitsInt64 n = true
      · rw [if_pos fits, int64Or_of_writes (writesInt64_of_fits fits)]
        exact (int64Or_int fits field default).symm
      · rw [if_neg fits, Value.int]
  | _ => rfl

end Lenient

section Spelling

open Json.Value (integerText flagText scalarText)

def SearchTerm.spelling : String → Value → Value
  | "value" => scalarText
  | "regex" => flagText
  | _ => id

def Column.spelling : String → Value → Value
  | "data" => scalarText
  | "name" => scalarText
  | "searchable" => flagText
  | "orderable" => flagText
  | "search" => Value.mapMembers SearchTerm.spelling
  | _ => id

def ColumnOrder.spelling : String → Value → Value
  | "column" => integerText
  | _ => id

def Request.spelling : String → Value → Value
  | "draw" => integerText
  | "start" => integerText
  | "length" => integerText
  | "columns" => Value.mapItems (Value.mapMembers Column.spelling)
  | "order" => Value.mapItems (Value.mapMembers ColumnOrder.spelling)
  | "search" => Value.mapMembers SearchTerm.spelling
  | _ => id

end Spelling

/-- A request with its integers, truth values and keywords spelled as texts. -/
def Request.formEncoded : Value → Value := Value.mapMembers Request.spelling

namespace SearchTerm

theorem told_spelling (field : Option Value) : told (field.map (Value.mapMembers spelling)) = told field := by
  have value : (field.map (Value.mapMembers spelling)).bind (·.member? "value") =
      (field.bind (·.member? "value")).map Value.scalarText := by
    cases field with
    | none => rfl
    | some v => exact v.member?_mapMembers spelling "value"
  have regex : (field.map (Value.mapMembers spelling)).bind (·.member? "regex") =
      (field.bind (·.member? "regex")).map Value.flagText := by
    cases field with
    | none => rfl
    | some v => exact v.member?_mapMembers spelling "regex"
  rw [told, value, regex, Option.bind_map, Option.map_map]
  simp only [Function.comp_def, Lenient.text?_scalarText, Lenient.bool_flagText]
  rfl

theorem read_spelling (field : Option Value) : read (field.map (Value.mapMembers spelling)) = read field := by
  cases field with
  | none => rfl
  | some v =>
    cases v with
    | object members =>
      have same := told_spelling (some (.object members))
      rw [Option.map_some, Value.mapMembers] at same ⊢
      rw [read_object, read_object, same]
    | _ => rfl

end SearchTerm

namespace Column

theorem told_spelling (item : Value) : told (item.mapMembers spelling) = told item := by
  rw [told, told]
  simp only [Value.member?_mapMembers]
  change Column.mk (((item.member? "data").map Value.scalarText).bind _)
    (((item.member? "name").map Value.scalarText).bind _)
    ((((item.member? "searchable").map Value.flagText).map _).getD _)
    ((((item.member? "orderable").map Value.flagText).map _).getD _)
    (SearchTerm.told ((item.member? "search").map (Value.mapMembers SearchTerm.spelling))) = _
  rw [SearchTerm.told_spelling]
  simp only [Option.bind_map, Option.map_map, Function.comp_def, Lenient.text?_scalarText, Lenient.bool_flagText]

theorem read_spelling (item : Value) : read (item.mapMembers spelling) = read item := by
  cases item with
  | object members =>
    have same := told_spelling (.object members)
    have search : SearchTerm.read (Members.get? "search" (Members.mapValues spelling members)) =
        SearchTerm.read (Members.get? "search" members) := by
      rw [Members.get?_mapValues]
      exact SearchTerm.read_spelling _
    rw [Value.mapMembers] at same ⊢
    rw [read_object, read_object, search, same]
  | _ => rfl

end Column

namespace ColumnOrder

theorem read_spelling (item : Value) : read (item.mapMembers spelling) = read item := by
  cases item with
  | object members =>
    have column : Members.get? "column" (Members.mapValues spelling members) =
        (Members.get? "column" members).map Value.integerText := Members.get?_mapValues spelling "column" members
    have dir : Members.get? "dir" (Members.mapValues spelling members) = Members.get? "dir" members :=
      (Members.get?_mapValues spelling "dir" members).trans Option.map_id_apply
    rw [Value.mapMembers]
    cases given : Members.get? "column" members with
    | none =>
      rw [given] at column
      rw [read_object_of_missing column, read_object_of_missing given]
    | some v =>
      rw [given] at column
      rw [read_object_of_given column, read_object_of_given given, dir]
      unfold OrderForm.convert
      rw [Lenient.int64_integerText]
  | _ => rfl

end ColumnOrder

/-- Items that are each read alike after a change are read alike as a list. -/
theorem RequestForm.listOf_mapItems {α : Type} {item : Value → Except ShapeError α} {change : Value → Value}
    (alike : ∀ v, item (change v) = item v) (field : Option Value) :
    listOf item (field.map (Value.mapItems change)) = listOf item field := by
  cases field with
  | none => rfl
  | some v =>
    cases v with
    | array items =>
      have each : item ∘ change = item := funext alike
      rw [Option.map_some, Value.mapItems, listOf, listOf, Json.decodeArray, Json.decodeArray]
      induction items with
      | nil => rfl
      | cons first rest ih => rw [List.map_cons, Json.decodeItems, Json.decodeItems, alike, ih]
    | _ => rfl

namespace Request

theorem int64Or_spelling (field : String) (default : Int64) (given : Option Value) :
    Lenient.int64Or field default ((given.map Value.integerText).getD .null) =
      Lenient.int64Or field default (given.getD .null) := by
  cases given with
  | none => rfl
  | some v => exact Lenient.int64Or_integerText field default v

theorem read_spelling (members : Members) : read (Members.mapValues spelling members) = read members := by
  have columns : RequestForm.listOf Column.read (Members.get? "columns" (Members.mapValues spelling members)) =
      RequestForm.listOf Column.read (Members.get? "columns" members) := by
    rw [Members.get?_mapValues]
    exact RequestForm.listOf_mapItems Column.read_spelling _
  have orders : RequestForm.listOf ColumnOrder.read (Members.get? "order" (Members.mapValues spelling members)) =
      RequestForm.listOf ColumnOrder.read (Members.get? "order" members) := by
    rw [Members.get?_mapValues]
    exact RequestForm.listOf_mapItems ColumnOrder.read_spelling _
  have search : SearchTerm.read (Members.get? "search" (Members.mapValues spelling members)) =
      SearchTerm.read (Members.get? "search" members) := by
    rw [Members.get?_mapValues]
    exact SearchTerm.read_spelling _
  have integer (key : String) (spelled : spelling key = Value.integerText) (default : Int64) :
      Lenient.int64Or key default ((Members.get? key (Members.mapValues spelling members)).getD .null) =
        Lenient.int64Or key default ((Members.get? key members).getD .null) := by
    rw [Members.get?_mapValues, spelled, int64Or_spelling]
  unfold read
  rw [columns, orders, search, integer "draw" rfl, integer "start" rfl, integer "length" rfl]

/-- A request is read alike whether its integers, truth values and keywords are spelled as texts or not: it gives
the same request or fails with the same error. -/
theorem ofValue_formEncoded (v : Value) : ofValue (formEncoded v) = ofValue v := by
  cases v with
  | object members =>
    rw [formEncoded, Value.mapMembers, ofValue_object, ofValue_object, read_spelling]
  | _ => rfl

example : formEncoded (.object
    [("columns", .array [.object
        [("data", .int 7), ("search", .object [("regex", .bool true), ("value", .bool false)])]]),
      ("draw", .int (-3)), ("length", .int 9223372036854775808), ("order", .array [.object [("column", .int 0)]])]) =
    .object [("columns", .array [.object
        [("data", .string "7"), ("search", .object [("regex", .string "true"), ("value", .string "false")])]]),
      ("draw", .string "-3"), ("length", .int 9223372036854775808),
      ("order", .array [.object [("column", .string "0")]])] := by rfl

end Request

end TableQuery
