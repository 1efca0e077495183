import Mathlib.Data.List.Forall2
import TableQuery.Proofs.Query.Edit
import TableQuery.RowShape

set_option autoImplicit false

namespace TableQuery

open Json (Value)

namespace RowShape

variable {m : RowShape} {index : Nat} {rows data : List Value} {e : TableError}

/-- Each numbered row has its shape in the data, in the same order. -/
def Shapes (m : RowShape) (rows : List (Value × Nat)) (data : List Value) : Prop :=
  List.Forall₂ (fun row value => m.shapeRow row.1 row.2 = .ok value) rows data

def refusal? (m : RowShape) (row : Value × Nat) : Option TableError :=
  match m.shapeRow row.1 row.2 with
  | .ok _ => none
  | .error e => some e

/-- Rows are shaped where each of them is. -/
theorem shapeFrom_eq_ok_iff : m.shapeFrom index rows = .ok data ↔ m.Shapes (rows.zipIdx index) data := by
  unfold Shapes
  induction rows generalizing index data with
  | nil =>
    rw [List.zipIdx_nil, List.forall₂_nil_left_iff, shapeFrom, Except.ok.injEq]
    exact eq_comm
  | cons row rest ih =>
    rw [shapeFrom, List.zipIdx_cons, List.forall₂_cons_left_iff, bind_eq_ok_iff]
    simp only [bind_eq_ok_iff, ih]
    constructor
    · intro given
      obtain ⟨value, first, others, later, same⟩ := given
      exact ⟨value, others, first, later, (Except.ok.inj same).symm⟩
    · intro given
      obtain ⟨value, others, first, later, rfl⟩ := given
      exact ⟨value, first, others, later, rfl⟩

theorem shapeFrom_eq_error_iff :
    m.shapeFrom index rows = .error e ↔ (rows.zipIdx index).findSome? m.refusal? = some e := by
  induction rows generalizing index with
  | nil =>
    constructor
    · intro failed
      cases failed
    · intro refused
      cases refused
  | cons row rest ih =>
    rw [shapeFrom, List.zipIdx_cons, List.findSome?_cons, refusal?]
    cases m.shapeRow row index with
    | error other =>
      rw [Option.some.injEq]
      exact ⟨Except.error.inj, congrArg Except.error⟩
    | ok value =>
      refine Iff.trans ?_ ih
      change (m.shapeFrom (index + 1) rest >>= _) = _ ↔ _
      cases m.shapeFrom (index + 1) rest with
      | error other => exact Iff.rfl
      | ok others =>
        constructor
        · intro failed
          cases failed
        · intro failed
          cases failed

section At

variable {first : Nat} (shapes : m.Shapes (rows.zipIdx first) data)
include shapes

theorem Shapes.length_data : data.length = rows.length := by
  have length := shapes.length_eq
  rw [List.length_zipIdx] at length
  exact length.symm

theorem Shapes.shapeRow_getElem (inside : index < data.length) (within : index < rows.length) :
    m.shapeRow rows[index] (first + index) = .ok data[index] := by
  have shaped := shapes.get (by rwa [List.length_zipIdx]) inside
  rwa [List.get_eq_getElem, List.get_eq_getElem, List.getElem_zipIdx] at shaped

theorem Shapes.getElem? {value : Value} (found : data[index]? = some value) :
    ∃ row, rows[index]? = some row ∧ m.shapeRow row (first + index) = .ok value := by
  obtain ⟨inside, rfl⟩ := List.getElem?_eq_some_iff.mp found
  have within : index < rows.length := shapes.length_data ▸ inside
  exact ⟨rows[index], List.getElem?_eq_getElem within, shapes.shapeRow_getElem inside within⟩

end At

/-- Where every row is shaped by one shape as a change of what another makes of it, so are all rows. -/
theorem shapeFrom_eq_map {other : RowShape} {change : Value → Value}
    (single : ∀ row index, other.shapeRow row index = (m.shapeRow row index).map change) (index : Nat)
    (rows : List Value) : other.shapeFrom index rows = (m.shapeFrom index rows).map (List.map change) := by
  induction rows generalizing index with
  | nil => rfl
  | cons row rest ih =>
    rw [shapeFrom, shapeFrom, single, ih]
    cases m.shapeRow row index with
    | error e => rfl
    | ok value =>
      cases m.shapeFrom (index + 1) rest with
      | error e => rfl
      | ok others => rfl

end RowShape

end TableQuery
