import TableQuery.Proofs.Json.Members
import TableQuery.Proofs.Rows.Shapes

set_option autoImplicit false

namespace TableQuery

open Json (Value Members)

namespace RowShape

variable {m : RowShape} {row value : Value} {members edited : Members}
  {edits : List (String × ColumnEdit)} {number : Nat}

def lastEdit? (edits : List (String × ColumnEdit)) (column : String) : Option ColumnEdit :=
  edits.reverse.lookup column

def editFailure? (m : RowShape) : Value → Option TableError
  | .object members => m.edits.findSome? fun edit => failure? (edit.2 (.object members))
  | _ => none

/-- What an edited object row holds under a key: nothing for a removed column, and else what the last edit of the
column computes from the row as it was fetched, or the fetched value. -/
def edited? (m : RowShape) (members : Members) (key : String) : Option Value :=
  if key ∈ m.removed then none
  else
    match lastEdit? m.edits key with
    | some edit => (edit (.object members)).toOption
    | none => Members.get? key members

/-- What a shaped object row holds under a key: its number under the key of numbers, if rows are numbered, and
else what it holds after it is edited. -/
def shown? (m : RowShape) (number : Nat) (members : Members) (key : String) : Option Value :=
  if m.numbersRows = true ∧ key = rowNumberKey then some (.nat number) else m.edited? members key

theorem lastEdit?_cons (column key : String) (edit : ColumnEdit) (rest : List (String × ColumnEdit)) :
    lastEdit? ((column, edit) :: rest) key =
      (lastEdit? rest key).or (if column = key then some edit else none) := by
  rw [lastEdit?, List.reverse_cons, List.lookup_append, ← lastEdit?]
  congr 1
  by_cases same : column = key
  · subst same
    rw [if_pos rfl, List.lookup_cons, beq_self_eq_true]
  · have other : (key == column) = false := beq_eq_false_iff_ne.mpr (Ne.symm same)
    rw [if_neg same, List.lookup_cons, other]
    rfl

theorem failure?_applyEdits (row : Value) (edits : List (String × ColumnEdit)) (members : Members) :
    failure? (applyEdits row edits members) = edits.findSome? fun edit => failure? (edit.2 row) := by
  induction edits generalizing members with
  | nil => rfl
  | cons edit rest ih =>
    obtain ⟨column, compute⟩ := edit
    rw [applyEdits, List.findSome?_cons]
    dsimp only
    cases compute row with
    | error e => rfl
    | ok value => exact ih (Members.insert column value members)

/-- Under each key stands what the last edit of it computes, and what stood there before if it is not edited. -/
theorem get?_of_applyEdits (done : applyEdits row edits members = .ok edited) (key : String) :
    Members.get? key edited =
      match lastEdit? edits key with
      | some edit => (edit row).toOption
      | none => Members.get? key members := by
  induction edits generalizing members with
  | nil =>
    cases done
    rfl
  | cons edit rest ih =>
    obtain ⟨column, compute⟩ := edit
    obtain ⟨value, computed, later⟩ := bind_eq_ok_iff.mp done
    -- The computed value is put in before the other edits are made, which may replace it.
    rw [ih later, lastEdit?_cons, Members.get?_insert]
    cases lastEdit? rest key with
    | some last => rfl
    | none =>
      rw [Option.none_or]
      by_cases same : column = key
      · rw [if_pos same, if_pos same]
        exact (congrArg Except.toOption computed).symm
      · rw [if_neg same, if_neg same]

theorem sorted_of_applyEdits (sorted : Members.Sorted members)
    (done : applyEdits row edits members = .ok edited) : Members.Sorted edited := by
  induction edits generalizing members with
  | nil =>
    cases done
    exact sorted
  | cons edit rest ih =>
    obtain ⟨column, compute⟩ := edit
    obtain ⟨value, _, later⟩ := bind_eq_ok_iff.mp done
    exact ih (sorted.insert column value) later

theorem get?_dropRemoved (removed : List String) (members : Members) (key : String) :
    Members.get? key (dropRemoved removed members) =
      if key ∈ removed then none else Members.get? key members := by
  unfold dropRemoved
  induction removed generalizing members with
  | nil => rw [List.foldl_nil, if_neg List.not_mem_nil]
  | cons column rest ih =>
    rw [List.foldl_cons, ih, Members.get?_erase]
    by_cases gone : key ∈ rest
    · rw [if_pos gone, if_pos (List.mem_cons_of_mem column gone)]
    · rw [if_neg gone]
      by_cases same : key = column
      · rw [if_pos same, if_pos (List.mem_cons.mpr (.inl same))]
      · rw [if_neg same, if_neg (List.not_mem_cons_of_ne_of_not_mem same gone)]

theorem sorted_dropRemoved (removed : List String) (sorted : Members.Sorted members) :
    Members.Sorted (dropRemoved removed members) := by
  unfold dropRemoved
  induction removed generalizing members with
  | nil => exact sorted
  | cons column rest ih => exact ih (List.Pairwise.filter _ sorted)

theorem failure?_shapeRow (m : RowShape) (row : Value) (number : Nat) :
    failure? (m.shapeRow row number) = m.editFailure? row := by
  rw [shapeRow, failure?_map]
  cases row with
  | object members =>
    rw [editRow, failure?_bind_pure, failure?_applyEdits]
    rfl
  | _ => rfl

theorem exists_object_of_editRow (done : m.editRow (.object members) = .ok value) :
    ∃ kept, value = .object kept ∧ (Members.Sorted members → Members.Sorted kept) ∧
      ∀ key, Members.get? key kept = m.edited? members key := by
  obtain ⟨edited, edits, same⟩ := bind_eq_ok_iff.mp done
  cases same
  refine ⟨_, rfl, fun sorted => sorted_dropRemoved _ (sorted_of_applyEdits sorted edits), fun key => ?_⟩
  rw [get?_dropRemoved, get?_of_applyEdits edits]
  rfl

/-- An object row stays one, unless rows are turned into arrays, and shows its members. -/
theorem exists_object_of_shapeRow (keyed : m.arrayRows = false)
    (shaped : m.shapeRow (.object members) number = .ok value) :
    ∃ kept, value = .object kept ∧ (Members.Sorted members → Members.Sorted kept) ∧
      ∀ key, Members.get? key kept = m.shown? number members key := by
  obtain ⟨changed, done, rfl⟩ := map_eq_ok_iff.mp shaped
  obtain ⟨kept, rfl, ordered, held⟩ := exists_object_of_editRow done
  rw [keyed, if_neg Bool.false_ne_true]
  unfold shown?
  cases m.numbersRows with
  | true =>
    rw [if_pos rfl]
    refine ⟨_, rfl, fun sorted => (ordered sorted).insert _ _, fun key => ?_⟩
    rw [Members.get?_insert, held]
    by_cases place : key = rowNumberKey
    · rw [if_pos place.symm, if_pos ⟨rfl, place⟩]
    · rw [if_neg (Ne.symm place), if_neg fun both => place both.2]
  | false =>
    rw [if_neg Bool.false_ne_true]
    refine ⟨_, rfl, ordered, fun key => ?_⟩
    rw [held, if_neg fun both => Bool.false_ne_true both.1]

theorem findSome?_refusal? (m : RowShape) (index : Nat) (rows : List Value) :
    (rows.zipIdx index).findSome? m.refusal? = rows.findSome? m.editFailure? := by
  have single : m.refusal? = m.editFailure? ∘ Prod.fst := by
    funext numbered
    rw [Function.comp_apply, ← failure?_shapeRow m numbered.1 numbered.2, refusal?]
    cases m.shapeRow numbered.1 numbered.2 with
    | error e => rfl
    | ok value => rfl
  rw [single, ← List.findSome?_map, List.zipIdx_map_fst]

theorem shapeFrom_fails_iff {index : Nat} {rows : List Value} {e : TableError} :
    m.shapeFrom index rows = .error e ↔ rows.findSome? m.editFailure? = some e := by
  rw [shapeFrom_eq_error_iff, findSome?_refusal?]

theorem exists_shapeFrom_of_editable {rows : List Value} (editable : rows.findSome? m.editFailure? = none)
    (index : Nat) : ∃ data, m.shapeFrom index rows = .ok data := by
  cases outcome : m.shapeFrom index rows with
  | ok data => exact ⟨data, rfl⟩
  | error e =>
    rw [shapeFrom_fails_iff.mp outcome] at editable
    cases editable

theorem exists_shapeFrom (uncomputed : m.edits = []) (index : Nat) (rows : List Value) :
    ∃ data, m.shapeFrom index rows = .ok data := by
  refine exists_shapeFrom_of_editable (List.findSome?_eq_none_iff.mpr fun row _ => ?_) index
  cases row with
  | object members => rw [editFailure?, uncomputed, List.findSome?_nil]
  | _ => rfl

end RowShape

end TableQuery
