import TableQuery.Proofs.Query.Hidden
import TableQuery.Proofs.Rows.Edits

set_option autoImplicit false

namespace TableQuery

open Json (Value Members)

theorem lookup_object_eq_none_iff {members : Members} {path : String}
    (absent : Members.get? path members = none) :
    lookup (.object members) path = none ↔
      ∀ first second rest, Text.split '.' path.toList = first :: second :: rest →
        (Members.get? (String.ofList first) members).bind (descend? (second :: rest)) = none := by
  have missing : (Value.object members).member? path = none := absent
  unfold lookup
  rw [missing]
  dsimp only
  cases dotted : path.toList.contains '.' with
  | false =>
    -- A path that is one segment is not followed: that would look for the same member again.
    have plain : '.' ∉ path.toList := fun inside => by
      rw [List.contains_iff_mem.mpr inside] at dotted
      cases dotted
    rw [if_neg Bool.false_ne_true, split_of_not_mem plain]
    exact iff_of_true rfl nofun
  | true =>
    obtain ⟨first, second, rest, split⟩ := exists_split_of_mem (List.contains_iff_mem.mp dotted)
    rw [if_pos rfl, split]
    constructor
    · intro nowhere _ _ _ same
      cases same
      exact nowhere
    · intro nowhere
      exact nowhere first second rest rfl

namespace RowShape

variable {m : RowShape} {row : Value} {members : Members} {number : Nat} {column : String}

/--
What is left of a removed column in an object row that is shaped without a number. Under a plain name nothing is
found. Under a dotted name nothing is found exactly where its path leads nowhere: where its first segment is a
removed column as well, or the others lead nowhere from what the edits have left there.
-/
theorem removed_unreachable_iff (keyed : m.arrayRows = false) (unnumbered : m.numbersRows = false)
    (shaped : m.shapeRow (.object members) number = .ok row) (removed : column ∈ m.removed) :
    ('.' ∉ column.toList → lookup row column = none) ∧
    (lookup row column = none ↔
      ∀ first second rest, Text.split '.' column.toList = first :: second :: rest →
        (m.edited? members (String.ofList first)).bind (descend? (second :: rest)) = none) := by
  obtain ⟨kept, rfl, _, shown⟩ := exists_object_of_shapeRow keyed shaped
  have held (key : String) : Members.get? key kept = m.edited? members key := by
    rw [shown, shown?, unnumbered, if_neg fun both => Bool.false_ne_true both.1]
  have absent : Members.get? column kept = none := by rw [held, edited?, if_pos removed]
  have reaches : lookup (.object kept) column = none ↔
      ∀ first second rest, Text.split '.' column.toList = first :: second :: rest →
        (m.edited? members (String.ofList first)).bind (descend? (second :: rest)) = none := by
    rw [lookup_object_eq_none_iff absent]
    simp only [held]
  refine ⟨fun plain => reaches.mpr fun first second rest split => ?_, reaches⟩
  -- a name without a dot has one segment only
  rw [split_of_not_mem plain] at split
  cases split

/-- Of a removed town nothing is found, since an edit has put a text in the place of the address that held it. -/
theorem removed_unreachable_of_address :
    let m : RowShape :=
      { removed := ["password", "address.town"], edits := [("address", fun _ => .ok (.string "withheld"))] }
    let members : Members := [("address", .object [("town", .string "Oslo")]), ("password", .string "x")]
    ∃ row, m.arrayRows = false ∧ m.numbersRows = false ∧ m.shapeRow (.object members) 1 = .ok row ∧
      "address.town" ∈ m.removed ∧ lookup row "address.town" = none := by
  intro m members
  have removed : "address.town" ∈ m.removed := List.mem_cons_of_mem _ List.mem_cons_self
  have unreachable := @removed_unreachable_iff m _ members 1 _ rfl rfl rfl removed
  refine ⟨_, rfl, rfl, rfl, removed, unreachable.2.mpr fun first second rest split => ?_⟩
  have segments : Text.split '.' "address.town".toList = ["address".toList, "town".toList] := by decide +kernel
  rw [segments] at split
  cases split
  decide +kernel

/-- A removed town is still found where the address that holds it is not removed. -/
theorem removed_town_reached :
    let m : RowShape := { removed := ["address.town"] }
    let members : Members := [("address", .object [("town", .string "Oslo")])]
    ∃ row, m.shapeRow (.object members) 1 = .ok row ∧
      ¬ ∀ column ∈ m.removed, lookup row column = none := by
  intro m members
  refine ⟨.object members, rfl, fun hidden => ?_⟩
  have gone := hidden "address.town" List.mem_cons_self
  have found : (lookup (.object members) "address.town").isSome = true := by decide +kernel
  rw [gone] at found
  cases found

end RowShape

end TableQuery
