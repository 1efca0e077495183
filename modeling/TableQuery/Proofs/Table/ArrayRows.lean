import TableQuery.Proofs.Rows.Shapes
import TableQuery.Proofs.Table.Answers

set_option autoImplicit false

namespace TableQuery

open Json (Value)

/-- The entry of a column in the array made of an object row, if it has one: a removed column has none, a column
without a field has `null`, and any other what is found under its field, or `null`. -/
def Column.entryIn? (removed : List String) (row : Value) (c : Column) : Option Value :=
  match c.resolved? with
  | none => some .null
  | some field => if field ∈ removed then none else some ((lookup row field).getD .null)

def Request.project (r : Request) (removed : List String) (row : Value) : Value :=
  .array (r.columns.filterMap (Column.entryIn? removed row))

namespace RowShape

variable {m : RowShape} {r : Request}

theorem positional_eq (columns : m.columns = r.columns.map Column.resolved?) :
    m.positional = r.project m.removed := by
  funext row
  rw [positional, columns, Request.project]
  refine congrArg Value.array ?_
  induction r.columns with
  | nil => rfl
  | cons c rest ih =>
    rw [List.map_cons, List.filterMap_cons, Column.entryIn?]
    cases c.resolved? with
    | none => rw [List.filter_cons_of_pos rfl, List.map_cons, ih, entry, Option.bind_none, Option.getD_none]
    | some field =>
      dsimp only
      by_cases gone : field ∈ m.removed
      · have dropped : ¬ m.keepsColumn (some field) = true := by simpa [keepsColumn] using gone
        rw [if_pos gone, List.filter_cons_of_neg dropped, ih]
      · have kept : m.keepsColumn (some field) = true := by simpa [keepsColumn] using gone
        rw [if_neg gone, List.filter_cons_of_pos kept, List.map_cons, ih, entry, Option.bind_some]

theorem shapeRow_withArrayRows (keyed : m.arrayRows = false) (unnumbered : m.numbersRows = false) (row : Value)
    (number : Nat) : (m.withArrayRows true).shapeRow row number = (m.shapeRow row number).map m.positional := by
  have edited : (m.withArrayRows true).editRow row = m.editRow row := by
    cases row with
    | _ => rfl
  rw [shapeRow, shapeRow, edited, keyed, unnumbered]
  cases m.editRow row with
  | error e => rfl
  | ok value => rfl

end RowShape

namespace Table

variable {t : Table}

theorem respond_arrays (columns : t.shape.columns = t.request.columns.map Column.resolved?)
    (keyed : t.shape.arrayRows = false) (unnumbered : t.shape.numbersRows = false) (s : TableState) :
    (t.respond false).run.run s =
      (((t.respond true).run.run s).1.map fun response =>
        { response with data := response.data.map (t.request.project t.shape.removed) },
      ((t.respond true).run.run s).2) := by
  have shaped (rows : List Value) : (t.rowShape false).shapeRows rows t.request.offset =
      ((t.rowShape true).shapeRows rows t.request.offset).map
        (List.map (t.request.project t.shape.removed)) := by
    rw [← RowShape.positional_eq columns]
    exact RowShape.shapeFrom_eq_map (RowShape.shapeRow_withArrayRows keyed unnumbered) _ rows
  refine Prod.ext ?_ ?_
  · rw [fst_respond, fst_respond]
    cases (t.fetchRows.run.run s).1 with
    | error e => rfl
    | ok rows =>
      change ((t.rowShape false).shapeRows rows t.request.offset).map _ =
        (((t.rowShape true).shapeRows rows t.request.offset).map _).map _
      rw [shaped]
      cases (t.rowShape true).shapeRows rows t.request.offset with
      | error e => rfl
      | ok data => rfl
  · rw [state_respond, state_respond]

/--
Rows as arrays are the projections of the rows as objects. Whatever the store answers, and whatever was done with
the table before, a draw with arrays leaves the same plan, calls and log as a draw with objects, fails with the
same error or gives the same counts, and has for each row of the other draw the array of its entries.
-/
theorem run_arrays (columns : t.shape.columns = t.request.columns.map Column.resolved?)
    (keyed : t.shape.arrayRows = false) (unnumbered : t.shape.numbersRows = false) (s : TableState) :
    let objects := (t.run true).run s
    (t.run false).run s =
      ({ objects.1 with
          data := objects.1.data.map fun row =>
            Value.array (t.request.columns.filterMap (Column.entryIn? t.shape.removed row)) },
        objects.2) := by
  intro objects
  change _ = ({ objects.1 with data := objects.1.data.map (t.request.project t.shape.removed) }, objects.2)
  unfold objects
  rw [run_eq, run_eq, respond_arrays columns keyed unnumbered]
  dsimp only
  cases ((t.respond true).run.run { s with log := s.log.write t.scope.begun }).1 with
  | error e => rfl
  | ok response =>
    have closes : t.closing (.ok { response with data := response.data.map (t.request.project t.shape.removed) }) =
        t.closing (.ok response) := by
      simp only [closing, List.length_map]
    rw [Except.map, closes]
    rfl

/-- A town is found on its path and a short name under a dotted key that an edit has made; the second column has no
field, and the third is removed. One of the two rows is no object. -/
theorem run_arrays_of_people :
    let rows : List Value :=
      [.object [("address", .object [("town", .string "Oslo")]), ("secret", .string "x")], .string "plain"]
    let store : Store := { count := fun _ _ => .ok 2, fetch := fun _ _ => .ok rows }
    let r : Request :=
      { columns := [{ data := some "address.town" }, { data := some "1" }, { data := some "secret" },
          { data := some "name.short" }] }
    let t := ((new store { collection := "people" } r).dropColumn "secret").computeColumn "name.short" fun row =>
      .ok ((lookup row "secret").getD .null)
    let s : TableState := { plan := t.initialPlan }
    t.shape.columns = t.request.columns.map Column.resolved? ∧ t.shape.arrayRows = false ∧
      t.shape.numbersRows = false ∧ ((t.run true).run s).1.isSuccess = true ∧
      ((t.run false).run s).1.isSuccess = true ∧
      ((t.run false).run s).1.data = ((t.run true).run s).1.data.map fun row =>
        .array [(lookup row "address.town").getD .null, .null, (lookup row "name.short").getD .null] := by
  intro rows store r t s
  have columns : t.shape.columns = t.request.columns.map Column.resolved? := rfl
  have entries (row : Value) : t.request.columns.filterMap (Column.entryIn? t.shape.removed row) =
      [(lookup row "address.town").getD .null, .null, (lookup row "name.short").getD .null] := rfl
  have success : ((t.run true).run s).1.isSuccess = true := by decide +kernel
  have projects := congrArg Prod.fst (run_arrays columns rfl rfl s)
  refine ⟨columns, rfl, rfl, success, ?_, ?_⟩
  · rw [projects]
    exact success
  · rw [projects]
    simp only [entries]

end Table

end TableQuery
