import TableQuery.Proofs.Command.Agreement
import TableQuery.Proofs.Request.Grammar

set_option autoImplicit false

namespace TableQuery

open Json (Value Members)

theorem Table.draw_run (t : Table) (objectRows : Bool) (s : TableState) :
    ((t.run objectRows).run s).1.draw = t.request.draw := by
  rw [fst_run, fst_respond]
  generalize (t.fetchRows.run.run { s with log := s.log.write t.scope.begun }) = fetched
  obtain ⟨rows, after⟩ := fetched
  cases rows with
  | error e => rfl
  | ok rows =>
    change (t.answerOf
      (((t.rowShape objectRows).shapeRows rows t.request.offset).map (t.answerWith after.plan))).draw = _
    cases (t.rowShape objectRows).shapeRows rows t.request.offset with
    | error e => rfl
    | ok data => rfl

theorem Request.draw_of_ofValue {members : Members} {r : Request} (decoded : ofValue (.object members) = .ok r)
    {n : Int} (tells : Value.TellsInt 0 (Members.get? "draw" members) n) : r.draw = n.toNat := by
  have value := Json.toInt_ofInt_of_fits (tells.fits (by decide))
  rw [← value] at tells
  have told : Lenient.int64Or "draw" 0 ((Members.get? "draw" members).getD .null) = .ok (Int64.ofInt n) :=
    Lenient.int64Or_eq_ok_iff.mpr tells
  rw [ofValue_object_eq_ok_iff] at decoded
  simp only [read, bind_eq_ok_iff, pure, Except.pure, Except.ok.injEq] at decoded
  obtain ⟨columns, -, orders, -, search, -, order, -, draw, drawn, start, -, length, -, rfl⟩ := decoded
  obtain rfl : Int64.ofInt n = draw := Except.ok.inj (told.symm.trans drawn)
  exact congrArg Int.toNat value

namespace Command

theorem drawOf_object {members : Members} {n : Int} (tells : Value.TellsInt 0 (Members.get? "draw" members) n) :
    drawOf (.object members) = n.toNat ↔ n ≤ 0 ∨ ∀ s, Members.get? "draw" members ≠ some (.string s) := by
  have lookup : (Value.object members).member? "draw" = Members.get? "draw" members := rfl
  rw [drawOf, lookup]
  generalize Members.get? "draw" members = field at tells
  cases tells with
  | missing => exact iff_of_true rfl (.inl le_rfl)
  | null => exact iff_of_true rfl (.inl le_rfl)
  | blank => exact iff_of_true rfl (.inl le_rfl)
  | given stands =>
    cases stands with
    | number least greatest =>
      refine iff_of_true ?_ (.inr nofun)
      cases n with
      | ofNat m => rfl
      | negSucc m => rfl
    | text writes =>
      constructor
      · intro lost
        have zero : 0 = n.toNat := lost
        exact .inl (by omega)
      · rintro (nonpos | other)
        · exact (Int.toNat_of_nonpos nonpos).symm
        · exact absurd rfl (other _)

/--
The number of a draw in its answer. If the field tells a number, a negative one counting as zero, it is in the answer
exactly where the request can be decoded, whether or not the draw then fails, or the number is not positive, or the
field is no text.
-/
theorem draw_echoed_iff (config : SearchSettings) (collection : Collection) (log : Log) {members : Members} {n : Int}
    (tells : Value.TellsInt 0 (Members.get? "draw" members) n) :
    ((answerRequest config collection (.object members)).run log).1.draw = n.toNat ↔
      (∃ r, Request.ofValue (.object members) = .ok r) ∨ n ≤ 0 ∨
        ∀ s, Members.get? "draw" members ≠ some (.string s) := by
  cases decoded : Request.ofValue (.object members) with
  | ok r =>
    refine iff_of_true ?_ (.inl ⟨r, rfl⟩)
    rw [answerRequest_of_decoded decoded, Table.draw_run]
    exact Request.draw_of_ofValue decoded tells
  | error e =>
    have answered : ((answerRequest config collection (.object members)).run log).1 =
        .failure (drawOf (.object members)) e := by
      change ((answerRequest config collection (.object members)) log).1 = _
      unfold answerRequest
      rw [decoded]
    have undecoded : ¬ ∃ r, (.error e : Except TableError Request) = .ok r := nofun
    rw [answered, or_iff_right undecoded]
    exact drawOf_object tells

/-- The number of a request without a list of columns is echoed where it is given as a number. -/
theorem draw_echoed_of_number :
    let members : Members := [("columns", .int 7), ("draw", .int 5)]
    Value.TellsInt 0 (Members.get? "draw" members) 5 ∧
      ((answerRequest {} ⟨"docs", []⟩ (.object members)).run {}).1.draw = 5 := by
  intro members
  have tells : Value.TellsInt 0 (Members.get? "draw" members) 5 := .given (.number (by decide) (by decide))
  exact ⟨tells, (draw_echoed_iff {} ⟨"docs", []⟩ {} tells).mpr (.inr (.inr nofun))⟩

/-- The number of a request without a list of columns is lost where it is given as a text. -/
theorem written_draw_lost :
    let members : Members := [("columns", .int 7), ("draw", .string "3")]
    Value.TellsInt 0 (Members.get? "draw" members) 3 ∧
      ((answerRequest {} ⟨"docs", []⟩ (.object members)).run {}).1.draw ≠ 3 := by
  intro members
  have writes : Text.WritesInt64 "3" 3 := Text.writesInt64_toString (n := 3) (by decide) (by decide)
  exact ⟨.given (.text writes), by decide +kernel⟩

end Command

end TableQuery
