import TableQuery.Proofs.Json.Members
import TableQuery.Proofs.Table.Answers

set_option autoImplicit false

namespace TableQuery

open Json (Value Members)

/-- The object tells the number, the counts and the rows of a draw, and no error. -/
structure Json.Value.TellsDraw (wire : Value) (draw total filtered : Nat) (data : List Value) : Prop where
  draw : wire.member? "draw" = some (.nat draw)
  total : wire.member? "recordsTotal" = some (.nat total)
  filtered : wire.member? "recordsFiltered" = some (.nat filtered)
  data : wire.member? "data" = some (.array data)
  error : wire.member? "error" = none

namespace Response

theorem member?_toValue (r : Response) (key : String) :
    r.toValue.member? key = (Members.get? key r.payload.reverse).or (Members.get? key r.envelope.reverse) := by
  change Members.get? key (Members.ofList (r.envelope ++ r.payload)) = _
  rw [Members.get?_ofList, List.reverse_append, Members.get?_append]

theorem get?_envelope {r : Response} (success : r.error = none) :
    Members.get? "draw" r.envelope.reverse = some (.nat r.draw) ∧
    Members.get? "recordsTotal" r.envelope.reverse = some (.nat r.recordsTotal) ∧
    Members.get? "recordsFiltered" r.envelope.reverse = some (.nat r.recordsFiltered) ∧
    Members.get? "data" r.envelope.reverse = some (.array r.data) ∧
    Members.get? "error" r.envelope.reverse = none := by
  unfold envelope
  rw [success]
  cases r.queries with
  | none =>
    cases r.input with
    | none => exact ⟨rfl, rfl, rfl, rfl, rfl⟩
    | some input => exact ⟨rfl, rfl, rfl, rfl, rfl⟩
  | some queries =>
    cases r.input with
    | none => exact ⟨rfl, rfl, rfl, rfl, rfl⟩
    | some input => exact ⟨rfl, rfl, rfl, rfl, rfl⟩

end Response

theorem or_eq_some_iff_forall {α : Type} {earlier : Option α} {a : α} :
    earlier.or (some a) = some a ↔ ∀ b ∈ earlier, b = a := by
  cases earlier with
  | none => exact ⟨nofun, fun _ => rfl⟩
  | some b =>
    rw [Option.some_or, Option.some.injEq]
    exact ⟨fun same _ found => (Option.some.inj found).symm.trans same, fun each => each b rfl⟩

namespace Table

def withPayloads (t : Table) (fields : List (String × Value)) : Table :=
  fields.foldl (fun t field => t.withPayload field.1 field.2) t

theorem withPayloads_eq (t : Table) (fields : List (String × Value)) :
    t.withPayloads fields = { t with
      payload := fields.foldl (fun members field => Members.insert field.1 field.2 members) t.payload } := by
  unfold withPayloads
  induction fields generalizing t with
  | nil => rfl
  | cons field rest ih => rw [List.foldl_cons, List.foldl_cons, ih, withPayload]

theorem payload_withPayloads {t : Table} (bare : t.payload = []) (fields : List (String × Value)) :
    (t.withPayloads fields).payload = Members.ofList fields := by
  rw [withPayloads_eq, bare]
  rfl

section Fields

variable {t : Table} {fields : List (String × Value)} (added : t.payload = Members.ofList fields) (plan : Plan)
  (data : List Value)
include added

/-- Under each key of an answer stands what the caller has put there last, or else the envelope. -/
theorem member?_answerWith (key : String) : (t.answerWith plan data).toValue.member? key =
    (Members.get? key fields.reverse).or (Members.get? key (t.answerWith plan data).envelope.reverse) := by
  have payload : (t.answerWith plan data).payload = Members.ofList fields := added
  rw [Response.member?_toValue, payload, (Members.sorted_ofList fields).get?_reverse, Members.get?_ofList]

theorem tellsDraw_iff : (t.answerWith plan data).toValue.TellsDraw t.request.draw (plan.total.getD 0)
      (plan.filtered.getD 0) data ↔
    (∀ value ∈ Members.get? "draw" fields.reverse, value = .nat t.request.draw) ∧
    (∀ value ∈ Members.get? "recordsTotal" fields.reverse, value = .nat (plan.total.getD 0)) ∧
    (∀ value ∈ Members.get? "recordsFiltered" fields.reverse, value = .nat (plan.filtered.getD 0)) ∧
    (∀ value ∈ Members.get? "data" fields.reverse, value = .array data) ∧
    Members.get? "error" fields.reverse = none := by
  obtain ⟨draw, total, filtered, rows, error⟩ := Response.get?_envelope (r := t.answerWith plan data) rfl
  have kept (key : String) {value : Value}
      (envelope : Members.get? key (t.answerWith plan data).envelope.reverse = some value) :
      (t.answerWith plan data).toValue.member? key = some value ↔
        ∀ other ∈ Members.get? key fields.reverse, other = value := by
    rw [member?_answerWith added, envelope, or_eq_some_iff_forall]
  have absent : (t.answerWith plan data).toValue.member? "error" = none ↔
      Members.get? "error" fields.reverse = none := by
    rw [member?_answerWith added, error, Option.or_none]
  constructor
  · intro tells
    exact ⟨(kept "draw" draw).mp tells.draw, (kept "recordsTotal" total).mp tells.total,
      (kept "recordsFiltered" filtered).mp tells.filtered, (kept "data" rows).mp tells.data,
      absent.mp tells.error⟩
  · intro given
    obtain ⟨noDraw, noTotal, noFiltered, noData, noError⟩ := given
    exact ⟨(kept "draw" draw).mpr noDraw, (kept "recordsTotal" total).mpr noTotal,
      (kept "recordsFiltered" filtered).mpr noFiltered, (kept "data" rows).mpr noData, absent.mpr noError⟩

end Fields

/--
The members of an answer that succeeds, in an object. Under each key stands what the caller has put there last
or else the envelope. So the number of the draw, the counts and the rows are told, and no error is, exactly
where the caller has put nothing else under these keys.
-/
theorem envelope_kept_iff {t : Table} (bare : t.payload = []) (fields : List (String × Value))
    {objectRows : Bool} {s : TableState}
    (success : (((t.withPayloads fields).run objectRows).run s).1.isSuccess = true) :
    ∃ plan data, (t.withPayloads fields).Draws objectRows s plan data ∧
      (∀ key, (((t.withPayloads fields).run objectRows).run s).1.toValue.member? key =
        (Members.get? key fields.reverse).or
          (Members.get? key ((t.withPayloads fields).answerWith plan data).envelope.reverse)) ∧
      ((((t.withPayloads fields).run objectRows).run s).1.toValue.TellsDraw t.request.draw
          (plan.total.getD 0) (plan.filtered.getD 0) data ↔
        (∀ value ∈ Members.get? "draw" fields.reverse, value = .nat t.request.draw) ∧
        (∀ value ∈ Members.get? "recordsTotal" fields.reverse, value = .nat (plan.total.getD 0)) ∧
        (∀ value ∈ Members.get? "recordsFiltered" fields.reverse, value = .nat (plan.filtered.getD 0)) ∧
        (∀ value ∈ Members.get? "data" fields.reverse, value = .array data) ∧
        Members.get? "error" fields.reverse = none) := by
  have added := payload_withPayloads bare fields
  have request : (t.withPayloads fields).request = t.request := by rw [withPayloads_eq]
  obtain ⟨plan, data, draws, answer⟩ := draws_of_success success
  rw [answer, ← request]
  exact ⟨plan, data, draws, member?_answerWith added plan data, tellsDraw_iff added plan data⟩

set_option maxRecDepth 100000 in
theorem envelope_kept_of_tenant :
    let c : Collection := ⟨"docs", [.object [("name", .string "Ann")]]⟩
    let t := ofCollection c { draw := 3, columns := [{ data := some "name" }] }
    let fields := [("tenant", Value.string "acme"), ("draw", .nat 3)]
    let s : TableState := { plan := t.initialPlan }
    t.payload = [] ∧ (((t.withPayloads fields).run true).run s).1.isSuccess = true ∧
      ∃ plan data, (t.withPayloads fields).Draws true s plan data ∧
        (((t.withPayloads fields).run true).run s).1.toValue.TellsDraw 3 (plan.total.getD 0)
          (plan.filtered.getD 0) data := by
  intro c t fields s
  have success : (((t.withPayloads fields).run true).run s).1.isSuccess = true := by decide +kernel
  obtain ⟨plan, data, draws, _, tells⟩ := envelope_kept_iff (t := t) rfl fields success
  refine ⟨rfl, success, plan, data, draws, tells.mpr ⟨?_, nofun, nofun, nofun, rfl⟩⟩
  intro value found
  cases found
  rfl

set_option maxRecDepth 100000 in
/-- A member that the caller puts under `draw` takes the place of the number of the draw, and one under
`error` makes a draw that succeeds tell an error. -/
theorem envelope_replaced_by_payload :
    let c : Collection := ⟨"docs", [.object [("name", .string "Ann")]]⟩
    let t := ofCollection c { draw := 3, columns := [{ data := some "name" }] }
    let u := (t.withPayload "draw" (.string "gone")).withPayload "error" (.string "down")
    let response := ((u.run true).run { plan := u.initialPlan }).1
    response.isSuccess = true ∧ response.toValue.member? "draw" ≠ some (.nat t.request.draw) ∧
      response.toValue.member? "error" ≠ none := by
  intro c t u response
  have success : response.isSuccess = true := by decide +kernel
  have draw : (response.toValue.member? "draw").bind Value.string? = some "gone" := by decide +kernel
  have error : (response.toValue.member? "error").isSome = true := by decide +kernel
  refine ⟨success, fun kept => ?_, fun absent => ?_⟩
  · rw [kept] at draw
    cases draw
  · rw [absent] at error
    cases error

end Table

end TableQuery
