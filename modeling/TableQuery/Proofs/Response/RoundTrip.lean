import TableQuery.Proofs.Json.Members
import TableQuery.Proofs.Query.Edit
import TableQuery.Response.Decode

set_option autoImplicit false

namespace TableQuery

open Json (Value Members)

namespace Response

def envelopeKeys : List String :=
  ["draw", "recordsTotal", "recordsFiltered", "data", "error", "queries", "input"]

/-- The members of an answer as a value, in the order of their keys. -/
def written (r : Response) : Members := Members.ofList (r.envelope ++ r.payload)

/-- What an answer has under a key: a member of its envelope, or one that the envelope does not know. -/
inductive Carries (r : Response) : String → Value → Prop
  | draw : Carries r "draw" (.nat r.draw)
  | recordsTotal : Carries r "recordsTotal" (.nat r.recordsTotal)
  | recordsFiltered : Carries r "recordsFiltered" (.nat r.recordsFiltered)
  | data : Carries r "data" (.array r.data)
  | error {text : String} (given : r.error = some text) : Carries r "error" (.string text)
  | queries {list : List Value} (given : r.queries = some list) : Carries r "queries" (.array list)
  | input {v : Value} (given : r.input = some v) (told : v ≠ .null) : Carries r "input" v
  | further {key : String} {v : Value} (unknown : key ∉ envelopeKeys) : Carries r key v

def drafted (r : Response) (done : Members) : ResponseDraft where
  draw := (Members.get? "draw" done).map fun _ => r.draw
  recordsTotal := (Members.get? "recordsTotal" done).map fun _ => r.recordsTotal
  recordsFiltered := (Members.get? "recordsFiltered" done).map fun _ => r.recordsFiltered
  data := (Members.get? "data" done).map fun _ => r.data
  error := (Members.get? "error" done).map fun _ => r.error
  queries := (Members.get? "queries" done).map fun _ => r.queries
  input := (Members.get? "input" done).map fun _ => r.input
  payload := done.filter fun m => m.1 ∉ envelopeKeys

variable {r : Response} {done : Members}

theorem unlessNull_of_ne_null {α : Type} {decode : Value → Except Json.Error α} {v : Value} (told : v ≠ .null) :
    unlessNull decode v = (decode v).map some := by
  cases v with
  | null => exact absurd rfl told
  | _ => rfl

theorem member_of_unknown {key : String} (unknown : key ∉ envelopeKeys) (d : ResponseDraft) (v : Value) :
    d.member valueParts key v = .ok ({ d with payload := Members.insert key v d.payload }, v) := by
  unfold ResponseDraft.member
  split
  case h_8 => rfl
  all_goals exact absurd (by decide) unknown

theorem member_drafted {key : String} {v : Value} (carries : r.Carries key v) (before : ∀ m ∈ done, m.1 < key) :
    (r.drafted done).member valueParts key v = .ok (r.drafted (done ++ [(key, v)]), v) := by
  have new : Members.get? key done = none := Members.get?_eq_none_of_lt before
  cases carries with
  | draw | recordsTotal | recordsFiltered | data =>
    simp [ResponseDraft.member, ResponseDraft.once, drafted, new, valueParts, natOf, itemsOf, Value.nat, Value.int,
      Json.Reader.natOfNumber, Except.map, Members.get?_append, Members.get?, envelopeKeys]
  | error given | queries given =>
    simp [ResponseDraft.member, ResponseDraft.once, drafted, new, valueParts, unlessNull, stringOf, itemsOf,
      Except.map, Members.get?_append, Members.get?, envelopeKeys, given]
  | input given told =>
    simp [ResponseDraft.member, ResponseDraft.once, drafted, new, valueParts, unlessNull_of_ne_null told, Except.map,
      Members.get?_append, Members.get?, envelopeKeys, given]
  | further unknown =>
    -- Its key comes after those that are done, so it is put at the end of the payload.
    have greatest : ∀ m ∈ done.filter fun m => m.1 ∉ envelopeKeys, m.1 < key :=
      fun m inside => before m (List.mem_of_mem_filter inside)
    have other {known : String} (inside : known ∈ envelopeKeys) :
        Members.get? known (done ++ [(key, v)]) = Members.get? known done := by
      have apart : key ≠ known := fun same => unknown (same ▸ inside)
      rw [Members.get?_append, Members.get?, if_neg apart]
      exact Option.or_none
    have last : [(key, v)].filter (fun m => m.1 ∉ envelopeKeys) = [(key, v)] := by simp [unknown]
    rw [member_of_unknown unknown, drafted, drafted, Members.insert_eq_append greatest, List.filter_append, last,
      other (by decide), other (by decide), other (by decide), other (by decide), other (by decide),
      other (by decide), other (by decide)]

/-- What is read is told by the members that are done, whichever they are, until none is left. -/
theorem decodeMembers_drafted {rest : Members} (sorted : Members.Sorted (done ++ rest))
    (carries : ∀ m ∈ rest, r.Carries m.1 m.2) :
    decodeMembers rest (r.drafted done) = .ok (r.drafted (done ++ rest)) := by
  induction rest generalizing done with
  | nil => rw [List.append_nil, decodeMembers]
  | cons m rest ih =>
    obtain ⟨key, v⟩ := m
    obtain ⟨first, later⟩ := List.forall_mem_cons.mp carries
    have before : ∀ m ∈ done, m.1 < key := fun m inside =>
      (List.pairwise_append.mp sorted).2.2 m inside (key, v) List.mem_cons_self
    have together : done ++ (key, v) :: rest = done ++ [(key, v)] ++ rest := List.append_cons done (key, v) rest
    rw [together] at sorted ⊢
    rw [decodeMembers, member_drafted first before]
    exact ih sorted later

theorem toValue_eq_written (r : Response) : r.toValue = .object r.written := rfl

theorem sorted_written (r : Response) : Members.Sorted r.written := Members.sorted_ofList (r.envelope ++ r.payload)

theorem envelope_keys_sublist (r : Response) : (r.envelope.map Prod.fst).Sublist envelopeKeys := by
  have optional {α : Type} (field : Option α) (key : String) (write : α → Value) :
      ((field.map fun a => (key, write a)).toList.map Prod.fst).Sublist [key] := by
    cases field with
    | none => exact List.nil_sublist [key]
    | some a => exact List.Sublist.refl [key]
  simp only [envelope, List.map_append]
  exact (((List.Sublist.refl _).append (optional r.error "error" .string)).append
    (optional r.queries "queries" .array)).append (optional r.input "input" id)

theorem mem_envelopeKeys_of_mem {m : String × Value} (inside : m ∈ r.envelope) : m.1 ∈ envelopeKeys :=
  r.envelope_keys_sublist.subset (List.mem_map_of_mem inside)

theorem carries_of_mem_envelope (told : r.input ≠ some .null) {m : String × Value} (inside : m ∈ r.envelope) :
    r.Carries m.1 m.2 := by
  simp only [envelope, List.mem_append, List.mem_cons, List.not_mem_nil, or_false, Option.mem_toList,
    Option.map_eq_some_iff] at inside
  rcases inside with (((rfl | rfl | rfl | rfl) | ⟨e, given, rfl⟩) | ⟨list, given, rfl⟩) | ⟨v, given, rfl⟩
  · exact .draw
  · exact .recordsTotal
  · exact .recordsFiltered
  · exact .data
  · exact .error given
  · exact .queries given
  · exact .input given fun null => told (null ▸ given)

section Fresh

variable (sorted : Members.Sorted r.payload) (unknown : ∀ m ∈ r.payload, m.1 ∉ envelopeKeys)
include sorted unknown

/-- Where the payload has no key of the envelope, all members that are written have different keys. -/
theorem members_distinct : (r.envelope ++ r.payload).Pairwise (fun a b => a.1 ≠ b.1) := by
  have envelope : r.envelope.Pairwise (fun a b => a.1 ≠ b.1) :=
    List.pairwise_map.mp (r.envelope_keys_sublist.nodup (by decide))
  have payload : r.payload.Pairwise (fun a b => a.1 ≠ b.1) := sorted.imp ne_of_lt
  refine List.pairwise_append.mpr ⟨envelope, payload, fun a known b further same => ?_⟩
  exact unknown b further (same ▸ mem_envelopeKeys_of_mem known)

theorem written_perm : r.written.Perm (r.envelope ++ r.payload) :=
  Members.ofList_perm (members_distinct sorted unknown)

/-- The members that the envelope does not know are the payload. -/
theorem filter_written : (r.written.filter fun m => m.1 ∉ envelopeKeys) = r.payload := by
  have none : (r.envelope.filter fun m => m.1 ∉ envelopeKeys) = [] := by
    rw [List.filter_eq_nil_iff]
    intro m inside
    simpa using mem_envelopeKeys_of_mem inside
  have all : (r.payload.filter fun m => m.1 ∉ envelopeKeys) = r.payload := by
    rw [List.filter_eq_self]
    intro m inside
    simpa using unknown m inside
  have perm := (written_perm sorted unknown).filter fun m => m.1 ∉ envelopeKeys
  rw [List.filter_append, none, all, List.nil_append] at perm
  have ordered := r.sorted_written.filter fun m => m.1 ∉ envelopeKeys
  exact perm.eq_of_pairwise (fun a b _ _ before after => absurd (before.trans after) (lt_irrefl _)) ordered sorted

theorem exists_get?_of_mem_envelope {key : String} {v : Value} (inside : (key, v) ∈ r.envelope) :
    ∃ w, Members.get? key r.written = some w :=
  Members.exists_get?_of_mem ((written_perm sorted unknown).mem_iff.mpr (List.mem_append_left r.payload inside))

theorem finish_drafted : (r.drafted r.written).finish = .ok r := by
  have present (key : String) (v : Value) (inside : (key, v) ∈ r.envelope) :=
    exists_get?_of_mem_envelope sorted unknown inside
  have optional {α : Type} (field : Option α) (key : String) (write : α → Value)
      (written : ∀ a, field = some a → (key, write a) ∈ r.envelope) :
      ((Members.get? key r.written).map fun _ => field).join = field := by
    cases field with
    | none => cases Members.get? key r.written <;> rfl
    | some a =>
      obtain ⟨w, found⟩ := present key (write a) (written a rfl)
      rw [found]
      rfl
  obtain ⟨draw, hasDraw⟩ := present "draw" (.nat r.draw) (by simp [envelope])
  obtain ⟨total, hasTotal⟩ := present "recordsTotal" (.nat r.recordsTotal) (by simp [envelope])
  obtain ⟨filtered, hasFiltered⟩ := present "recordsFiltered" (.nat r.recordsFiltered) (by simp [envelope])
  obtain ⟨data, hasData⟩ := present "data" (.array r.data) (by simp [envelope])
  have error := optional r.error "error" .string fun e given => by simp [envelope, given]
  have queries := optional r.queries "queries" .array fun list given => by simp [envelope, given]
  have input := optional r.input "input" id fun v given => by simp [envelope, given]
  unfold ResponseDraft.finish drafted
  rw [hasDraw, hasTotal, hasFiltered, hasData, error, queries, input, filter_written sorted unknown]
  rfl

theorem ofValue_toValue (told : r.input ≠ some .null) : ofValue r.toValue = .ok r := by
  have carries : ∀ m ∈ r.written, r.Carries m.1 m.2 := by
    intro m inside
    rcases List.mem_append.mp ((written_perm sorted unknown).mem_iff.mp inside) with known | further
    · exact carries_of_mem_envelope told known
    · exact .further (unknown m further)
  have reads : decodeMembers r.written (r.drafted []) = .ok (r.drafted r.written) :=
    decodeMembers_drafted r.sorted_written carries
  have start : r.drafted [] = {} := rfl
  rw [start] at reads
  rw [toValue_eq_written, ofValue, reads]
  exact finish_drafted sorted unknown

end Fresh

/-- What is read of an answer has no `null` for its request, and no key of the envelope in its payload. -/
structure Kept (d : ResponseDraft) : Prop where
  told : d.input ≠ some (some .null)
  unknown : ∀ m ∈ d.payload, m.1 ∉ envelopeKeys

theorem once_eq_ok_iff {α σ : Type} {key : String} {earlier : Option α} {decode : σ → Except Json.Error (α × σ)}
    {put : α → ResponseDraft} {source rest : σ} {d : ResponseDraft} :
    ResponseDraft.once key earlier decode put source = .ok (d, rest) ↔
      earlier = none ∧ ∃ a, decode source = .ok (a, rest) ∧ put a = d := by
  cases earlier with
  | some a => exact iff_of_false nofun nofun
  | none =>
    rw [ResponseDraft.once, map_eq_ok_iff]
    simp only [Prod.exists, Prod.mk.injEq, true_and]
    constructor
    · rintro ⟨a, last, decoded, same, rfl⟩
      exact ⟨a, decoded, same⟩
    · rintro ⟨a, decoded, same⟩
      exact ⟨a, rest, decoded, same, rfl⟩

theorem Kept.member {d next : ResponseDraft} (kept : Kept d) {key : String} {v rest : Value}
    (reads : d.member valueParts key v = .ok (next, rest)) : Kept next := by
  by_cases known : key ∈ envelopeKeys
  · unfold ResponseDraft.member at reads
    split at reads
    -- The request is the only field that could hold the `null` that is left out.
    case h_7 =>
      obtain ⟨-, a, decoded, rfl⟩ := once_eq_ok_iff.mp reads
      refine ⟨fun null => ?_, kept.unknown⟩
      obtain rfl : a = some .null := Option.some.inj null
      cases v with
      | _ => cases decoded
    case h_8 => simp_all [envelopeKeys]
    all_goals
      obtain ⟨-, a, decoded, rfl⟩ := once_eq_ok_iff.mp reads
      exact ⟨kept.told, kept.unknown⟩
  · rw [member_of_unknown known, Except.ok.injEq, Prod.mk.injEq] at reads
    obtain ⟨rfl, -⟩ := reads
    refine ⟨kept.told, fun m inside => ?_⟩
    rcases Members.mem_insert inside with rfl | earlier
    · exact known
    · exact kept.unknown m earlier

theorem Kept.decodeMembers {members : Members} {d last : ResponseDraft} (kept : Kept d)
    (reads : decodeMembers members d = .ok last) : Kept last := by
  induction members generalizing d with
  | nil =>
    obtain rfl : d = last := Except.ok.inj reads
    exact kept
  | cons m rest ih =>
    obtain ⟨key, v⟩ := m
    obtain ⟨⟨next, left⟩, first, later⟩ := bind_eq_ok_iff.mp reads
    exact ih (kept.member first) later

/-- An answer that is read has a request that is not `null`, if any, and no key of the envelope in its payload. -/
theorem kept_of_ofValue {v : Value} (reads : ofValue v = .ok r) :
    r.input ≠ some .null ∧ ∀ m ∈ r.payload, m.1 ∉ envelopeKeys := by
  cases v with
  | object members =>
    obtain ⟨last, decoded, finished⟩ := bind_eq_ok_iff.mp reads
    have bare : Kept {} := ⟨by simp, by simp⟩
    have kept : Kept last := bare.decodeMembers decoded
    obtain ⟨draw, -, finished⟩ := bind_eq_ok_iff.mp finished
    obtain ⟨total, -, finished⟩ := bind_eq_ok_iff.mp finished
    obtain ⟨filtered, -, finished⟩ := bind_eq_ok_iff.mp finished
    obtain ⟨data, -, finished⟩ := bind_eq_ok_iff.mp finished
    obtain rfl := Except.ok.inj finished
    exact ⟨fun null => kept.told (Option.join_eq_some_iff.mp null), kept.unknown⟩
  | _ => cases reads

/--
Reading back an answer that was written. Its payload is an object, whose members are in the order of their keys. Then
the answer comes back just as it was if no member of its payload has a key of the envelope and its request, if it has
one, is not `null`, and it does not otherwise.
-/
theorem answer_comes_back_iff {r : Response} (sorted : Members.Sorted r.payload) :
    ofValue r.toValue = .ok r ↔ (∀ m ∈ r.payload, m.1 ∉ envelopeKeys) ∧ r.input ≠ some .null := by
  constructor
  · intro reads
    exact (kept_of_ofValue reads).symm
  · intro given
    exact ofValue_toValue sorted given.1 given.2

/-- An answer with a request but no queries comes back, with payload keys before and after those of the envelope. -/
theorem answer_comes_back_of_tenant :
    let r : Response :=
      { draw := 3, recordsTotal := 57, recordsFiltered := 2, data := [.object [("name", .string "Ann")], .null]
        error := some "late", input := some (.array [.null])
        payload := [("at", .null), ("zone", .object [("draw", .int 1)])] }
    Members.Sorted r.payload ∧ ofValue r.toValue = .ok r := by
  intro r
  have sorted : Members.Sorted r.payload := by
    unfold Members.Sorted
    decide
  exact ⟨sorted, (answer_comes_back_iff sorted).mpr ⟨by decide, nofun⟩⟩

end Response

end TableQuery
