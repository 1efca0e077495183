import Mathlib.Data.List.Basic
import TableQuery.Query.Sort

set_option autoImplicit false

namespace TableQuery

open Json (Value Members)

section Segments

theorem split_eq_splitOn (separator : Char) (text : List Char) :
    Text.split separator text = text.splitOn separator := by
  induction text with
  | nil => rw [Text.split, List.splitOn_nil]
  | cons c rest ih =>
    rw [Text.split, List.splitOn_cons_eq_if_modifyHead, ih]
    simp only [beq_iff_eq]
    split
    · rfl
    · cases parts : rest.splitOn separator with
      | nil => exact absurd parts (List.splitOn_ne_nil separator rest)
      | cons first others => rfl

theorem split_of_not_mem {path : List Char} (plain : '.' ∉ path) : Text.split '.' path = [path] := by
  rw [split_eq_splitOn, List.splitOn_eq_singleton plain]

theorem exists_split_of_mem {path : List Char} (dotted : '.' ∈ path) :
    ∃ first second rest, Text.split '.' path = first :: second :: rest := by
  obtain ⟨first, later, rfl, plain⟩ := List.eq_append_cons_of_mem dotted
  rw [split_eq_splitOn, List.splitOn_append_cons_self_of_not_mem plain]
  cases parts : later.splitOn '.' with
  | nil => exact absurd parts (List.splitOn_ne_nil '.' later)
  | cons second rest => exact ⟨first, second, rest, rfl⟩

theorem split_intercalate {segments : List String} (given : segments ≠ [])
    (plain : ∀ segment ∈ segments, '.' ∉ segment.toList) :
    Text.split '.' (".".intercalate segments).toList = segments.map String.toList := by
  have dot : ".".toList = ['.'] := rfl
  rw [split_eq_splitOn, String.toList_intercalate, dot]
  refine List.splitOn_intercalate '.' (List.forall_mem_map.mpr plain) ?_
  rw [ne_eq, List.map_eq_nil_iff]
  exact given

end Segments

def Json.Value.keys : Value → List String
  | .object members => members.map (·.1)
  | _ => []

/-- Segments lead from a value to another one: each leads into the member of an object that it names, or to the
item of an array whose place it writes. -/
inductive LeadsTo : Value → List String → Value → Prop
  | here (v : Value) : LeadsTo v [] v
  | member {members : Members} {segment : String} {rest : List String} {v found : Value}
      (named : Members.get? segment members = some v) (on : LeadsTo v rest found) :
      LeadsTo (.object members) (segment :: rest) found
  | item {items : List Value} {segment : String} {index : Nat} {rest : List String} {v found : Value}
      (written : Text.index? segment.toList = some index) (placed : items[index]? = some v)
      (on : LeadsTo v rest found) : LeadsTo (.array items) (segment :: rest) found

theorem step?_eq_some_iff {segment : String} {v next : Value} :
    step? segment.toList v = some next ↔ LeadsTo v [segment] next := by
  constructor
  · intro stepped
    cases v with
    | object members =>
      rw [step?, String.ofList_toList] at stepped
      exact .member stepped (.here next)
    | array items =>
      obtain ⟨index, written, placed⟩ := Option.bind_eq_some_iff.mp stepped
      exact .item written placed (.here next)
    | _ => cases stepped
  · intro leads
    cases leads with
    | member named on =>
      cases on
      rw [step?, String.ofList_toList]
      exact named
    | item written placed on =>
      cases on
      exact Option.bind_eq_some_iff.mpr ⟨_, written, placed⟩

theorem leadsTo_cons_iff {segment : String} {rest : List String} {v found : Value} :
    LeadsTo v (segment :: rest) found ↔ ∃ next, LeadsTo v [segment] next ∧ LeadsTo next rest found := by
  constructor
  · intro leads
    cases leads with
    | member named on => exact ⟨_, .member named (.here _), on⟩
    | item written placed on => exact ⟨_, .item written placed (.here _), on⟩
  · intro given
    obtain ⟨next, first, on⟩ := given
    cases first with
    | member named here =>
      cases here
      exact .member named on
    | item written placed here =>
      cases here
      exact .item written placed on

theorem descend?_eq_some_iff {segments : List String} {v found : Value} :
    descend? (segments.map String.toList) v = some found ↔ LeadsTo v segments found := by
  induction segments generalizing v with
  | nil =>
    rw [List.map_nil, descend?, Option.some.injEq]
    constructor
    · intro same
      exact same ▸ .here v
    · intro leads
      cases leads
      rfl
  | cons segment rest ih =>
    rw [List.map_cons, descend?, Option.bind_eq_some_iff, leadsTo_cons_iff]
    simp only [step?_eq_some_iff, ih]

theorem member?_eq_none_of_not_mem_keys {document : Value} {path : String} (absent : path ∉ document.keys) :
    document.member? path = none := by
  cases document with
  | object members =>
    change Members.get? path members = none
    induction members with
    | nil => rfl
    | cons member rest ih =>
      obtain ⟨key, v⟩ := member
      obtain ⟨other, later⟩ := List.ne_and_not_mem_of_not_mem_cons absent
      rw [Members.get?, if_neg (Ne.symm other)]
      exact ih later
  | _ => rfl

theorem lookup_of_not_mem {path : String} (plain : '.' ∉ path.toList) (document : Value) :
    lookup document path = document.member? path := by
  have undotted : path.toList.contains '.' = false := by
    rw [← Bool.not_eq_true, List.contains_iff_mem]
    exact plain
  unfold lookup
  rw [undotted]
  cases document.member? path with
  | none => rfl
  | some v => rfl

theorem lookup_of_mem {path : String} (dotted : '.' ∈ path.toList) {document : Value}
    (absent : document.member? path = none) :
    lookup document path = descend? (Text.split '.' path.toList) document := by
  unfold lookup
  rw [absent]
  exact if_pos (List.contains_iff_mem.mpr dotted)

theorem mem_intercalate (first second : String) (rest : List String) :
    '.' ∈ (".".intercalate (first :: second :: rest)).toList := by
  rw [String.intercalate_cons_cons, String.toList_append, String.toList_append]
  exact List.mem_append_left _ (List.mem_append_right _ List.mem_cons_self)

/-- The one segment of a path names a member or leads nowhere, unless it is the place of an item. -/
theorem member?_eq_some_iff_leadsTo_iff {document : Value} {segment : String} :
    (∀ found, document.member? segment = some found ↔ LeadsTo document [segment] found) ↔
      ¬ ∃ items index, document = .array items ∧ Text.index? segment.toList = some index ∧
        index < items.length := by
  simp only [← step?_eq_some_iff]
  cases document with
  | object members =>
    rw [step?, String.ofList_toList]
    refine iff_of_true (fun found => Iff.rfl) ?_
    rintro ⟨items, index, same, _⟩
    cases same
  | array items =>
    rw [not_exists]
    constructor
    · rintro agree _ ⟨index, same, written, inside⟩
      cases same
      have placed : step? segment.toList (.array items) = some items[index] :=
        Option.bind_eq_some_iff.mpr ⟨index, written, List.getElem?_eq_getElem inside⟩
      cases (agree items[index]).mpr placed
    · intro unplaced found
      refine iff_of_false nofun fun stepped => ?_
      obtain ⟨index, written, placed⟩ := Option.bind_eq_some_iff.mp stepped
      obtain ⟨inside, _⟩ := List.getElem?_eq_some_iff.mp placed
      exact unplaced items ⟨index, rfl, written, inside⟩
  | _ =>
    refine iff_of_true (fun found => iff_of_false nofun nofun) ?_
    rintro ⟨items, index, same, _⟩
    cases same

/--
A path of segments without dots, in a document whose own keys have no dots either, finds exactly what its segments
lead to, unless the document is an array and the path the place of one of its items. No path of one segment finds
anything in an array.
-/
theorem lookup_follows_segments_iff {document : Value} {segments : List String} (given : segments ≠ [])
    (plain : ∀ segment ∈ segments, '.' ∉ segment.toList)
    (undotted : ∀ key ∈ document.keys, '.' ∉ key.toList) :
    ((∀ found, lookup document (".".intercalate segments) = some found ↔
        LeadsTo document segments found) ↔
      ¬ ∃ items segment index, document = .array items ∧ segments = [segment] ∧
        Text.index? segment.toList = some index ∧ index < items.length) ∧
    ∀ items segment, document = .array items → segments = [segment] →
      lookup document (".".intercalate segments) = none := by
  match segments with
  | [] => exact absurd rfl given
  | [segment] =>
    have found : lookup document (".".intercalate [segment]) = document.member? segment := by
      rw [String.intercalate_singleton, lookup_of_not_mem (plain segment List.mem_cons_self)]
    rw [found]
    refine ⟨member?_eq_some_iff_leadsTo_iff.trans (not_congr ?_), ?_⟩
    · constructor
      · rintro ⟨items, index, array, placed⟩
        exact ⟨items, segment, index, array, rfl, placed⟩
      · rintro ⟨items, _, index, array, same, placed⟩
        cases same
        exact ⟨items, index, array, placed⟩
    · rintro items _ rfl _
      rfl
  | first :: second :: rest =>
    have dotted := mem_intercalate first second rest
    -- a path with a dot is none of the keys, so it is followed
    have absent : document.member? (".".intercalate (first :: second :: rest)) = none :=
      member?_eq_none_of_not_mem_keys fun inside => undotted _ inside dotted
    rw [lookup_of_mem dotted absent, split_intercalate given plain]
    refine ⟨iff_of_true (fun found => descend?_eq_some_iff) ?_, ?_⟩
    · rintro ⟨items, segment, index, array, same, placed⟩
      cases same
    · intro items segment array same
      cases same

/-- The town of the second order is found through a member, an item and a member. -/
theorem lookup_follows_segments_of_orders :
    let document : Value :=
      .object [("orders", .array [.null, .object [("town", .string "Oslo")]])]
    let segments := ["orders", "1", "town"]
    segments ≠ [] ∧ (∀ segment ∈ segments, '.' ∉ segment.toList) ∧
      (∀ key ∈ document.keys, '.' ∉ key.toList) ∧
      LeadsTo document segments (.string "Oslo") ∧
      lookup document (".".intercalate segments) = some (.string "Oslo") := by
  intro document segments
  have given : segments ≠ [] := List.cons_ne_nil _ _
  have plain : ∀ segment ∈ segments, '.' ∉ segment.toList := by decide +kernel
  have undotted : ∀ key ∈ document.keys, '.' ∉ key.toList := by decide +kernel
  have placed : Text.index? "1".toList = some 1 := by decide +kernel
  have leads : LeadsTo document segments (.string "Oslo") :=
    .member rfl (.item placed rfl (.member rfl (.here _)))
  have exact_here := (lookup_follows_segments_iff given plain undotted).1.mpr fun beyond => by
    obtain ⟨items, segment, index, array, _⟩ := beyond
    change Value.object _ = .array items at array
    cases array
  exact ⟨given, plain, undotted, leads, (exact_here _).mpr leads⟩

/-- The first item of an array is not found under its place. -/
theorem lookup_misses_item :
    let document : Value := .array [.string "Ann"]
    (∀ key ∈ document.keys, '.' ∉ key.toList) ∧ '.' ∉ "0".toList ∧
      ¬ ∀ found, lookup document (".".intercalate ["0"]) = some found ↔ LeadsTo document ["0"] found := by
  intro document
  have placed : Text.index? "0".toList = some 0 := by decide +kernel
  have missed : lookup document (".".intercalate ["0"]) = none := by
    rw [String.intercalate_singleton]
    rfl
  refine ⟨List.forall_mem_nil _, by decide +kernel, fun agree => ?_⟩
  have found := (agree (.string "Ann")).mpr (.item placed rfl (.here _))
  rw [missed] at found
  cases found

end TableQuery
