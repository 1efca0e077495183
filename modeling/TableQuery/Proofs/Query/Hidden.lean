import Mathlib.Data.List.Forall2
import TableQuery.Proofs.Filter.Fields
import TableQuery.Proofs.Json.Members
import TableQuery.Proofs.Query.Lookup

set_option autoImplicit false

namespace TableQuery

open Json (Value Members)

namespace Json

def Value.without (key : String) : Value → Value
  | .object members => .object (Members.erase key members)
  | v => v

/-- Whether a value has no parts. -/
def Value.isScalar : Value → Bool
  | .array _ => false
  | .object _ => false
  | _ => true

theorem Value.member?_without {key hidden : String} (other : key ≠ hidden) (v : Value) :
    (v.without hidden).member? key = v.member? key := by
  cases v with
  | object members =>
    change Members.get? key (Members.erase hidden members) = _
    rw [Members.get?_erase, if_neg other]
    rfl
  | _ => rfl

end Json

/-- The documents agree outside a field, which on neither side has parts where it is there. -/
structure AgreeOutside (field : String) (document other : Value) : Prop where
  rest : document.without field = other.without field
  left : ∀ v ∈ document.member? field, v.isScalar = true
  right : ∀ v ∈ other.member? field, v.isScalar = true

theorem descend?_of_isScalar {v : Value} (scalar : v.isScalar = true) (segment : List Char)
    (rest : List (List Char)) : descend? (segment :: rest) v = none := by
  cases v with
  | array items => cases scalar
  | object members => cases scalar
  | _ => rfl

namespace AgreeOutside

variable {field : String} {document other : Value}

theorem member?_eq (agree : AgreeOutside field document other) {key : String} (apart : key ≠ field) :
    document.member? key = other.member? key := by
  rw [← Json.Value.member?_without apart document, agree.rest, Json.Value.member?_without apart other]

/-- Documents that are not objects agree only where they are equal. -/
theorem eq_or_objects (agree : AgreeOutside field document other) :
    document = other ∨ ∃ members others, document = .object members ∧ other = .object others := by
  have rest := agree.rest
  cases document with
  | object members =>
    cases other with
    | object others => exact .inr ⟨members, others, rfl, rfl⟩
    | _ => cases rest
  | _ =>
    cases other with
    | object others => cases rest
    | _ => exact .inl rest

/-- A path of several segments leads to the same place, for it does not end at the field. -/
theorem descend?_eq (agree : AgreeOutside field document other) (first second : List Char)
    (rest : List (List Char)) :
    descend? (first :: second :: rest) document = descend? (first :: second :: rest) other := by
  rcases agree.eq_or_objects with rfl | ⟨members, others, rfl, rfl⟩
  · rfl
  have ended {v : Value} (scalar : ∀ w ∈ v.member? field, w.isScalar = true) :
      (v.member? field).bind (descend? (second :: rest)) = none := by
    cases found : v.member? field with
    | none => rfl
    | some w => exact descend?_of_isScalar (scalar w found) second rest
  change ((Value.object members).member? (String.ofList first)).bind (descend? (second :: rest)) =
    ((Value.object others).member? (String.ofList first)).bind (descend? (second :: rest))
  by_cases same : String.ofList first = field
  · rw [same, ended agree.left, ended agree.right]
  · rw [agree.member?_eq same]

theorem lookup_eq (agree : AgreeOutside field document other) {path : String} (apart : path ≠ field) :
    lookup document path = lookup other path := by
  unfold lookup
  rw [agree.member?_eq apart]
  cases other.member? path with
  | some v => rfl
  | none =>
    cases dotted : path.toList.contains '.' with
    | false => rfl
    | true =>
      obtain ⟨first, second, rest, split⟩ := exists_split_of_mem (List.contains_iff_mem.mp dotted)
      rw [split]
      exact agree.descend?_eq first second rest

end AgreeOutside

theorem orderDocuments_congr {keys : List SortKey} {a b c d : Value}
    (left : ∀ key ∈ keys, lookup a key.field = lookup c key.field)
    (right : ∀ key ∈ keys, lookup b key.field = lookup d key.field) :
    orderDocuments keys a b = orderDocuments keys c d := by
  induction keys with
  | nil => rfl
  | cons key rest ih =>
    rw [List.forall_mem_cons] at left right
    rw [orderDocuments, orderDocuments, left.1, right.1, ih left.2 right.2]

/-- A query that does not look at a field, neither to filter nor to sort. -/
structure Query.Ignores (q : Query) (field : String) : Prop where
  filter : ∀ name ∈ (Filter.group q.filter).fields, name ≠ field
  sorts : ∀ key ∈ q.sorts, key.field ≠ field

namespace Collection

/-- The documents that a query selects from a list, if all its patterns compile. -/
def selected (q : Query) (documents : List Value) : List Value :=
  window q.skip q.limit (sortDocuments q.sorts (documents.filter ((Filter.group q.filter).meets ·)))

theorem count_eq (c : Collection) (q : Query) :
    c.count q = (checkPatterns (Filter.group q.filter).patterns).map fun _ =>
      (c.documents.filter ((Filter.group q.filter).meets ·)).length := by
  rw [count, matching_eq]
  cases checkPatterns (Filter.group q.filter).patterns <;> rfl

theorem fetch_eq (c : Collection) (q : Query) :
    c.fetch q = (checkPatterns (Filter.group q.filter).patterns).map fun _ => selected q c.documents := by
  rw [fetch, matching_eq]
  cases checkPatterns (Filter.group q.filter).patterns <;> rfl

def documentAt (documents : List Value) (position : Nat) : Value := (documents[position]?).getD .null

theorem documentAt_eq {documents : List Value} {position : Nat} (inside : position < documents.length) :
    documentAt documents position = documents[position] := by
  rw [documentAt, List.getElem?_eq_getElem inside, Option.getD_some]

theorem map_documentAt (documents : List Value) :
    (List.range documents.length).map (documentAt documents) = documents := by
  apply List.ext_getElem
  · rw [List.length_map, List.length_range]
  · intro position within inside
    rw [List.getElem_map, List.getElem_range, documentAt_eq inside]

theorem map_getElem?_eq {documents : List Value} {positions : List Nat}
    (within : ∀ position ∈ positions, position < documents.length) :
    positions.map (documents[·]?) = (positions.map (documentAt documents)).map some := by
  rw [List.map_map]
  refine List.map_congr_left fun position member => ?_
  rw [Function.comp_apply, documentAt_eq (within position member),
    List.getElem?_eq_getElem (within position member)]

def positionsIn (skip limit : Option Nat) (positions : List Nat) : List Nat :=
  let rest := positions.drop (skip.getD 0)
  match limit with
  | some n => rest.take n
  | none => rest

theorem window_map (document : Nat → Value) (skip limit : Option Nat) (positions : List Nat) :
    window skip limit (positions.map document) = (positionsIn skip limit positions).map document := by
  cases limit with
  | none => rw [window, positionsIn, List.map_drop]
  | some n => rw [window, positionsIn, List.map_take, List.map_drop]

theorem positionsIn_sublist (skip limit : Option Nat) (positions : List Nat) :
    (positionsIn skip limit positions).Sublist positions := by
  cases limit with
  | none => exact List.drop_sublist _ _
  | some n => exact (List.take_sublist _ _).trans (List.drop_sublist _ _)

def metPositions (q : Query) (documents : List Value) : List Nat :=
  (List.range documents.length).filter fun position =>
    (Filter.group q.filter).meets (documentAt documents position)

/-- The positions of the documents that a query selects, in the order of its rows. -/
def selectedPositions (q : Query) (documents : List Value) : List Nat :=
  positionsIn q.skip q.limit (stableSort (fun first second =>
    orderDocuments q.sorts (documentAt documents first) (documentAt documents second)) (metPositions q documents))

theorem lt_of_mem_metPositions {q : Query} {documents : List Value} {position : Nat}
    (member : position ∈ metPositions q documents) : position < documents.length :=
  List.mem_range.mp (List.mem_of_mem_filter member)

theorem lt_of_mem_selectedPositions {q : Query} {documents : List Value} {position : Nat}
    (member : position ∈ selectedPositions q documents) : position < documents.length :=
  lt_of_mem_metPositions (mem_stableSort.mp ((positionsIn_sublist _ _ _).subset member))

theorem nodup_selectedPositions (q : Query) (documents : List Value) :
    (selectedPositions q documents).Nodup := by
  have met : (metPositions q documents).Nodup := List.nodup_range.filter _
  exact ((stableSort_perm _ _).nodup_iff.mpr met).sublist (positionsIn_sublist _ _ _)

section Alike

variable {q : Query} {field : String} {documents others : List Value} (ignores : q.Ignores field)
  (length : others.length = documents.length)
  (alike : ∀ position < documents.length, ∀ name, name ≠ field →
    lookup (documentAt documents position) name = lookup (documentAt others position) name)
include ignores length alike

/-- The documents that meet the filter stand at the positions found on a list that looks alike. -/
theorem filter_eq_map_metPositions : others.filter ((Filter.group q.filter).meets ·) =
    (metPositions q documents).map (documentAt others) := by
  conv_lhs => rw [← map_documentAt others]
  rw [List.filter_map, length]
  refine congrArg (List.map (documentAt others)) (List.filter_congr fun position member => ?_)
  have seen := alike position (List.mem_range.mp member)
  rw [Function.comp_apply, Filter.meets_congr fun name among => seen name (ignores.filter name among)]

/-- The selected rows stand at the positions found on a list that looks alike. -/
theorem selected_eq_map_selectedPositions :
    selected q others = (selectedPositions q documents).map (documentAt others) := by
  have sorted : sortDocuments q.sorts ((metPositions q documents).map (documentAt others)) = List.map
      (documentAt others) (stableSort (fun first second => orderDocuments q.sorts (documentAt documents first)
        (documentAt documents second)) (metPositions q documents)) := by
    refine (map_stableSort fun first among second beside => ?_).symm
    have left := alike first (lt_of_mem_metPositions among)
    have right := alike second (lt_of_mem_metPositions beside)
    rw [orderDocuments_congr (fun key listed => left key.field (ignores.sorts key listed))
      (fun key listed => right key.field (ignores.sorts key listed))]
  rw [selected, filter_eq_map_metPositions ignores length alike, sorted, window_map, selectedPositions]

end Alike

section AgreeOutside

variable {q : Query} {field : String} {documents others : List Value} (ignores : q.Ignores field)
  (agree : List.Forall₂ (AgreeOutside field) documents others)

include agree in
/-- At every position, documents that agree outside a field look alike but for the field. -/
theorem lookup_documentAt_eq {position : Nat} (inside : position < documents.length) {name : String}
    (apart : name ≠ field) :
    lookup (documentAt documents position) name = lookup (documentAt others position) name := by
  have within : position < others.length := agree.length_eq ▸ inside
  rw [documentAt_eq inside, documentAt_eq within]
  exact (agree.get inside within).lookup_eq apart

include ignores agree

theorem length_filter_eq : (documents.filter ((Filter.group q.filter).meets ·)).length =
    (others.filter ((Filter.group q.filter).meets ·)).length := by
  rw [filter_eq_map_metPositions ignores rfl fun _ _ _ _ => rfl,
    filter_eq_map_metPositions ignores agree.length_eq.symm
      fun _ inside _ apart => lookup_documentAt_eq agree inside apart, List.length_map, List.length_map]

/-- A query that ignores a field selects the same positions. -/
theorem exists_positions : ∃ positions : List Nat, positions.Nodup ∧
    (selected q documents).map some = positions.map (documents[·]?) ∧
    (selected q others).map some = positions.map (others[·]?) := by
  refine ⟨selectedPositions q documents, nodup_selectedPositions q documents, ?_, ?_⟩
  · rw [map_getElem?_eq fun position => lt_of_mem_selectedPositions,
      selected_eq_map_selectedPositions ignores rfl fun _ _ _ _ => rfl]
  · have within : ∀ position ∈ selectedPositions q documents, position < others.length := by
      intro position member
      exact agree.length_eq ▸ lt_of_mem_selectedPositions member
    rw [map_getElem?_eq within, selected_eq_map_selectedPositions ignores agree.length_eq.symm
      fun _ inside _ apart => lookup_documentAt_eq agree inside apart]

end AgreeOutside

end Collection

end TableQuery
