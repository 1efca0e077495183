import Mathlib.Data.List.FinRange
import TableQuery.Proofs.Query.SortOrder
import TableQuery.Proofs.Query.Sorting

set_option autoImplicit false

namespace TableQuery

open Json (Number Value)

theorem Json.Number.sharp_int64 : Sharp fun n => n.int64?.isSome = true := by
  intro between low high among _ _ blurs
  rw [blurs.1] at among
  cases among

theorem Direction.apply_swap (direction : Direction) (o : Ordering) :
    (direction.apply o).swap = direction.apply o.swap := by
  cases direction with
  | asc => rfl
  | desc => rfl

theorem Direction.apply_eq_eq_iff (direction : Direction) (o : Ordering) : direction.apply o = .eq ↔ o = .eq := by
  cases direction with
  | asc => exact Iff.rfl
  | desc => exact Ordering.swap_eq_eq

theorem Coherent.apply {first second third : Ordering} (coherent : Coherent first second third)
    (direction : Direction) :
    Coherent (direction.apply first) (direction.apply second) (direction.apply third) := by
  cases direction with
  | asc => exact coherent
  | desc =>
    revert coherent
    cases first <;> cases second <;> cases third <;> decide

/-- The numbers that are compared where a document is sorted by keys are of one kind. -/
def SortsOver (numbers : Number → Prop) (keys : List SortKey) (document : Value) : Prop :=
  ∀ key ∈ keys, ∀ v ∈ lookup document key.field, v.Over numbers

def firstDifference? (keys : List SortKey) (a b : Value) : Option SortKey :=
  keys.find? fun key => orderFields (lookup a key.field) (lookup b key.field) != .eq

/-- In the direction of the key, one document comes before another. -/
def SortKey.Places (key : SortKey) (a b : Value) : Prop :=
  match key.direction with
  | .asc => orderFields (lookup a key.field) (lookup b key.field) = .lt
  | .desc => orderFields (lookup a key.field) (lookup b key.field) = .gt

theorem SortKey.places_iff {key : SortKey} {a b : Value} :
    key.Places a b ↔ key.direction.apply (orderFields (lookup a key.field) (lookup b key.field)) = .lt := by
  unfold Places
  cases key.direction with
  | asc => exact Iff.rfl
  | desc => exact Ordering.swap_eq_lt.symm

theorem orderDocuments_swap (keys : List SortKey) (a b : Value) :
    (orderDocuments keys a b).swap = orderDocuments keys b a := by
  induction keys with
  | nil => rfl
  | cons key rest ih =>
    rw [orderDocuments, orderDocuments, Ordering.swap_then, Direction.apply_swap, orderFields_swap, ih]

theorem orderDocuments_append (first later : List SortKey) (a b : Value) :
    orderDocuments (first ++ later) a b = (orderDocuments first a b).then (orderDocuments later a b) := by
  induction first with
  | nil => rfl
  | cons key rest ih => rw [List.cons_append, orderDocuments, orderDocuments, ih, Ordering.then_assoc]

theorem orderDocuments_of_difference {keys : List SortKey} {a b : Value} {key : SortKey}
    (differs : firstDifference? keys a b = some key) :
    orderDocuments keys a b = key.direction.apply (orderFields (lookup a key.field) (lookup b key.field)) ∧
      orderDocuments keys a b ≠ .eq := by
  induction keys with
  | nil => cases differs
  | cons other rest ih =>
    rw [firstDifference?, List.find?_cons] at differs
    rw [orderDocuments]
    cases o : orderFields (lookup a other.field) (lookup b other.field) with
    | eq =>
      rw [o] at differs
      rw [(other.direction.apply_eq_eq_iff _).mpr rfl]
      exact ih differs
    | _ =>
      rw [o] at differs
      cases differs
      rw [o]
      cases key.direction <;> simp [Direction.apply]

theorem orderDocuments_of_alike {keys : List SortKey} {a b : Value} (alike : firstDifference? keys a b = none) :
    orderDocuments keys a b = .eq := by
  induction keys with
  | nil => rfl
  | cons key rest ih =>
    rw [firstDifference?, List.find?_eq_none, List.forall_mem_cons] at alike
    obtain ⟨same, others⟩ := alike
    rw [bne_iff_ne, not_not] at same
    rw [orderDocuments, same, (key.direction.apply_eq_eq_iff _).mpr rfl]
    exact ih (List.find?_eq_none.mpr others)

theorem coherent_orderDocuments {numbers : Number → Prop} (sharp : Number.Sharp numbers) {keys : List SortKey}
    {a b c : Value} (overA : SortsOver numbers keys a) (overB : SortsOver numbers keys b)
    (overC : SortsOver numbers keys c) :
    Coherent (orderDocuments keys a b) (orderDocuments keys b c) (orderDocuments keys c a) := by
  induction keys with
  | nil => exact .inl ⟨rfl, rfl, rfl⟩
  | cons key rest ih =>
    rw [SortsOver, List.forall_mem_cons] at overA overB overC
    refine ((coherent_orderFields sharp overA.1 overB.1 overC.1).apply key.direction).andThen ?_
    exact fun _ _ _ => ih overA.2 overB.2 overC.2

section Positions

variable {keys : List SortKey} {documents : List Value}

def sortPositions (keys : List SortKey) (documents : List Value) (positions : List (Fin documents.length)) :
    List (Fin documents.length) :=
  stableSort (fun i j => orderDocuments keys documents[i] documents[j]) positions

/-- The first of two positions comes first under the keys, or before the second where they tie. -/
def ComesFirst (keys : List SortKey) (documents : List Value) (before : Fin documents.length →
    Fin documents.length → Prop) (i j : Fin documents.length) : Prop :=
  orderDocuments keys documents[i] documents[j] = .lt ∨
    (orderDocuments keys documents[i] documents[j] = .eq ∧ before i j)

theorem map_get_sortPositions (keys : List SortKey) (documents : List Value)
    (positions : List (Fin documents.length)) :
    (sortPositions keys documents positions).map documents.get = sortDocuments keys (positions.map documents.get) :=
  map_stableSort fun _ _ _ _ => rfl

theorem sortDocuments_eq_map (keys : List SortKey) (documents : List Value) :
    sortDocuments keys documents =
      (sortPositions keys documents (List.finRange documents.length)).map documents.get := by
  rw [map_get_sortPositions, List.map_get_finRange]

theorem sortPositions_perm (keys : List SortKey) (documents : List Value)
    (positions : List (Fin documents.length)) :
    (sortPositions keys documents positions).Perm positions := stableSort_perm _ _

/-- Sorted positions are the only rearrangement in which each comes first where it should. -/
theorem eq_of_comesFirst {first second : List (Fin documents.length)} (perm : first.Perm second)
    (left : first.Pairwise (ComesFirst keys documents (· < ·)))
    (right : second.Pairwise (ComesFirst keys documents (· < ·))) : first = second := by
  refine List.Perm.eq_of_pairwise (fun i j _ _ up down => ?_) left right perm
  unfold ComesFirst at up down
  rw [← orderDocuments_swap keys documents[i] documents[j]] at down
  rcases up with less | ⟨tie, low⟩
  · rw [less] at down
    rcases down with more | ⟨other, _⟩
    · cases more
    · cases other
  · rw [tie] at down
    rcases down with more | ⟨_, high⟩
    · cases more
    · exact absurd low (Nat.lt_asymm high)

variable {numbers : Number → Prop} (sharp : Number.Sharp numbers)
include sharp

/-- Sorting positions keeps the order in which they were where the documents tie. -/
theorem pairwise_sortPositions (fits : ∀ document ∈ documents, SortsOver numbers keys document)
    {before : Fin documents.length → Fin documents.length → Prop} {positions : List (Fin documents.length)}
    (ordered : positions.Pairwise before) :
    (sortPositions keys documents positions).Pairwise (ComesFirst keys documents before) := by
  have within (i : Fin documents.length) : SortsOver numbers keys documents[i] := fits _ (List.getElem_mem i.isLt)
  refine pairwise_stableSort (fun i j => (orderDocuments_swap keys documents[i] documents[j]).symm) ?_ ordered
  intro i j k up on
  have circle := coherent_orderDocuments sharp (within i) (within j) (within k)
  rw [← orderDocuments_swap keys documents[i] documents[k]] at circle
  exact circle.ne_gt up on

/-- Documents can be sorted over numbers that do not blur each other. -/
theorem settles_of_sharp (fits : ∀ document ∈ documents, SortsOver numbers keys document) :
    settles (orderDocuments keys) documents = true := by
  rw [settles_iff fun a b => (orderDocuments_swap keys a b).symm]
  refine .inr fun a overA b overB c overC up on => ?_
  have circle := coherent_orderDocuments sharp (fits a overA) (fits b overB) (fits c overC)
  rw [← orderDocuments_swap keys a c] at circle
  exact circle.ne_gt up on

theorem sortDocuments_append {first later : List SortKey}
    (fits : ∀ document ∈ documents, SortsOver numbers (first ++ later) document) :
    sortDocuments (first ++ later) documents = sortDocuments first (sortDocuments later documents) := by
  have overFirst : ∀ document ∈ documents, SortsOver numbers first document :=
    fun document member => (List.forall_mem_append.mp (fits document member)).1
  have overLater : ∀ document ∈ documents, SortsOver numbers later document :=
    fun document member => (List.forall_mem_append.mp (fits document member)).2
  have inOrder := List.pairwise_lt_finRange documents.length
  rw [sortDocuments_eq_map later, ← map_get_sortPositions, sortDocuments_eq_map (first ++ later)]
  refine congrArg (List.map documents.get) ?_
  refine eq_of_comesFirst ?_ (pairwise_sortPositions sharp fits inOrder) ?_
  · exact (sortPositions_perm _ _ _).trans
      ((sortPositions_perm _ _ _).trans (sortPositions_perm _ _ _)).symm
  · refine (pairwise_sortPositions sharp overFirst (pairwise_sortPositions sharp overLater inOrder)).imp ?_
    intro i j comes
    unfold ComesFirst at comes ⊢
    rw [orderDocuments_append]
    rcases comes with less | ⟨tie, less | ⟨alike, low⟩⟩
    · exact .inl (by rw [less, Ordering.lt_then])
    · exact .inl (by rw [tie, less, Ordering.eq_then])
    · exact .inr ⟨by rw [tie, alike, Ordering.eq_then], low⟩

end Positions

/--
The sort is stable and goes by the first difference. Where all numbers at the sorted fields are signed 64-bit
integers, the sorted documents are the documents at rearranged positions: of two of them, the one comes first
that the first key on which they differ puts first, and where no key tells them apart the one that was first.
Sorting by keys in two rounds, the last keys in the first round, comes to the same.
-/
theorem sortDocuments_stable {keys : List SortKey} {documents : List Value}
    (integers : ∀ document ∈ documents, ∀ key ∈ keys, ∀ v ∈ lookup document key.field,
      v.Over fun n => n.int64?.isSome = true) :
    (∃ positions : List (Fin documents.length), positions.Perm (List.finRange documents.length) ∧
      sortDocuments keys documents = positions.map documents.get ∧
      positions.Pairwise fun i j =>
        match firstDifference? keys documents[i] documents[j] with
        | some key => key.Places documents[i] documents[j]
        | none => i < j) ∧
    ∀ first later, keys = first ++ later →
      sortDocuments keys documents = sortDocuments first (sortDocuments later documents) := by
  refine ⟨⟨sortPositions keys documents (List.finRange documents.length), sortPositions_perm _ _ _,
    sortDocuments_eq_map keys documents, ?_⟩, ?_⟩
  · have inOrder := List.pairwise_lt_finRange documents.length
    refine (pairwise_sortPositions Number.sharp_int64 integers inOrder).imp fun {i j} comes => ?_
    cases differs : firstDifference? keys documents[i] documents[j] with
    | some key =>
      obtain ⟨decided, apart⟩ := orderDocuments_of_difference differs
      rcases comes with less | ⟨tie, _⟩
      · exact SortKey.places_iff.mpr (decided.symm.trans less)
      · exact absurd tie apart
    | none =>
      have tie := orderDocuments_of_alike differs
      rcases comes with less | ⟨_, low⟩
      · cases tie.symm.trans less
      · exact low
  · intro first later parts
    subst parts
    exact sortDocuments_append Number.sharp_int64 integers

/-- Four of a crew by team, the last team first, and then by ages: two of one team tie, one has no age, and one
has a list of ages. -/
theorem sortDocuments_stable_of_crew :
    let keys : List SortKey := [⟨"team", .desc⟩, ⟨"age", .asc⟩]
    let documents : List Value :=
      [.object [("age", .int 40), ("name", .string "Ann"), ("team", .string "core")],
        .object [("name", .string "Bob"), ("team", .string "growth")],
        .object [("age", .int 40), ("name", .string "Cy"), ("team", .string "core")],
        .object [("age", .array [.int 1, .null]), ("name", .string "Dan"), ("team", .string "core")]]
    (∀ document ∈ documents, ∀ key ∈ keys, ∀ v ∈ lookup document key.field,
      v.Over fun n => n.int64?.isSome = true) ∧
    (∃ positions : List (Fin documents.length), positions.Perm (List.finRange documents.length) ∧
      sortDocuments keys documents = positions.map documents.get ∧
      positions.Pairwise fun i j =>
        match firstDifference? keys documents[i] documents[j] with
        | some key => key.Places documents[i] documents[j]
        | none => i < j) ∧
    sortDocuments keys documents =
      sortDocuments [⟨"team", .desc⟩] (sortDocuments [⟨"age", .asc⟩] documents) := by
  intro keys documents
  have integers : ∀ document ∈ documents, ∀ key ∈ keys, ∀ v ∈ lookup document key.field,
      v.Over fun n => n.int64?.isSome = true := by
    unfold Json.Value.Over
    decide +kernel
  obtain ⟨stable, rounds⟩ := sortDocuments_stable integers
  exact ⟨integers, stable, rounds [⟨"team", .desc⟩] [⟨"age", .asc⟩] rfl⟩

end TableQuery
