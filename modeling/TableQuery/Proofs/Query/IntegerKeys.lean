import TableQuery.Proofs.Filter.Meaning
import TableQuery.Proofs.Query.SortOrder

set_option autoImplicit false

namespace TableQuery

open Json (Value Number)

def int64At? (key : String) (document : Value) : Option Int :=
  match lookup document key with
  | some (.number n) => n.int64?
  | _ => none

/-- The integer by which a document is placed; zero where it holds none. -/
def placeOf (key : String) (document : Value) : Int := (int64At? key document).getD 0

/-- All documents hold integers at the key, no two of them the same. -/
structure KeyedBy (key : String) (documents : List Value) : Prop where
  held : ∀ document ∈ documents, (int64At? key document).isSome = true
  distinct : (documents.map (int64At? key ·)).Nodup

/-- What lets in the documents that come after a value at a key; without a value, all of them. -/
def Filter.after (key : String) (value : Option Value) : List Filter := value.toList.map (.compare key .gt ·)

def lastAt? (key : String) (rows : List Value) : Option Value := rows.getLast?.bind (lookup · key)

variable {key : String}

theorem int64At?_of_held {document : Value} (held : (int64At? key document).isSome = true) :
    int64At? key document = some (placeOf key document) := by
  obtain ⟨place, found⟩ := Option.isSome_iff_exists.mp held
  rw [placeOf, found, Option.getD_some]

theorem exists_number_of_held {document : Value} (held : (int64At? key document).isSome = true) :
    ∃ n : Number, lookup document key = some (.number n) ∧ n.int64? = some (placeOf key document) := by
  have found := int64At?_of_held held
  generalize placeOf key document = place at found
  unfold int64At? at found
  split at found
  · rename_i n number
    exact ⟨n, number, found⟩
  · cases found

section Two

variable {a b : Value} (left : (int64At? key a).isSome = true) (right : (int64At? key b).isSome = true)
include left right

theorem orderDocuments_of_held :
    orderDocuments [⟨key, .asc⟩] a b = compare (placeOf key a) (placeOf key b) := by
  obtain ⟨n, first, exactly⟩ := exists_number_of_held left
  obtain ⟨m, second, precisely⟩ := exists_number_of_held right
  rw [orderDocuments, orderDocuments, first, second, Ordering.then_eq]
  exact Number.order_of_int64 exactly precisely

/-- A document comes after another one where its integer is greater. -/
theorem all_after_of_held :
    (Filter.after key (lookup b key)).all (Filter.meets a) = decide (placeOf key b < placeOf key a) := by
  obtain ⟨n, first, exactly⟩ := exists_number_of_held left
  obtain ⟨m, second, precisely⟩ := exists_number_of_held right
  have order := Number.order_of_int64 exactly precisely
  simp only [Filter.after, second, Option.toList_some, List.map_cons, List.map_nil, List.all_cons,
    List.all_nil, Bool.and_true, Filter.meets, first, Comparison.holds, orderOf?, order]
  rw [Bool.eq_iff_iff, beq_iff_eq, Option.some.injEq, decide_eq_true_iff, Int.compare_eq_gt]

end Two

namespace KeyedBy

variable {documents : List Value} (keyed : KeyedBy key documents)
include keyed

theorem sublist {others : List Value} (among : others.Sublist documents) : KeyedBy key others where
  held document member := keyed.held document (among.subset member)
  distinct := keyed.distinct.sublist (among.map _)

theorem sortDocuments_eq : sortDocuments [⟨key, .asc⟩] documents =
    stableSort (fun a b => compare (placeOf key a) (placeOf key b)) documents :=
  -- The order of values is not transitive throughout, so the facts about sorts apply to the integers only.
  stableSort_congr fun a among b beside => orderDocuments_of_held (keyed.held a among) (keyed.held b beside)

theorem pairwise_sortDocuments :
    (sortDocuments [⟨key, .asc⟩] documents).Pairwise (placeOf key · < placeOf key ·) := by
  have sorted : (sortDocuments [⟨key, .asc⟩] documents).Pairwise (placeOf key · ≤ placeOf key ·) := by
    rw [keyed.sortDocuments_eq]
    have swap (a b : Value) : compare (placeOf key b) (placeOf key a) =
        (compare (placeOf key a) (placeOf key b)).swap := Std.OrientedOrd.eq_swap
    have trans (a b c : Value) (up : compare (placeOf key a) (placeOf key b) ≠ .gt)
        (on : compare (placeOf key b) (placeOf key c) ≠ .gt) : compare (placeOf key a) (placeOf key c) ≠ .gt := by
      rw [Int.compare_ne_gt] at up on ⊢
      omega
    have inOrder : documents.Pairwise fun _ _ => True := List.pairwise_of_forall fun _ _ => trivial
    refine (pairwise_stableSort swap trans inOrder).imp fun follows => ?_
    rcases follows with less | ⟨tie, _⟩
    · exact Int.le_of_lt (Int.compare_eq_lt.mp less)
    · exact Int.le_of_eq (Int.compare_eq_eq.mp tie)
  have perm : (sortDocuments [⟨key, .asc⟩] documents).Perm documents := sortDocuments_perm _ _
  have apart : (sortDocuments [⟨key, .asc⟩] documents).Pairwise (int64At? key · ≠ int64At? key ·) :=
    List.pairwise_map.mp ((perm.map _).nodup_iff.mpr keyed.distinct)
  refine (sorted.and apart).imp_of_mem fun among beside both => ?_
  refine Int.lt_iff_le_and_ne.mpr ⟨both.1, fun same => both.2 ?_⟩
  rw [int64At?_of_held (keyed.held _ (perm.subset among)),
    int64At?_of_held (keyed.held _ (perm.subset beside)), same]

/-- Whether documents are filtered before or after the sort makes no difference. -/
theorem sortDocuments_filter (lets : Value → Bool) :
    sortDocuments [⟨key, .asc⟩] (documents.filter lets) =
      (sortDocuments [⟨key, .asc⟩] documents).filter lets := by
  have among : KeyedBy key (documents.filter lets) := keyed.sublist List.filter_sublist
  have first := among.pairwise_sortDocuments
  have later := keyed.pairwise_sortDocuments.sublist (List.filter_sublist (p := lets))
  have same : (sortDocuments [⟨key, .asc⟩] (documents.filter lets)).Perm
      ((sortDocuments [⟨key, .asc⟩] documents).filter lets) :=
    (sortDocuments_perm _ _).trans ((sortDocuments_perm _ _).filter lets).symm
  exact List.Perm.eq_of_pairwise (fun a b _ _ less more => absurd less (Int.lt_asymm more)) first later same

end KeyedBy

/-- Of ascending documents, those that come after the last of the first ones are the others. -/
theorem filter_after_lastAt? {done left : List Value}
    (held : ∀ document ∈ done ++ left, (int64At? key document).isSome = true)
    (ascending : (done ++ left).Pairwise (placeOf key · < placeOf key ·)) :
    ((done ++ left).filter fun document => (Filter.after key (lastAt? key done)).all (Filter.meets document)) =
      left := by
  obtain rfl | ⟨before, last, rfl⟩ := List.eq_nil_or_concat' done
  · exact List.filter_eq_self.mpr fun _ _ => rfl
  rw [List.forall_mem_append] at held
  obtain ⟨ordered, _, beyond⟩ := List.pairwise_append.mp ascending
  have closing : last ∈ before ++ [last] := List.mem_concat_self
  have found : lastAt? key (before ++ [last]) = lookup last key := by
    rw [lastAt?, List.getLast?_concat, Option.bind_some]
  have within : ∀ document ∈ before ++ [last], placeOf key document ≤ placeOf key last := by
    intro document member
    rcases List.mem_append.mp member with among | same
    · exact Int.le_of_lt ((List.pairwise_append.mp ordered).2.2 document among last List.mem_cons_self)
    · obtain rfl := List.mem_singleton.mp same
      exact Int.le_refl _
  rw [found, List.filter_append, List.filter_eq_nil_iff.mpr, List.nil_append, List.filter_eq_self]
  · intro document member
    rw [all_after_of_held (held.2 document member) (held.1 last closing), decide_eq_true_iff]
    exact beyond last closing document member
  · intro document member
    rw [all_after_of_held (held.1 document member) (held.1 last closing), decide_eq_true_iff, Int.not_lt]
    exact within document member

end TableQuery
