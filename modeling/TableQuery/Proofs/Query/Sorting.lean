import Mathlib.Data.List.Sigma
import TableQuery.Query.Sort

set_option autoImplicit false

namespace TableQuery

variable {α β : Type} {order : α → α → Ordering} {items : List α}

section Insertion

theorem insertBehind_perm (order : α → α → Ordering) (item : α) (sorted : List α) :
    (insertBehind order item sorted).Perm (item :: sorted) := by
  induction sorted with
  | nil => exact .rfl
  | cons last others ih =>
    unfold insertBehind
    split
    · exact (ih.cons last).trans (.swap item last others)
    · exact .rfl

theorem foldl_insertBehind_perm (order : α → α → Ordering) (items sorted : List α) :
    (items.foldl (fun sorted item => insertBehind order item sorted) sorted).Perm (items ++ sorted) := by
  induction items generalizing sorted with
  | nil => exact .rfl
  | cons item rest ih =>
    have inserted := (insertBehind_perm order item sorted).append_left rest
    exact (ih _).trans (inserted.trans List.perm_middle)

theorem insertionSort_perm (order : α → α → Ordering) (items : List α) :
    (insertionSort order items).Perm items := by
  have inserted := foldl_insertBehind_perm order items []
  rw [List.append_nil] at inserted
  exact (List.reverse_perm _).trans inserted

/-- An item is put where what it stands for is put. -/
theorem map_insertBehind {other : β → β → Ordering} {f : α → β} {item : α} {sorted : List α}
    (same : ∀ a ∈ sorted, order item a = other (f item) (f a)) :
    (insertBehind order item sorted).map f = insertBehind other (f item) (sorted.map f) := by
  induction sorted with
  | nil => rfl
  | cons last others ih =>
    have first := same last List.mem_cons_self
    have rest := ih fun a member => same a (List.mem_cons_of_mem last member)
    simp only [insertBehind, List.map_cons, ← first]
    split
    · rw [List.map_cons, rest]
    · rfl

theorem map_foldl_insertBehind {other : β → β → Ordering} {f : α → β} {sorted : List α}
    (same : ∀ a ∈ items, ∀ b ∈ sorted ++ items, order a b = other (f a) (f b)) :
    (items.foldl (fun sorted item => insertBehind order item sorted) sorted).map f =
      (items.map f).foldl (fun sorted item => insertBehind other item sorted) (sorted.map f) := by
  induction items generalizing sorted with
  | nil => rfl
  | cons item rest ih =>
    have placed : (insertBehind order item sorted).map f = insertBehind other (f item) (sorted.map f) :=
      map_insertBehind fun a member => same item List.mem_cons_self a (List.mem_append_left _ member)
    rw [List.foldl_cons, List.map_cons, List.foldl_cons, ← placed]
    refine ih fun a member b beside => same a (List.mem_cons_of_mem item member) b ?_
    have among := ((insertBehind_perm order item sorted).append_right rest).subset beside
    simp only [List.cons_append, List.mem_cons, List.mem_append] at among ⊢
    tauto

theorem map_insertionSort {other : β → β → Ordering} {f : α → β}
    (same : ∀ a ∈ items, ∀ b ∈ items, order a b = other (f a) (f b)) :
    (insertionSort order items).map f = insertionSort other (items.map f) := by
  have folded : (items.foldl (fun sorted item => insertBehind order item sorted) []).map f = _ :=
    map_foldl_insertBehind same
  rw [insertionSort, insertionSort, List.map_reverse, folded, List.map_nil]

end Insertion

section Stable

theorem stableSort_perm (order : α → α → Ordering) (items : List α) :
    (stableSort order items).Perm items := by
  unfold stableSort
  split
  · exact insertionSort_perm order items
  · exact List.mergeSort_perm items _

@[simp]
theorem length_stableSort (order : α → α → Ordering) (items : List α) :
    (stableSort order items).length = items.length :=
  (stableSort_perm order items).length_eq

@[simp]
theorem mem_stableSort {a : α} : a ∈ stableSort order items ↔ a ∈ items :=
  (stableSort_perm order items).mem_iff

/-- Items are sorted as what they stand for is. -/
theorem map_stableSort {other : β → β → Ordering} {f : α → β}
    (same : ∀ a ∈ items, ∀ b ∈ items, order a b = other (f a) (f b)) :
    (stableSort order items).map f = stableSort other (items.map f) := by
  unfold stableSort
  rw [List.length_map]
  split
  · exact map_insertionSort same
  · refine List.map_mergeSort fun a among b beside => ?_
    rw [same a among b beside]

theorem stableSort_congr {other : α → α → Ordering} (same : ∀ a ∈ items, ∀ b ∈ items, order a b = other a b) :
    stableSort order items = stableSort other items := by
  simpa using map_stableSort (f := id) same

theorem sortDocuments_perm (keys : List SortKey) (documents : List Json.Value) :
    (sortDocuments keys documents).Perm documents := stableSort_perm _ _

@[simp]
theorem length_sortDocuments (keys : List SortKey) (documents : List Json.Value) :
    (sortDocuments keys documents).length = documents.length := length_stableSort _ _

/-- One item comes before another in the order, or ties with it and stood before it. -/
def Follows (order : α → α → Ordering) (stood : α → α → Prop) (a b : α) : Prop :=
  order a b = .lt ∨ (order a b = .eq ∧ stood a b)

variable {stood : α → α → Prop} (swap : ∀ a b, order b a = (order a b).swap)
  (trans : ∀ a b c, order a b ≠ .gt → order b c ≠ .gt → order a c ≠ .gt)

include swap trans

/-- An item that stood behind all of the sorted ones is put where it follows those before it. -/
theorem pairwise_insertBehind {item : α} {sorted : List α} (behind : ∀ a ∈ sorted, stood a item)
    (ordered : sorted.Pairwise fun b a => Follows order stood a b) :
    (insertBehind order item sorted).Pairwise fun b a => Follows order stood a b := by
  induction sorted with
  | nil => exact List.pairwise_singleton _ _
  | cons last others ih =>
    obtain ⟨ahead, rest⟩ := List.pairwise_cons.mp ordered
    unfold insertBehind
    split
    · rename_i less
      refine List.pairwise_cons.mpr ⟨fun a member => ?_, ih (List.forall_mem_cons.mp behind).2 rest⟩
      rcases List.mem_cons.mp ((insertBehind_perm order item others).subset member) with rfl | among
      · exact .inl less
      · exact ahead a among
    · rename_i notLess
      refine List.pairwise_cons.mpr ⟨fun a member => ?_, ordered⟩
      have below : order last item ≠ .gt := by
        rw [swap item last]
        cases found : order item last with
        | lt => exact absurd found notLess
        | eq => decide
        | gt => decide
      have reaches : order a item ≠ .gt := by
        rcases List.mem_cons.mp member with rfl | among
        · exact below
        · have up : order a last ≠ .gt := by
            rcases ahead a among with less | ⟨tie, _⟩
            · simp [less]
            · simp [tie]
          exact trans a last item up below
      cases found : order a item with
      | lt => exact .inl found
      | eq => exact .inr ⟨found, behind a member⟩
      | gt => exact absurd found reaches

theorem pairwise_insertionSort (inOrder : items.Pairwise stood) :
    (insertionSort order items).Pairwise (Follows order stood) := by
  -- What is inserted so far is sorted, and all of it stood before what is left.
  have folded (sorted : List α) (ordered : sorted.Pairwise fun b a => Follows order stood a b)
      (behind : ∀ a ∈ sorted, ∀ b ∈ items, stood a b) :
      (items.foldl (fun sorted item => insertBehind order item sorted) sorted).Pairwise
        fun b a => Follows order stood a b := by
    induction items generalizing sorted with
    | nil => exact ordered
    | cons item rest ih =>
      obtain ⟨next, later⟩ := List.pairwise_cons.mp inOrder
      refine ih later _ (pairwise_insertBehind swap trans (fun a member => ?_) ordered) fun a member b beside => ?_
      · exact behind a member item List.mem_cons_self
      · rcases List.mem_cons.mp ((insertBehind_perm order item sorted).subset member) with rfl | among
        · exact next b beside
        · exact behind a among b (List.mem_cons_of_mem item beside)
  exact List.pairwise_reverse.mpr (folded [] .nil nofun)

theorem pairwise_mergeSort (inOrder : items.Pairwise stood) :
    (items.mergeSort fun a b => order a b != .gt).Pairwise (Follows order stood) := by
  have transitive (a b c : α) (up : (order a b != .gt) = true) (on : (order b c != .gt) = true) :
      (order a c != .gt) = true := by
    rw [bne_iff_ne] at up on ⊢
    exact trans a b c up on
  have total (a b : α) : ((order a b != .gt) || (order b a != .gt)) = true := by
    rw [swap a b]
    cases order a b <;> rfl
  -- The items are sorted together with their positions, which break ties.
  rw [← List.mergeSort_zipIdx, List.pairwise_map]
  have sorted := List.pairwise_mergeSort (List.zipIdxLE_trans transitive) (List.zipIdxLE_total total) items.zipIdx
  have perm := List.mergeSort_perm items.zipIdx (List.zipIdxLE fun a b => order a b != .gt)
  have apart : (items.zipIdx.mergeSort (List.zipIdxLE fun a b => order a b != .gt)).Pairwise (·.2 ≠ ·.2) :=
    List.pairwise_map.mp ((perm.map Prod.snd).nodup_iff.mpr (List.nodup_zipIdx_map_snd items))
  refine (sorted.and apart).imp_of_mem fun {a b} among beside both => ?_
  obtain ⟨precedes, distinct⟩ := both
  obtain ⟨first, atFirst⟩ := List.getElem?_eq_some_iff.mp
    (List.mem_zipIdx_iff_getElem?.mp (perm.subset among))
  obtain ⟨second, atSecond⟩ := List.getElem?_eq_some_iff.mp
    (List.mem_zipIdx_iff_getElem?.mp (perm.subset beside))
  unfold List.zipIdxLE at precedes
  cases found : order a.1 b.1 with
  | lt => exact .inl found
  | gt => simp [found] at precedes
  | eq =>
    refine .inr ⟨found, ?_⟩
    have low : a.2 ≤ b.2 := by simpa [found, swap a.1 b.1] using precedes
    rw [← atFirst, ← atSecond]
    exact List.pairwise_iff_getElem.mp inOrder _ _ first second (Nat.lt_of_le_of_ne low distinct)

/-- Sorted items are in order, and those that tie stand as they stood. -/
theorem pairwise_stableSort (inOrder : items.Pairwise stood) :
    (stableSort order items).Pairwise (Follows order stood) := by
  unfold stableSort
  split
  · exact pairwise_insertionSort swap trans inOrder
  · exact pairwise_mergeSort swap trans inOrder

end Stable

section Ranks

variable (swap : ∀ a b, order b a = (order a b).swap)

theorem countP_lt_countP {p q : α → Bool} {a : α} (more : ∀ b ∈ items, p b = true → q b = true)
    (member : a ∈ items) (without : p a = false) (among : q a = true) : items.countP p < items.countP q := by
  have both : items.countP p = (items.filter p).countP q := by
    rw [List.countP_filter]
    refine List.countP_congr fun b beside => ?_
    rw [Bool.and_eq_true]
    exact ⟨fun found => ⟨more b beside found, found⟩, And.right⟩
  have further : 0 < (items.filter (!p ·)).countP q :=
    List.countP_pos_iff.mpr ⟨a, List.mem_filter.mpr ⟨member, by simp [without]⟩, among⟩
  have parts := List.countP_eq_countP_filter_add items q p
  omega

include swap

theorem order_self_of_swap (a : α) : order a a = .eq := by
  have same := swap a a
  revert same
  cases order a a <;> decide

/-- Items are ordered as their ranks are just where their order is transitive. -/
theorem isRanked_iff : isRanked order items = true ↔
    ∀ a ∈ items, ∀ b ∈ items, ∀ c ∈ items, order a b ≠ .gt → order b c ≠ .gt → order a c ≠ .gt := by
  simp only [isRanked, List.all_map, List.all_eq_true, Function.comp_apply, beq_iff_eq]
  constructor
  · intro ranked a first b second c third up on
    rw [ranked a first b second, Nat.compare_ne_gt] at up
    rw [ranked b second c third, Nat.compare_ne_gt] at on
    rw [ranked a first c third, Nat.compare_ne_gt]
    exact Nat.le_trans up on
  · intro trans
    -- What comes before the lower of two items comes before the higher one, too.
    have before {a b c : α} (first : a ∈ items) (second : b ∈ items) (third : c ∈ items)
        (up : order a b ≠ .gt) (less : order c a = .lt) : order c b = .lt := by
      have on : order c b ≠ .gt := trans c third a first b second (by simp [less]) up
      cases found : order c b with
      | lt => rfl
      | gt => exact absurd found on
      | eq =>
        have back : order b c ≠ .gt := by simp [swap c b, found]
        have down := trans a first b second c third up back
        simp [swap c a, less] at down
    have ranks {a b : α} (first : a ∈ items) (second : b ∈ items) (less : order a b = .lt) :
        rankAmong order items a < rankAmong order items b := by
      refine countP_lt_countP (a := a) (fun c third low => ?_) first ?_ ?_
      · exact beq_iff_eq.mpr (before first second third (by simp [less]) (beq_iff_eq.mp low))
      · simp [order_self_of_swap swap a]
      · simp [less]
    intro a first b second
    cases found : order a b with
    | lt => exact (Nat.compare_eq_lt.mpr (ranks first second found)).symm
    | gt =>
      have less : order b a = .lt := by simp [swap a b, found]
      exact (Nat.compare_eq_gt.mpr (ranks second first less)).symm
    | eq =>
      refine (Nat.compare_eq_eq.mpr (List.countP_congr fun c third => ?_)).symm
      simp only [beq_iff_eq]
      exact ⟨before first second third (by simp [found]), before second first third (by simp [swap a b, found])⟩

/-- A sort comes to an end where the items are few, or their order is transitive. -/
theorem settles_iff : settles order items = true ↔ items.length ≤ maxInserted ∨
    ∀ a ∈ items, ∀ b ∈ items, ∀ c ∈ items, order a b ≠ .gt → order b c ≠ .gt → order a c ≠ .gt := by
  rw [settles, Bool.or_eq_true, decide_eq_true_iff, isRanked_iff swap]

end Ranks

end TableQuery
