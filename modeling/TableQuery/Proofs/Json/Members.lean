import Mathlib.Data.String.Basic
import TableQuery.Json.Value

set_option autoImplicit false

namespace TableQuery.Json.Members

theorem get?_insert (key other : String) (value : Value) (members : Members) :
    get? other (insert key value members) = if key = other then some value else get? other members := by
  induction members with
  | nil => rfl
  | cons member rest ih =>
    obtain ⟨name, v⟩ := member
    rw [insert]
    by_cases same : name = key
    · subst same
      rw [if_pos rfl, get?, get?]
      by_cases found : name = other
      · rw [if_pos found, if_pos found]
      · rw [if_neg found, if_neg found, if_neg found]
    · rw [if_neg same]
      by_cases before : key < name
      · rw [if_pos before, get?]
      · rw [if_neg before, get?, get?, ih]
        by_cases found : name = other
        · have apart : key ≠ other := fun again => same (found.trans again.symm)
          rw [if_pos found, if_neg apart, if_pos found]
        · rw [if_neg found, if_neg found]

theorem get?_append (key : String) (members others : Members) :
    get? key (members ++ others) = (get? key members).or (get? key others) := by
  induction members with
  | nil => rfl
  | cons member rest ih =>
    obtain ⟨name, v⟩ := member
    rw [List.cons_append, get?, get?]
    by_cases found : name = key
    · rw [if_pos found, if_pos found, Option.some_or]
    · rw [if_neg found, if_neg found, ih]

theorem get?_erase (key hidden : String) (members : Members) :
    get? key (erase hidden members) = if key = hidden then none else get? key members := by
  induction members with
  | nil => rw [erase, List.filter_nil, get?, ite_self]
  | cons member rest ih =>
    obtain ⟨name, v⟩ := member
    rw [erase] at ih ⊢
    by_cases gone : name = hidden
    · subst gone
      rw [List.filter_cons_of_neg (by simp only [ne_eq, not_true_eq_false, decide_false, Bool.false_eq_true,
        not_false_eq_true]), ih, get?]
      by_cases same : key = name
      · rw [if_pos same, if_pos same]
      · rw [if_neg same, if_neg same, if_neg (Ne.symm same)]
    · rw [List.filter_cons_of_pos (by simpa only [decide_eq_true_eq] using gone), get?, get?, ih]
      by_cases found : name = key
      · have other : key ≠ hidden := fun same => gone (found.trans same)
        rw [if_pos found, if_neg other, if_pos found]
      · rw [if_neg found, if_neg found]

/-- Pairs that are put into an object one after the other: the last one under a key stands. -/
theorem get?_foldl_insert (key : String) (pairs : List (String × Value)) (members : Members) :
    get? key (pairs.foldl (fun members pair => insert pair.1 pair.2 members) members) =
      (get? key pairs.reverse).or (get? key members) := by
  induction pairs generalizing members with
  | nil => rfl
  | cons pair rest ih =>
    obtain ⟨name, v⟩ := pair
    rw [List.foldl_cons, ih, get?_insert, List.reverse_cons, get?_append, Option.or_assoc, get?]
    by_cases found : name = key
    · rw [if_pos found, if_pos found, Option.some_or]
    · rw [if_neg found, if_neg found]
      rfl

theorem get?_ofList (key : String) (pairs : List (String × Value)) :
    get? key (ofList pairs) = get? key pairs.reverse := by
  rw [ofList, get?_foldl_insert]
  exact Option.or_none

theorem mem_insert {key : String} {value : Value} {members : Members} {member : String × Value}
    (inside : member ∈ insert key value members) : member = (key, value) ∨ member ∈ members := by
  induction members with
  | nil => exact .inl (List.mem_singleton.mp inside)
  | cons first rest ih =>
    rw [insert] at inside
    split at inside
    · exact (List.mem_cons.mp inside).imp_right (List.mem_cons_of_mem first)
    · split at inside
      · exact List.mem_cons.mp inside
      · rcases List.mem_cons.mp inside with rfl | later
        · exact .inr List.mem_cons_self
        · exact (ih later).imp_right (List.mem_cons_of_mem first)

theorem Sorted.insert {members : Members} (sorted : Sorted members) (key : String) (value : Value) :
    Sorted (insert key value members) := by
  induction members with
  | nil => exact List.pairwise_singleton _ _
  | cons first rest ih =>
    obtain ⟨name, v⟩ := first
    obtain ⟨least, later⟩ := List.pairwise_cons.mp sorted
    rw [Members.insert]
    by_cases same : name = key
    · subst same
      rw [if_pos rfl]
      exact List.pairwise_cons.mpr ⟨least, later⟩
    · rw [if_neg same]
      by_cases before : key < name
      · rw [if_pos before]
        refine List.pairwise_cons.mpr ⟨List.forall_mem_cons.mpr ⟨before, fun member inside => ?_⟩, sorted⟩
        exact lt_trans before (least member inside)
      · rw [if_neg before]
        refine List.pairwise_cons.mpr ⟨fun member inside => ?_, ih later⟩
        rcases mem_insert inside with rfl | among
        · exact lt_of_le_of_ne (not_lt.mp before) same
        · exact least member among

theorem sorted_ofList (pairs : List (String × Value)) : Sorted (ofList pairs) := by
  have kept (members : Members) (sorted : Sorted members) :
      Sorted (pairs.foldl (fun members pair => insert pair.1 pair.2 members) members) := by
    induction pairs generalizing members with
    | nil => exact sorted
    | cons pair rest ih => exact ih _ (sorted.insert pair.1 pair.2)
  exact kept [] List.Pairwise.nil

theorem insert_eq_append {key : String} {members : Members} (greatest : ∀ member ∈ members, member.1 < key)
    (value : Value) : insert key value members = members ++ [(key, value)] := by
  induction members with
  | nil => rfl
  | cons first rest ih =>
    obtain ⟨name, v⟩ := first
    obtain ⟨before, later⟩ := List.forall_mem_cons.mp greatest
    rw [insert, if_neg (ne_of_lt before), if_neg (not_lt_of_gt before), ih later, List.cons_append]

theorem Sorted.ofList_eq {members : Members} (sorted : Sorted members) : ofList members = members := by
  have grows (rest first : Members) (sorted : Sorted (first ++ rest)) :
      rest.foldl (fun members pair => Members.insert pair.1 pair.2 members) first = first ++ rest := by
    induction rest generalizing first with
    | nil => exact (List.append_nil first).symm
    | cons pair rest ih =>
      have greatest : ∀ member ∈ first, member.1 < pair.1 := fun member inside =>
        (List.pairwise_append.mp sorted).2.2 member inside pair List.mem_cons_self
      rw [List.append_cons] at sorted ⊢
      rw [List.foldl_cons, insert_eq_append greatest]
      exact ih _ sorted
  exact grows members [] sorted

/-- In members that are in the order of their keys, each key is there once, from whichever end it is looked
up. -/
theorem Sorted.get?_reverse {members : Members} (sorted : Sorted members) (key : String) :
    get? key members.reverse = get? key members := by
  rw [← get?_ofList, sorted.ofList_eq]

/-- A key that comes after all others is not among them. -/
theorem get?_eq_none_of_lt {key : String} {members : Members} (before : ∀ member ∈ members, member.1 < key) :
    get? key members = none := by
  induction members with
  | nil => rfl
  | cons member rest ih =>
    obtain ⟨name, v⟩ := member
    obtain ⟨first, later⟩ := List.forall_mem_cons.mp before
    rw [get?, if_neg (ne_of_lt first), ih later]

theorem insert_perm {key : String} {members : Members} (absent : ∀ member ∈ members, member.1 ≠ key)
    (value : Value) : (insert key value members).Perm ((key, value) :: members) := by
  induction members with
  | nil => exact .refl _
  | cons first rest ih =>
    obtain ⟨name, v⟩ := first
    obtain ⟨other, later⟩ := List.forall_mem_cons.mp absent
    rw [insert, if_neg other]
    by_cases before : key < name
    · rw [if_pos before]
    · rw [if_neg before]
      exact ((ih later).cons (name, v)).trans (.swap _ _ _)

/-- An object that is made from pairs of different keys has just these members. -/
theorem ofList_perm {pairs : List (String × Value)} (distinct : pairs.Pairwise (fun a b => a.1 ≠ b.1)) :
    (ofList pairs).Perm pairs := by
  have grows (rest first : Members) (distinct : (first ++ rest).Pairwise (fun a b => a.1 ≠ b.1)) :
      (rest.foldl (fun members pair => insert pair.1 pair.2 members) first).Perm (first ++ rest) := by
    induction rest generalizing first with
    | nil => rw [List.foldl_nil, List.append_nil]
    | cons pair rest ih =>
      have absent : ∀ member ∈ first, member.1 ≠ pair.1 := fun member inside =>
        (List.pairwise_append.mp distinct).2.2 member inside pair List.mem_cons_self
      have added := insert_perm absent pair.2
      have together : (insert pair.1 pair.2 first ++ rest).Perm (first ++ pair :: rest) :=
        (added.append_right rest).trans List.perm_middle.symm
      have apart : (insert pair.1 pair.2 first ++ rest).Pairwise (fun a b => a.1 ≠ b.1) :=
        together.symm.pairwise distinct fun different => different.symm
      exact (ih _ apart).trans together
  exact grows pairs [] distinct

theorem exists_get?_of_mem {key : String} {value : Value} {members : Members} (inside : (key, value) ∈ members) :
    ∃ first, get? key members = some first := by
  induction members with
  | nil => cases inside
  | cons member rest ih =>
    obtain ⟨name, v⟩ := member
    rw [get?]
    by_cases found : name = key
    · exact ⟨v, if_pos found⟩
    · rw [if_neg found]
      rcases List.mem_cons.mp inside with same | later
      · exact absurd (congrArg Prod.fst same).symm found
      · exact ih later

end TableQuery.Json.Members
