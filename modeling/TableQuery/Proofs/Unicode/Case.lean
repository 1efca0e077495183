import Mathlib.Data.List.Chain
import TableQuery.Unicode.Case

set_option autoImplicit false

namespace TableQuery.Unicode

namespace CaseRun

/-- One run ends before another starts. -/
def Precedes (r s : CaseRun) : Prop := r.first ≤ r.last ∧ r.last < s.first

instance (r s : CaseRun) : Decidable (r.Precedes s) := inferInstanceAs (Decidable (_ ∧ _))

def inverse (r : CaseRun) : CaseRun := ⟨r.image, r.image + (r.last - r.first), r.step, r.first⟩

theorem image?_eq_some_iff {r : CaseRun} {code image : Nat} : r.image? code = some image ↔
    (r.first ≤ code ∧ code ≤ r.last ∧ (code - r.first) % r.step = 0) ∧ r.image + (code - r.first) = image := by
  rw [image?, Option.ite_none_right_eq_some, Option.some.injEq]

theorem origin?_eq_some_iff {r : CaseRun} {image code : Nat} : r.origin? image = some code ↔
    (r.image ≤ image ∧ image - r.image ≤ r.last - r.first ∧ (image - r.image) % r.step = 0) ∧
      r.first + (image - r.image) = code := by
  rw [origin?, Option.ite_none_right_eq_some, Option.some.injEq]

theorem origin?_of_image? {r : CaseRun} {code image : Nat} (sent : r.image? code = some image) :
    r.origin? image = some code := by
  obtain ⟨⟨from_first, to_last, regular⟩, rfl⟩ := image?_eq_some_iff.mp sent
  rw [origin?_eq_some_iff, Nat.add_sub_cancel_left]
  exact ⟨⟨Nat.le_add_right _ _, Nat.sub_le_sub_right to_last _, regular⟩, Nat.add_sub_cancel' from_first⟩

theorem image?_of_origin? {r : CaseRun} {image code : Nat} (forward : r.first ≤ r.last)
    (sent : r.origin? image = some code) : r.image? code = some image := by
  obtain ⟨⟨from_image, short, regular⟩, rfl⟩ := origin?_eq_some_iff.mp sent
  rw [image?_eq_some_iff, Nat.add_sub_cancel_left]
  refine ⟨⟨Nat.le_add_right _ _, ?_, regular⟩, Nat.add_sub_cancel' from_image⟩
  rw [Nat.add_comm]
  exact Nat.add_le_of_le_sub forward short

theorem inverse_origin? {r : CaseRun} {code image : Nat} (sent : r.image? code = some image) :
    r.inverse.origin? code = some image := by
  obtain ⟨⟨from_first, to_last, regular⟩, rfl⟩ := image?_eq_some_iff.mp sent
  refine origin?_eq_some_iff.mpr ⟨⟨from_first, ?_, regular⟩, rfl⟩
  rw [inverse, Nat.add_sub_cancel_left]
  exact Nat.sub_le_sub_right to_last _

end CaseRun

/-- A code point of one of the runs is sent where that run sends it, if no two runs overlap. -/
theorem mapCase_of_mem {runs : List CaseRun} (apart : runs.Pairwise CaseRun.Precedes) {r : CaseRun}
    (member : r ∈ runs) {code image : Nat} (sent : r.image? code = some image) : mapCase runs code = image := by
  suffices found : runs.findSome? (·.image? code) = some image by rw [mapCase, found, Option.getD_some]
  induction runs with
  | nil => cases member
  | cons first rest ih =>
    obtain ⟨before, apart⟩ := List.pairwise_cons.mp apart
    rw [List.findSome?_cons]
    rcases List.mem_cons.mp member with rfl | member
    · rw [sent]
    · have beyond : first.last < code :=
        Nat.lt_of_lt_of_le (before r member).2 (CaseRun.image?_eq_some_iff.mp sent).1.1
      have missed : first.image? code = none := if_neg fun within => Nat.not_le_of_lt beyond within.2.1
      rw [missed]
      exact ih apart member

theorem mapCase_of_outside {runs : List CaseRun} {code : Nat}
    (outside : ∀ r ∈ runs, r.last < code ∨ code < r.first) : mapCase runs code = code := by
  have missed : runs.findSome? (·.image? code) = none := by
    refine List.findSome?_eq_none_iff.mpr fun r member => if_neg fun within => ?_
    rcases outside r member with beyond | before
    · exact Nat.not_le_of_lt beyond within.2.1
    · exact Nat.not_le_of_lt before within.1
  rw [mapCase, missed, Option.getD_none]

/-- A code point is sent elsewhere by one of the runs, or stands for itself. -/
theorem mapCase_cases (runs : List CaseRun) (code : Nat) :
    (∃ r ∈ runs, r.image? code = some (mapCase runs code)) ∨ mapCase runs code = code := by
  rw [mapCase]
  cases found : runs.findSome? (·.image? code) with
  | none => exact Or.inr rfl
  | some image =>
    obtain ⟨r, member, sent⟩ := List.exists_of_findSome?_eq_some found
    exact Or.inl ⟨r, member, sent⟩

theorem foldRuns_pairwise : foldRuns.Pairwise CaseRun.Precedes := by
  have chain : foldRuns.IsChain CaseRun.Precedes := by decide +kernel
  have trans : IsTrans CaseRun CaseRun.Precedes :=
    ⟨fun r s t first second => ⟨first.1, Nat.lt_trans first.2 (Nat.lt_of_le_of_lt second.1 second.2)⟩⟩
  exact List.isChain_iff_pairwise.mp chain

/-- The capital letters of Cherokee, to which folding takes their small letters. -/
def cherokeeCapitals : List CaseRun := [⟨0x13A0, 0x13EF, 1, 0xAB70⟩, ⟨0x13F0, 0x13F5, 1, 0x13F8⟩]

theorem cherokeeCapitals_inverse : ∀ r ∈ cherokeeCapitals,
    r.inverse ∈ foldRuns ∧ ∀ s ∈ foldRuns, s.last < r.first ∨ r.last < s.first := by
  decide +kernel

theorem mem_foldRuns_of_lowerRuns {r : CaseRun} (member : r ∈ lowerRuns) (other : r ∉ cherokeeCapitals) :
    r ∈ foldRuns := by
  have among : (lowerRuns.filter (· ∉ cherokeeCapitals)).Sublist foldRuns := by decide +kernel
  exact among.subset (List.mem_filter.mpr ⟨member, decide_eq_true other⟩)

theorem mem_caseVariants_self (c : Char) : c ∈ caseVariants c := by
  rcases mapCase_cases foldRuns c.toNat with ⟨r, member, sent⟩ | alone
  · refine List.mem_cons_of_mem _ (List.mem_map.mpr ⟨c.toNat, ?_, Char.ofNat_toNat c⟩)
    exact List.mem_filterMap.mpr ⟨r, member, CaseRun.origin?_of_image? sent⟩
  · rw [caseVariants, alone, Char.ofNat_toNat]
    exact List.mem_cons_self

theorem lowerChar_mem_caseVariants (c : Char) : lowerChar c ∈ caseVariants c := by
  rcases mapCase_cases lowerRuns c.toNat with ⟨r, member, sent⟩ | alone
  · by_cases cherokee : r ∈ cherokeeCapitals
    · -- Folding leaves the capital where it is and sends the small letter to it.
      obtain ⟨back, apart⟩ := cherokeeCapitals_inverse r cherokee
      have kept : mapCase foldRuns c.toNat = c.toNat := by
        obtain ⟨from_first, to_last, _⟩ := (CaseRun.image?_eq_some_iff.mp sent).1
        refine mapCase_of_outside fun s member => ?_
        exact (apart s member).imp (Nat.lt_of_lt_of_le · from_first) (Nat.lt_of_le_of_lt to_last)
      rw [caseVariants, kept]
      refine List.mem_cons_of_mem _ (List.mem_map_of_mem ?_)
      exact List.mem_filterMap.mpr ⟨r.inverse, back, CaseRun.inverse_origin? sent⟩
    · have folded := mapCase_of_mem foldRuns_pairwise (mem_foldRuns_of_lowerRuns member cherokee) sent
      rw [caseVariants, folded]
      exact List.mem_cons_self
  · rw [lowerChar, alone, Char.ofNat_toNat]
    exact mem_caseVariants_self c

def combiningDot : Char := '\u0307'

theorem combiningDot_mem_caseVariants_iff (c : Char) : combiningDot ∈ caseVariants c ↔ c = combiningDot := by
  have alone : ∀ r ∈ foldRuns, r.first ≤ r.last ∧ r.image? 0x307 = none ∧ r.origin? 0x307 = none := by
    decide +kernel
  have coded (code : Nat) (same : Char.ofNat code = combiningDot) : code = 0x307 := by
    by_cases valid : code.isValidChar
    · have kept : Char.ofNat code = Char.ofNatAux code valid := dif_pos valid
      exact congrArg Char.toNat (kept.symm.trans same)
    · have lost : Char.ofNat code = '\x00' := dif_neg valid
      cases lost.symm.trans same
  constructor
  · intro member
    rcases List.mem_cons.mp member with same | member
    · have image := coded _ same.symm
      rcases mapCase_cases foldRuns c.toNat with ⟨r, member, sent⟩ | kept
      · have back := CaseRun.origin?_of_image? sent
        rw [image, (alone r member).2.2] at back
        cases back
      · rw [← Char.ofNat_toNat c, ← kept, image]
        rfl
    · obtain ⟨code, member, same⟩ := List.mem_map.mp member
      obtain ⟨r, member, sent⟩ := List.mem_filterMap.mp member
      have forth := CaseRun.image?_of_origin? (alone r member).1 sent
      rw [coded code same, (alone r member).2.1] at forth
      cases forth
  · rintro rfl
    exact mem_caseVariants_self combiningDot

/-- The characters that the lower-case form of a text puts in the place of one. -/
inductive Lowers : Char → List Char → Prop where
  | letter {c lower : Char} : c ≠ 'İ' → lower ∈ caseVariants c → Lowers c [lower]
  | dotted : Lowers 'İ' ['i', combiningDot]

/-- The lower-case form of a text is put together from those of its characters. -/
theorem exists_lowers (cs : List Char) : ∃ parts, List.Forall₂ Lowers cs parts ∧ toLower cs = parts.flatten := by
  suffices general : ∀ before, ∃ parts, List.Forall₂ Lowers cs parts ∧ lowerAfter before cs = parts.flatten from
    general []
  induction cs with
  | nil => exact fun _ => ⟨[], .nil, rfl⟩
  | cons c rest ih =>
    intro before
    obtain ⟨parts, lowered, joined⟩ := ih (c :: before)
    rw [lowerAfter, joined]
    by_cases sigma : c = 'Σ'
    · have small : 'σ' ∈ caseVariants 'Σ' ∧ 'ς' ∈ caseVariants 'Σ' := by decide +kernel
      subst sigma
      rw [if_pos rfl]
      split
      · exact ⟨['ς'] :: parts, .cons (.letter (by decide) small.2) lowered, rfl⟩
      · exact ⟨['σ'] :: parts, .cons (.letter (by decide) small.1) lowered, rfl⟩
    · rw [if_neg sigma]
      by_cases dotted : c = 'İ'
      · rw [if_pos dotted]
        exact ⟨['i', combiningDot] :: parts, .cons (dotted ▸ .dotted) lowered, rfl⟩
      · rw [if_neg dotted]
        exact ⟨[lowerChar c] :: parts, .cons (.letter dotted (lowerChar_mem_caseVariants c)) lowered, rfl⟩

/-- Without a capital I with a dot, a text and its lower-case form differ in case alone. -/
theorem forall₂_toLower {cs : List Char} (undotted : 'İ' ∉ cs) :
    List.Forall₂ (fun c lower => lower ∈ caseVariants c) cs (toLower cs) := by
  obtain ⟨parts, lowered, joined⟩ := exists_lowers cs
  rw [joined]
  clear joined
  induction lowered with
  | nil => exact .nil
  | cons lowers _ ih =>
    cases lowers with
    | letter _ variant => exact .cons variant (ih fun member => undotted (List.mem_cons_of_mem _ member))
    | dotted => exact absurd List.mem_cons_self undotted

theorem Lowers.count_combiningDot {c : Char} {part : List Char} (lowers : Lowers c part) :
    part.count combiningDot = [c].count combiningDot + [c].count 'İ' := by
  cases lowers with
  | @letter _ lower undotted variant =>
    have alone : caseVariants combiningDot = [combiningDot] := by decide +kernel
    have both : lower = combiningDot ↔ c = combiningDot := by
      constructor
      · rintro rfl
        exact (combiningDot_mem_caseVariants_iff c).mp variant
      · rintro rfl
        exact List.mem_singleton.mp (alone ▸ variant)
    have plain : [c].count 'İ' = 0 := List.count_eq_zero_of_not_mem fun member =>
      undotted (List.mem_singleton.mp member).symm
    rw [plain, Nat.add_zero]
    by_cases dot : c = combiningDot
    · rw [both.mpr dot, dot]
    · rw [List.count_eq_zero_of_not_mem, List.count_eq_zero_of_not_mem]
      · exact fun member => dot (List.mem_singleton.mp member).symm
      · exact fun member => dot (both.mp (List.mem_singleton.mp member).symm)
  | dotted => decide

/-- The lower-case form of a text gains a dot above a letter from every capital I with a dot. -/
theorem count_combiningDot_toLower (cs : List Char) :
    (toLower cs).count combiningDot = cs.count combiningDot + cs.count 'İ' := by
  obtain ⟨parts, lowered, joined⟩ := exists_lowers cs
  rw [joined]
  clear joined
  induction lowered with
  | nil => rfl
  | @cons c part cs parts lowers _ ih =>
    have split : c :: cs = [c] ++ cs := rfl
    rw [List.flatten_cons, List.count_append, ih, lowers.count_combiningDot, split, List.count_append,
      List.count_append]
    omega

end TableQuery.Unicode
