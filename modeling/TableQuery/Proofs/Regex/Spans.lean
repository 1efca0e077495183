import Mathlib.Data.Finset.Card
import Mathlib.Data.Nat.Bitwise
import TableQuery.Regex.Basic

set_option autoImplicit false

namespace TableQuery.Regex

def charBefore? (cs : List Char) : Nat → Option Char
  | 0 => none
  | i + 1 => cs[i]?

/-- From one place to another in so many steps. -/
def Leads (step : Nat → Nat → Prop) : Nat → Nat → Nat → Prop
  | 0, i, j => i = j
  | n + 1, i, j => ∃ k, step i k ∧ Leads step n k j

def Atom.Spans (cs : List Char) : Atom → Nat → Nat → Prop
  | char set, i, j => j = i + 1 ∧ ∃ c, cs[i]? = some c ∧ set.contains c = true
  | look condition, i, j => j = i ∧ i ≤ cs.length ∧ condition.holds (charBefore? cs i) cs[i]? = true

/-- From where to where an expression matches in a text. -/
def Spans (cs : List Char) : Regex Atom → Nat → Nat → Prop
  | empty, i, j => i = j
  | atom a, i, j => a.Spans cs i j
  | seq a b, i, j => ∃ k, a.Spans cs i k ∧ b.Spans cs k j
  | either a b, i, j => a.Spans cs i j ∨ b.Spans cs i j
  | star a, i, j => ∃ n, Leads (a.Spans cs) n i j
  | times a least most, i, j =>
    ∃ n, least ≤ n ∧ (∀ m ∈ most, n ≤ max least m) ∧ Leads (a.Spans cs) n i j

theorem exists_between_iff {start second : Nat → Prop} {first : Nat → Nat → Prop} :
    (∃ k, (∃ i, start i ∧ first i k) ∧ second k) ↔ ∃ i, start i ∧ ∃ k, first i k ∧ second k := by
  constructor
  · intro given
    obtain ⟨k, ⟨i, started, early⟩, late⟩ := given
    exact ⟨i, started, k, early, late⟩
  · intro given
    obtain ⟨i, started, k, early, late⟩ := given
    exact ⟨k, ⟨i, started, early⟩, late⟩

theorem leads_add_iff {step : Nat → Nat → Prop} {m n i j : Nat} :
    Leads step (m + n) i j ↔ ∃ k, Leads step m i k ∧ Leads step n k j := by
  induction m generalizing i with
  | zero => simp only [Nat.zero_add, Leads, exists_eq_left']
  | succ m ih =>
    rw [Nat.succ_add]
    simp only [Leads, ih, exists_between_iff]

/-- At least so many steps are that many steps, followed by the rest of them. -/
theorem leads_split_iff (step : Nat → Nat → Prop) (started allowed : Nat → Prop) (least j : Nat) :
    (∃ n, allowed n ∧ ∃ k, (∃ i, started i ∧ Leads step least i k) ∧ Leads step n k j) ↔
      ∃ i, started i ∧ ∃ n, least ≤ n ∧ allowed (n - least) ∧ Leads step n i j := by
  constructor
  · intro given
    obtain ⟨n, few, k, ⟨i, begins, early⟩, late⟩ := given
    refine ⟨i, begins, least + n, Nat.le_add_right _ _, ?_, leads_add_iff.mpr ⟨k, early, late⟩⟩
    rwa [Nat.add_sub_cancel_left]
  · intro given
    obtain ⟨i, begins, n, enough, few, leads⟩ := given
    rw [← Nat.add_sub_cancel' enough] at leads
    obtain ⟨k, early, late⟩ := leads_add_iff.mp leads
    exact ⟨n - least, few, k, ⟨i, begins, early⟩, late⟩

theorem Leads.mem {step : Nat → Nat → Prop} {inside : Nat → Prop}
    (closed : ∀ i j, inside i → step i j → inside j) {n i j : Nat} (leads : Leads step n i j)
    (started : inside i) : inside j := by
  induction n generalizing i with
  | zero => exact leads ▸ started
  | succ n ih =>
    obtain ⟨k, first, rest⟩ := leads
    exact ih rest (closed i k started first)

/-- A set of places as a function on sets: it holds the places to which a step leads from those given. -/
def Carries (next : Nat → Nat) (step : Nat → Nat → Prop) : Prop :=
  ∀ starts j, (next starts).testBit j = true ↔ ∃ i, starts.testBit i = true ∧ step i j

theorem testBit_places (flags : List Bool) (i : Nat) : (places flags).testBit i = flags[i]?.getD false := by
  induction flags generalizing i with
  | nil => simp [places]
  | cons flag rest ih =>
    have split : places (flag :: rest) = Nat.bit flag (places rest) := (Nat.bit_val flag (places rest)).symm
    rw [split]
    cases i with
    | zero => simp
    | succ i => rw [Nat.testBit_bit_succ, ih, List.getElem?_cons_succ]

theorem surroundings_getElem?_eq_some_iff {cs : List Char} {i : Nat} {around : Option Char × Option Char} :
    (surroundings cs)[i]? = some around ↔ i ≤ cs.length ∧ around = (charBefore? cs i, cs[i]?) := by
  obtain ⟨before, after⟩ := around
  have first : (none :: cs.map some)[i]? = some before ↔ i ≤ cs.length ∧ before = charBefore? cs i := by
    cases i with
    | zero => simp [charBefore?, eq_comm]
    | succ i =>
      rw [List.getElem?_cons_succ, List.getElem?_map, Option.map_eq_some_iff, charBefore?]
      constructor
      · intro given
        obtain ⟨c, found, rfl⟩ := given
        exact ⟨(List.getElem?_eq_some_iff.mp found).1, found.symm⟩
      · intro given
        obtain ⟨within, rfl⟩ := given
        exact ⟨cs[i], List.getElem?_eq_getElem within, (List.getElem?_eq_getElem within).symm⟩
  have second (within : i ≤ cs.length) : (cs.map some ++ [none])[i]? = some after ↔ after = cs[i]? := by
    rcases Nat.lt_or_eq_of_le within with below | rfl
    · rw [List.getElem?_append_left (by rwa [List.length_map]), List.getElem?_map,
        List.getElem?_eq_getElem below]
      exact ⟨fun same => (Option.some.inj same).symm, fun same => congrArg some same.symm⟩
    · rw [List.getElem?_append_right (by rw [List.length_map]), List.length_map, Nat.sub_self,
        List.getElem?_eq_none (Nat.le_refl _)]
      exact ⟨fun same => (Option.some.inj same).symm, fun same => congrArg some same.symm⟩
  rw [surroundings, List.getElem?_zip_eq_some, first, Prod.mk.injEq, and_assoc, and_congr_right_iff]
  exact fun within => and_congr_right fun _ => second within

theorem carries_char (cs : List Char) (set : CharSet) :
    Carries ((Atom.char set).resolve cs).ends ((Atom.char set).Spans cs) := by
  have allowed (i : Nat) : (cs.map set.contains)[i]?.getD false = true ↔
      ∃ c, cs[i]? = some c ∧ set.contains c = true := by
    rw [List.getElem?_map]
    cases cs[i]? with
    | none => simp
    | some c => simp
  intro starts j
  simp only [Atom.resolve, Step.ends, Atom.Spans]
  cases j with
  | zero => simp
  | succ j =>
    have shifted (places : Nat) : (2 * places).testBit (j + 1) = places.testBit j := by
      rw [Nat.mul_comm, Nat.testBit_succ, Nat.mul_div_cancel places (Nat.zero_lt_two)]
    rw [shifted, Nat.testBit_and, testBit_places, Bool.and_eq_true, allowed]
    constructor
    · intro given
      exact ⟨j, given.1, rfl, given.2⟩
    · intro given
      obtain ⟨i, started, same, found⟩ := given
      obtain rfl := Nat.succ.inj same
      exact ⟨started, found⟩

theorem carries_look (cs : List Char) (condition : Look) :
    Carries ((Atom.look condition).resolve cs).ends ((Atom.look condition).Spans cs) := by
  intro starts j
  have allowed : ((surroundings cs).map fun s => condition.holds s.1 s.2)[j]?.getD false = true ↔
      j ≤ cs.length ∧ condition.holds (charBefore? cs j) cs[j]? = true := by
    rw [List.getElem?_map]
    cases found : (surroundings cs)[j]? with
    | none =>
      refine iff_of_false Bool.false_ne_true fun given => ?_
      cases found.symm.trans (surroundings_getElem?_eq_some_iff.mpr ⟨given.1, rfl⟩)
    | some around =>
      obtain ⟨within, rfl⟩ := surroundings_getElem?_eq_some_iff.mp found
      exact ⟨fun holds => ⟨within, holds⟩, fun given => given.2⟩
  simp only [Atom.resolve, Step.ends, Atom.Spans, Nat.testBit_and, testBit_places, Bool.and_eq_true, allowed]
  constructor
  · intro given
    exact ⟨j, given.1, rfl, given.2⟩
  · intro given
    obtain ⟨i, started, rfl, found⟩ := given
    exact ⟨started, found⟩

theorem carries_resolve (cs : List Char) (a : Atom) : Carries (a.resolve cs).ends (a.Spans cs) := by
  cases a with
  | char set => exact carries_char cs set
  | look condition => exact carries_look cs condition

theorem testBit_rounds {next : Nat → Nat} {step : Nat → Nat → Prop} (carries : Carries next step)
    (count starts j : Nat) : (rounds next count starts).testBit j = true ↔
      ∃ i, starts.testBit i = true ∧ Leads step count i j := by
  have settled : ∀ count starts, next starts = starts → rounds next count starts = starts := by
    intro count starts same
    cases count with
    | zero => rfl
    | succ count => simp only [rounds, same, ↓reduceIte]
  induction count generalizing starts with
  | zero =>
    simp only [rounds, Leads]
    exact ⟨fun started => ⟨j, started, rfl⟩, fun ⟨i, started, same⟩ => same ▸ started⟩
  | succ count ih =>
    have once : rounds next (count + 1) starts = rounds next count (next starts) := by
      by_cases same : next starts = starts
      · rw [settled _ _ same, same, settled _ _ same]
      · simp only [rounds, same, ↓reduceIte]
    rw [once]
    refine (ih (next starts)).trans ?_
    simp only [carries starts, Leads, exists_between_iff]

/-- The rounds so far: the last places are reached, and from all others every step has been taken. -/
structure Frontier (step : Nat → Nat → Prop) (reached recent : Nat) : Prop where
  within : ∀ i, recent.testBit i = true → reached.testBit i = true
  explored : ∀ i j, reached.testBit i = true → recent.testBit i = false → step i j → reached.testBit j = true

theorem Frontier.refl (step : Nat → Nat → Prop) (starts : Nat) : Frontier step starts starts where
  within _ started := started
  explored _ _ started old _ := by
    cases started.symm.trans old

theorem testBit_found (next : Nat → Nat) (reached recent j : Nat) :
    (((next recent ||| reached) ^^^ reached).testBit j) =
      ((next recent).testBit j && !reached.testBit j) := by
  rw [Nat.testBit_xor, Nat.testBit_or]
  cases (next recent).testBit j with
  | false => cases reached.testBit j with
    | false => rfl
    | true => rfl
  | true => cases reached.testBit j with
    | false => rfl
    | true => rfl

section Spread

variable {next : Nat → Nat} {step : Nat → Nat → Prop} (carries : Carries next step) {reached recent : Nat}

include carries

theorem Frontier.closed (frontier : Frontier step reached recent)
    (settled : (next recent ||| reached) ^^^ reached = 0) {i j : Nat} (started : reached.testBit i = true)
    (leads : step i j) : reached.testBit j = true := by
  cases latest : recent.testBit i with
  | false => exact frontier.explored i j started latest leads
  | true =>
    have found := testBit_found next reached recent j
    rw [settled, Nat.zero_testBit, (carries recent j).mpr ⟨i, latest, leads⟩] at found
    simpa using found.symm

/-- After a round, every step from a place that was reached before leads to one that is reached. -/
theorem Frontier.leads_on (frontier : Frontier step reached recent) {i j : Nat}
    (started : reached.testBit i = true) (leads : step i j) :
    (reached ||| ((next recent ||| reached) ^^^ reached)).testBit j = true := by
  rw [Nat.testBit_or, Bool.or_eq_true, testBit_found]
  cases latest : recent.testBit i with
  | false => exact Or.inl (frontier.explored i j started latest leads)
  | true =>
    rw [(carries recent j).mpr ⟨i, latest, leads⟩]
    cases reached.testBit j with
    | false => exact Or.inr rfl
    | true => exact Or.inl rfl

theorem Frontier.advance (frontier : Frontier step reached recent) :
    Frontier step (reached ||| ((next recent ||| reached) ^^^ reached))
      ((next recent ||| reached) ^^^ reached) where
  within i found := by
    rw [Nat.testBit_or, found, Bool.or_true]
  explored i j started old leads := by
    rw [Nat.testBit_or, old, Bool.or_false] at started
    exact frontier.leads_on carries started leads

theorem testBit_spread (frontier : Frontier step reached recent) (fuel j : Nat) :
    (spread next fuel reached recent).testBit j = true ↔
      ∃ n ≤ fuel, ∃ i, reached.testBit i = true ∧ Leads step n i j := by
  induction fuel generalizing reached recent with
  | zero =>
    rw [spread]
    constructor
    · intro started
      exact ⟨0, Nat.le_refl 0, j, started, rfl⟩
    · intro given
      obtain ⟨n, none_left, i, started, leads⟩ := given
      obtain rfl := Nat.le_zero.mp none_left
      exact leads ▸ started
  | succ fuel ih =>
    rw [spread]
    by_cases settled : (next recent ||| reached) ^^^ reached = 0
    · rw [if_pos settled]
      constructor
      · intro started
        exact ⟨0, Nat.zero_le _, j, started, rfl⟩
      · intro given
        obtain ⟨n, _, i, started, leads⟩ := given
        exact leads.mem (fun i j started leads => frontier.closed carries settled started leads) started
    · rw [if_neg settled]
      refine (ih (frontier.advance carries)).trans ?_
      simp only [Nat.testBit_or, Bool.or_eq_true]
      constructor
      · intro given
        obtain ⟨n, few, i, started | found, leads⟩ := given
        · exact ⟨n, Nat.le_succ_of_le few, i, started, leads⟩
        · rw [testBit_found, Bool.and_eq_true] at found
          obtain ⟨k, latest, first⟩ := (carries recent i).mp found.1
          exact ⟨n + 1, Nat.succ_le_succ few, k, frontier.within k latest, i, first, leads⟩
      · intro given
        obtain ⟨n, few, i, started, leads⟩ := given
        cases n with
        | zero => exact ⟨0, Nat.zero_le fuel, i, Or.inl started, leads⟩
        | succ n =>
          obtain ⟨k, first, rest⟩ := leads
          have reaches := frontier.leads_on carries started first
          rw [Nat.testBit_or, Bool.or_eq_true] at reaches
          exact ⟨n, Nat.le_of_succ_le_succ few, k, reaches, rest⟩

def placesWithin (length places : Nat) : Finset Nat :=
  (Finset.range (length + 1)).filter fun i => places.testBit i = true

theorem placesWithin_ssubset {length : Nat} (bounded : ∀ i j, step i j → j ≤ length ∨ j = i)
    (frontier : Frontier step reached recent) (found : (next recent ||| reached) ^^^ reached ≠ 0) :
    placesWithin length reached ⊂
      placesWithin length (reached ||| ((next recent ||| reached) ^^^ reached)) := by
  obtain ⟨k, new⟩ := Nat.exists_testBit_of_ne_zero found
  have fresh := new
  rw [testBit_found, Bool.and_eq_true, Bool.not_eq_true'] at fresh
  obtain ⟨i, latest, leads⟩ := (carries recent k).mp fresh.1
  have below : k ≤ length := by
    rcases bounded i k leads with below | rfl
    · exact below
    · cases (frontier.within k latest).symm.trans fresh.2
  rw [Finset.ssubset_iff_of_subset]
  · refine ⟨k, Finset.mem_filter.mpr ⟨Finset.mem_range.mpr (Nat.lt_succ_of_le below), ?_⟩, fun old => ?_⟩
    · rw [Nat.testBit_or, new, Bool.or_true]
    · cases (Finset.mem_filter.mp old).2.symm.trans fresh.2
  · intro i member
    obtain ⟨below, started⟩ := Finset.mem_filter.mp member
    refine Finset.mem_filter.mpr ⟨below, ?_⟩
    rw [Nat.testBit_or, started, Bool.true_or]

/-- A round for each place that is not reached is enough to reach all that can be. -/
theorem spread_closed {length : Nat} (bounded : ∀ i j, step i j → j ≤ length ∨ j = i)
    (frontier : Frontier step reached recent) {fuel : Nat}
    (enough : length + 1 ≤ fuel + (placesWithin length reached).card) {i j : Nat}
    (started : (spread next fuel reached recent).testBit i = true) (leads : step i j) :
    (spread next fuel reached recent).testBit j = true := by
  induction fuel generalizing reached recent with
  | zero =>
    have all : placesWithin length reached = Finset.range (length + 1) := by
      apply Finset.eq_of_subset_of_card_le (Finset.filter_subset _ _)
      rwa [Finset.card_range, ← Nat.zero_add (Finset.card _)]
    rcases bounded i j leads with below | rfl
    · have member : j ∈ placesWithin length reached := by
        rw [all, Finset.mem_range]
        exact Nat.lt_succ_of_le below
      exact (Finset.mem_filter.mp member).2
    · exact started
  | succ fuel ih =>
    rw [spread] at started ⊢
    by_cases settled : (next recent ||| reached) ^^^ reached = 0
    · rw [if_pos settled] at started ⊢
      exact frontier.closed carries settled started leads
    · rw [if_neg settled] at started ⊢
      -- A round is paid for by the place it adds, so the fuel still covers what is left of the text.
      refine ih (frontier.advance carries) ?_ started
      have more := Finset.card_lt_card (placesWithin_ssubset carries bounded frontier settled)
      omega

theorem testBit_spread_all {length : Nat} (bounded : ∀ i j, step i j → j ≤ length ∨ j = i) (starts j : Nat) :
    (spread next (length + 1) starts starts).testBit j = true ↔
      ∃ n i, starts.testBit i = true ∧ Leads step n i j := by
  have frontier : Frontier step starts starts := .refl step starts
  have reaches := testBit_spread carries frontier (length + 1)
  constructor
  · intro reached
    obtain ⟨n, _, i, started, leads⟩ := (reaches j).mp reached
    exact ⟨n, i, started, leads⟩
  · intro given
    obtain ⟨n, i, started, leads⟩ := given
    have first := (reaches i).mpr ⟨0, Nat.zero_le _, i, started, rfl⟩
    have closed := fun i j => spread_closed carries bounded frontier (i := i) (j := j) (Nat.le_add_right _ _)
    exact leads.mem closed first

end Spread

/-- Steps end within the text, or where they start, if each of them does. -/
theorem Leads.end_le {length : Nat} {step : Nat → Nat → Prop}
    (bounded : ∀ i j, step i j → j ≤ length ∨ j = i) {n i j : Nat} (leads : Leads step n i j) :
    j ≤ length ∨ j = i := by
  have closed (k l : Nat) (inside : k ≤ length ∨ k = i) (first : step k l) : l ≤ length ∨ l = i := by
    rcases bounded k l first with below | rfl
    · exact Or.inl below
    · exact inside
  exact leads.mem closed (Or.inr rfl)

theorem Spans.end_le {cs : List Char} {r : Regex Atom} {i j : Nat} (spans : r.Spans cs i j) :
    j ≤ cs.length ∨ j = i := by
  induction r generalizing i j with
  | empty => exact Or.inr spans.symm
  | atom a =>
    cases a with
    | char set =>
      obtain ⟨rfl, c, found, _⟩ := spans
      exact Or.inl (List.getElem?_eq_some_iff.mp found).1
    | look condition => exact Or.inr spans.1
  | seq a b firstEnd secondEnd =>
    obtain ⟨k, first, second⟩ := spans
    rcases secondEnd second with below | rfl
    · exact Or.inl below
    · exact firstEnd first
  | either a b firstEnd secondEnd => exact spans.elim firstEnd secondEnd
  | star a once =>
    obtain ⟨n, leads⟩ := spans
    exact leads.end_le fun _ _ => once
  | times a least most once =>
    obtain ⟨n, _, _, leads⟩ := spans
    exact leads.end_le fun _ _ => once

/-- The search reaches exactly the places to which the expression spans from one of the starts. -/
theorem carries_ends (cs : List Char) (r : Regex Atom) :
    Carries ((r.map (Atom.resolve cs)).ends cs.length) (r.Spans cs) := by
  induction r with
  | empty =>
    intro starts j
    exact ⟨fun started => ⟨j, started, rfl⟩, fun ⟨i, started, same⟩ => same ▸ started⟩
  | atom a => exact carries_resolve cs a
  | seq a b first second =>
    intro starts j
    simp only [map, ends, Spans, second _ j, first starts, exists_between_iff]
  | either a b first second =>
    intro starts j
    simp only [map, ends, Spans, Nat.testBit_or, Bool.or_eq_true, first starts j, second starts j,
      and_or_left, exists_or]
  | star a once =>
    intro starts j
    simp only [map, ends, Spans]
    rw [testBit_spread_all once (fun _ _ => Spans.end_le), exists_comm]
    simp only [exists_and_left]
  | times a least most once =>
    intro starts j
    have reached := testBit_rounds once least starts
    simp only [map, ends, Spans]
    cases most with
    | none =>
      rw [testBit_spread_all once (fun _ _ => Spans.end_le)]
      have split := leads_split_iff (a.Spans cs) (starts.testBit · = true) (fun _ => True) least j
      simpa only [reached, Option.not_mem_none, false_implies, implies_true, true_and] using split
    | some most =>
      have frontier : Frontier (a.Spans cs) (rounds ((a.map (Atom.resolve cs)).ends cs.length) least starts)
          (rounds ((a.map (Atom.resolve cs)).ends cs.length) least starts) := .refl _ _
      refine (testBit_spread once frontier (most - least) j).trans ?_
      simp only [reached]
      refine (leads_split_iff _ _ (· ≤ most - least) _ _).trans ?_
      have few (n : Nat) (enough : least ≤ n) : n - least ≤ most - least ↔ n ≤ max least most := by omega
      refine exists_congr fun i => and_congr_right fun _ => exists_congr fun n => and_congr_right fun enough => ?_
      rw [few n enough]
      simp only [Option.mem_some_iff, forall_eq']

/-- An expression occurs in a text where it spans from some place of the text. -/
theorem occursIn_iff (r : Regex Atom) (cs : List Char) :
    r.occursIn cs = true ↔ ∃ i j, i ≤ cs.length ∧ r.Spans cs i j := by
  have starts (i : Nat) : (Nat.pow 2 (cs.length + 1) - 1).testBit i = true ↔ i ≤ cs.length := by
    rw [Nat.pow_eq, Nat.testBit_two_pow_sub_one, decide_eq_true_eq, Nat.lt_succ_iff]
  have some_place (places : Nat) : places ≠ 0 ↔ ∃ j, places.testBit j = true := by
    constructor
    · exact Nat.exists_testBit_of_ne_zero
    · rintro ⟨j, found⟩ rfl
      rw [Nat.zero_testBit] at found
      cases found
  rw [occursIn, bne_iff_ne, some_place]
  simp only [carries_ends cs r _ _, starts]
  exact exists_comm

end TableQuery.Regex
