import TableQuery.Proofs.Filter.Meaning
import TableQuery.Proofs.Query.SortOrder

set_option autoImplicit false

namespace TableQuery

open Json (Value Number)

namespace Json.Number

/-- Numbers that differ, while their order is that of one rounded value. -/
def Blends : Number → Number → Prop
  | integer n, integer m =>
    n ≠ m ∧ (fitsInt64 n = false ∨ fitsInt64 m = false) ∧
      (integer n).approximation = (integer m).approximation
  | integer n, real x => (integer n).approximation = x.units
  | real x, integer n => x.units = (integer n).approximation
  | real _, real _ => False

theorem Blends.equals_eq_false {a b : Number} (blends : a.Blends b) : a.equals b = false := by
  cases a with
  | integer n =>
    cases b with
    | integer m => exact beq_eq_false_iff_ne.mpr blends.1
    | real x => rfl
  | real x =>
    cases b with
    | integer m => rfl
    | real y => exact blends.elim

theorem int64?_integer_eq_none_iff {n : Int} : (integer n).int64? = none ↔ fitsInt64 n = false := by
  simp [int64?]

theorem order_eq_eq_iff (a b : Number) : a.order b = .eq ↔ a.equals b = true ∨ a.Blends b := by
  cases a with
  | integer n =>
    cases b with
    | integer m =>
      have same : (integer n).equals (integer m) = true ↔ n = m := beq_iff_eq
      by_cases inside : fitsInt64 n = true ∧ fitsInt64 m = true
      · have exactly := order_of_int64 (int64?_eq_some_iff.mpr ⟨rfl, inside.1⟩)
          (int64?_eq_some_iff.mpr ⟨rfl, inside.2⟩)
        rw [exactly, Int.compare_eq_eq, same]
        simp [Blends, inside]
      · have outside : fitsInt64 n = false ∨ fitsInt64 m = false := by
          rw [← Bool.not_eq_true, ← Bool.not_eq_true]
          exact Classical.not_and_iff_not_or_not.mp inside
        have rounded := order_of_none (outside.imp int64?_integer_eq_none_iff.mpr int64?_integer_eq_none_iff.mpr)
        rw [rounded, Int.compare_eq_eq, same]
        constructor
        · intro tie
          by_cases equal : n = m
          · exact .inl equal
          · exact .inr ⟨equal, outside, tie⟩
        · intro either
          rcases either with rfl | blends
          · rfl
          · exact blends.2.2
    | real x =>
      rw [order_of_none (.inr rfl), Int.compare_eq_eq]
      exact ⟨.inr, fun either => either.resolve_left Bool.false_ne_true⟩
  | real x =>
    cases b with
    | integer m =>
      rw [order_of_none (.inl rfl), Int.compare_eq_eq]
      exact ⟨.inr, fun either => either.resolve_left Bool.false_ne_true⟩
    | real y =>
      have same : (real x).equals (real y) = true ↔ x.units = y.units := beq_iff_eq
      rw [order_of_none (.inl rfl), Int.compare_eq_eq, same]
      exact ⟨.inl, fun either => either.resolve_right id⟩

end Json.Number

namespace Filter

def comparing (field : String) (op : Comparison) (value : Value) : Filter := .group [(.and, .compare field op value)]

theorem comparing_matches_iff {field : String} {op : Comparison} {value document : Value} :
    (comparing field op value).Matches document ↔ op.holds (lookup document field) value = true := by
  have compiles : (comparing field op value).Compiles := by
    intro pattern inside
    cases inside
  have met : (comparing field op value).meets document = op.holds (lookup document field) value := rfl
  rw [matches_iff, met]
  exact and_iff_right compiles

section Opposites

variable {value : Value}

theorem equals_null_iff : value.equals .null = true ↔ value = .null := by
  cases value with
  | null => exact iff_of_true rfl rfl
  | _ => exact iff_of_false Bool.false_ne_true nofun

/--
"Equal" and "not equal" are opposites, except where the field is missing and the value is `null`: there both
match.
-/
theorem ne_complements_eq_iff (document : Value) (field : String) (value : Value) :
    (((comparing field .ne value).Matches document ↔ ¬ (comparing field .eq value).Matches document) ↔
      ¬ (lookup document field = none ∧ value = .null)) ∧
    ((comparing field .eq value).Matches document ∧ (comparing field .ne value).Matches document ↔
      lookup document field = none ∧ value = .null) := by
  rw [comparing_matches_iff, comparing_matches_iff]
  cases found : lookup document field with
  | none =>
    have differs : Comparison.holds .ne none value = true := rfl
    have equals : Comparison.holds .eq none value = true ↔ value = .null := equals_null_iff
    rw [differs, equals]
    simp
  | some actual =>
    have differs : Comparison.holds .ne (some actual) value = true ↔ ¬ actual.equals value = true := by
      simp [Comparison.holds]
    have equals : Comparison.holds .eq (some actual) value = true ↔ actual.equals value = true := Iff.rfl
    rw [differs, equals]
    simp

/-- A document without an age has an age equal to `null` and an age not equal to `null`. -/
theorem ne_and_eq_match_missing_null :
    let document : Value := .object [("name", .string "Alice")]
    ¬ ((comparing "age" .ne .null).Matches document ↔ ¬ (comparing "age" .eq .null).Matches document) := by
  decide +kernel

end Opposites

end Filter

namespace Comparison

/-- Exactly one of "less", "equal" and "greater" holds, and "at least" and "at most" hold where one of their
two parts does. -/
def Agree (holds : Comparison → Prop) : Prop :=
  (∃! op, op ∈ [lt, eq, gt] ∧ holds op) ∧ (holds gte ↔ holds gt ∨ holds eq) ∧ (holds lte ↔ holds lt ∨ holds eq)

theorem agree_iff {holds : Comparison → Prop} {equal : Prop} {order : Ordering} (ties : equal → order = .eq)
    (equals : holds eq ↔ equal) (less : holds lt ↔ order = .lt) (greater : holds gt ↔ order = .gt)
    (least : holds gte ↔ order = .gt ∨ order = .eq) (most : holds lte ↔ order = .lt ∨ order = .eq) :
    Agree holds ↔ (order = .eq → equal) := by
  unfold Agree
  simp only [List.mem_cons, List.not_mem_nil, or_false]
  rw [least, most, equals, less, greater]
  constructor
  · rintro ⟨⟨op, ⟨among, given⟩, _⟩, _⟩ tie
    rcases among with rfl | rfl | rfl
    · exact absurd (tie.symm.trans (less.mp given)) (by decide)
    · exact equals.mp given
    · exact absurd (tie.symm.trans (greater.mp given)) (by decide)
  · intro tied
    have same : order = .eq ↔ equal := ⟨tied, ties⟩
    -- The comparison that the order names is the only one of the three that holds.
    have only : ∃ op, (op = lt ∨ op = eq ∨ op = gt) ∧ holds op := by
      cases order with
      | lt => exact ⟨lt, .inl rfl, less.mpr rfl⟩
      | eq => exact ⟨eq, .inr (.inl rfl), equals.mpr (tied rfl)⟩
      | gt => exact ⟨gt, .inr (.inr rfl), greater.mpr rfl⟩
    have named {op : Comparison} (given : (op = lt ∨ op = eq ∨ op = gt) ∧ holds op) :
        (op = lt ∧ order = .lt) ∨ (op = eq ∧ order = .eq) ∨ (op = gt ∧ order = .gt) := by
      obtain ⟨rfl | rfl | rfl, holding⟩ := given
      · exact .inl ⟨rfl, less.mp holding⟩
      · exact .inr (.inl ⟨rfl, ties (equals.mp holding)⟩)
      · exact .inr (.inr ⟨rfl, greater.mp holding⟩)
    obtain ⟨op, given⟩ := only
    refine ⟨⟨op, given, fun other also => ?_⟩, or_congr_right same, or_congr_right same⟩
    have first := named given
    have second := named also
    cases order <;> simp_all

end Comparison

def Comparable : Value → Value → Prop
  | .number _, .number _ => True
  | .string _, .string _ => True
  | _, _ => False

/-- Values that tie as rounded numbers without being equal. -/
def Json.Value.Blends : Value → Value → Prop
  | .number a, .number b => a.Blends b
  | _, _ => False

theorem exists_orderOf {value bound : Value} (comparable : Comparable value bound) :
    ∃ order, orderOf? value bound = some order ∧
      (order = .eq ↔ value.equals bound = true ∨ value.Blends bound) ∧
      (value.Blends bound → value.equals bound = false) := by
  cases value with
  | number a =>
    cases bound with
    | number b => exact ⟨a.order b, rfl, a.order_eq_eq_iff b, Number.Blends.equals_eq_false⟩
    | _ => exact comparable.elim
  | string s =>
    cases bound with
    | string t =>
      have equal : (Value.string s).equals (.string t) = true ↔ s = t := beq_iff_eq
      refine ⟨compare s t, rfl, ?_, nofun⟩
      rw [equal, Std.compare_eq_iff_eq]
      exact (or_iff_left not_false).symm
    | _ => exact comparable.elim
  | _ => exact comparable.elim

namespace Filter

/--
A field that can be compared with a bound: exactly one of "less", "equal" and "greater" matches, "at least"
matches where "greater" or "equal" does, and "at most" where "less" or "equal" does. This fails for numbers
that blend, and for nothing else.
-/
theorem comparisons_agree_iff {document value bound : Value} {field : String}
    (found : lookup document field = some value) (comparable : Comparable value bound) :
    Comparison.Agree (fun op => (comparing field op bound).Matches document) ↔ ¬ value.Blends bound := by
  obtain ⟨order, ordered, tie, apart⟩ := exists_orderOf comparable
  have matching (op : Comparison) :
      (comparing field op bound).Matches document ↔ op.holds (some value) bound = true := by
    rw [comparing_matches_iff, found]
  have agree : Comparison.Agree (fun op => (comparing field op bound).Matches document) ↔
      (order = .eq → value.equals bound = true) := by
    apply Comparison.agree_iff (fun equal => tie.mpr (.inl equal))
    all_goals rw [matching]
    all_goals simp [Comparison.holds, ordered]
  rw [agree, tie]
  constructor
  · intro tied blends
    have equal := tied (.inr blends)
    have differ := apart blends
    exact Bool.false_ne_true (differ.symm.trans equal)
  · intro separate either
    exact either.resolve_right separate

/-- Two integers that one double stands for are still told apart. -/
theorem comparisons_agree_of_close :
    let document : Value := .object [("id", .int 9007199254740993)]
    lookup document "id" = some (.int 9007199254740993) ∧
      Comparable (.int 9007199254740993) (.int 9007199254740992) ∧
      Comparison.Agree (fun op => (comparing "id" op (.int 9007199254740992)).Matches document) := by
  intro document
  have found : lookup document "id" = some (.int 9007199254740993) := rfl
  have comparable : Comparable (.int 9007199254740993) (.int 9007199254740992) := trivial
  have apart : ¬ (Value.int 9007199254740993).Blends (.int 9007199254740992) := by
    intro blends
    have outside := blends.2.1
    revert outside
    decide
  exact ⟨found, comparable, (comparisons_agree_iff found comparable).mpr apart⟩

/-- Of two integers beyond a signed word the first is less than the second. None of the three comparisons
matches, and the first is at least and at most the second. -/
theorem comparisons_disagree_beyond_int64 :
    let document : Value := .object [("id", .int 9223372036854775808)]
    let matching (op : Comparison) : Prop := (comparing "id" op (.int 9223372036854775809)).Matches document
    ¬ matching .lt ∧ ¬ matching .eq ∧ ¬ matching .gt ∧ matching .gte ∧ matching .lte := by
  decide +kernel

end Filter

end TableQuery
