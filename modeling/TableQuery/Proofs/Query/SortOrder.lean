import Mathlib.Tactic.Tauto
import TableQuery.Proofs.Json.Rounding
import TableQuery.Query.Sort

set_option autoImplicit false

/- Two integers of a signed 64-bit word are compared exactly, any other pair of numbers as doubles. Where the
two ways disagree there is a circle: different integers that round to one double, and a number in between that
ties with both. Without such numbers the order is transitive, and with them it is not. -/
namespace TableQuery

open Json (Number Value)

/-- Three comparisons around a circle agree: all of them tie, or some go up and some go down. -/
def Coherent (first second third : Ordering) : Prop :=
  (first = .eq ∧ second = .eq ∧ third = .eq) ∨
    (Ordering.lt ∈ [first, second, third] ∧ Ordering.gt ∈ [first, second, third])

instance (first second third : Ordering) : Decidable (Coherent first second third) :=
  inferInstanceAs (Decidable (_ ∨ _))

namespace Coherent

theorem rotate {first second third : Ordering} (coherent : Coherent first second third) :
    Coherent second third first := by
  unfold Coherent at coherent ⊢
  simp only [List.mem_cons, List.not_mem_nil, or_false] at coherent ⊢
  tauto

/-- Comparing further where the first comparisons tie keeps a circle coherent. -/
theorem andThen {first second third later middle last : Ordering} (coherent : Coherent first second third)
    (further : first = .eq → second = .eq → third = .eq → Coherent later middle last) :
    Coherent (first.then later) (second.then middle) (third.then last) := by
  rcases coherent with ⟨rfl, rfl, rfl⟩ | ⟨up, down⟩
  · exact further rfl rfl rfl
  · -- A comparison that goes up or down is not changed by what is compared further.
    right
    simp only [List.mem_cons, List.not_mem_nil, or_false] at up down ⊢
    constructor
    · rcases up with rfl | rfl | rfl <;> simp only [Ordering.lt_then, true_or, or_true]
    · rcases down with rfl | rfl | rfl <;> simp only [Ordering.gt_then, true_or, or_true]

/-- In a coherent circle two steps that do not go down lead to an end that is not lower. -/
theorem ne_gt {first second third : Ordering} (coherent : Coherent first second third.swap)
    (up : first ≠ .gt) (on : second ≠ .gt) : third ≠ .gt := by
  rintro rfl
  rcases coherent with ⟨_, _, tie⟩ | ⟨_, down⟩
  · cases tie
  · simp only [Ordering.swap_gt, List.mem_cons, List.not_mem_nil, or_false, reduceCtorEq] at down
    rcases down with rfl | rfl
    · exact up rfl
    · exact on rfl

theorem of_transCmp {α : Type} (cmp : α → α → Ordering) [Std.TransCmp cmp] (a b c : α) :
    Coherent (cmp a b) (cmp b c) (cmp c a) := by
  have back : cmp c a = (cmp a c).swap := Std.OrientedCmp.eq_swap
  rw [back]
  cases first : cmp a b with
  | eq =>
    cases second : cmp b c with
    | eq => rw [Std.TransCmp.eq_trans first second]; decide
    | lt => rw [Std.TransCmp.lt_of_eq_of_lt first second]; decide
    | gt => rw [Std.TransCmp.gt_of_eq_of_gt first second]; decide
  | lt =>
    cases second : cmp b c with
    | eq => rw [Std.TransCmp.lt_of_lt_of_eq first second]; decide
    | lt => rw [Std.TransCmp.lt_trans first second]; decide
    | gt => exact .inr ⟨List.mem_cons_self, .tail _ List.mem_cons_self⟩
  | gt =>
    cases second : cmp b c with
    | eq => rw [Std.TransCmp.gt_of_gt_of_eq first second]; decide
    | lt => exact .inr ⟨.tail _ List.mem_cons_self, List.mem_cons_self⟩
    | gt => rw [Std.TransCmp.gt_trans first second]; decide

end Coherent
namespace Json.Number

/-- The integers `low` and `high` are told apart exactly, while `between` can only be compared by its
rounded value and ties with both. -/
def Blurs (between : Number) (low high : Int) : Prop :=
  between.int64? = none ∧ fitsInt64 low = true ∧ fitsInt64 high = true ∧ low < high ∧
    between.approximation = (integer low).approximation ∧
    between.approximation = (integer high).approximation

instance (between : Number) (low high : Int) : Decidable (between.Blurs low high) :=
  inferInstanceAs (Decidable (_ ∧ _))

/-- None of the numbers blurs two integers among them. -/
def Sharp (numbers : Number → Prop) : Prop :=
  ∀ between low high, numbers between → numbers (integer low) → numbers (integer high) →
    ¬between.Blurs low high

theorem int64?_eq_some_iff {a : Number} {n : Int} :
    a.int64? = some n ↔ a = integer n ∧ fitsInt64 n = true := by
  cases a with
  | integer m =>
    rw [int64?, Option.ite_none_right_eq_some, Option.some.injEq, integer.injEq]
    constructor
    · rintro ⟨fits, rfl⟩
      exact ⟨rfl, fits⟩
    · rintro ⟨rfl, fits⟩
      exact ⟨fits, rfl⟩
  | real x => simp [int64?]

theorem order_of_int64 {a b : Number} {n m : Int} (left : a.int64? = some n) (right : b.int64? = some m) :
    a.order b = compare n m := by
  rw [order, left, right]

theorem order_of_none {a b : Number} (rounded : a.int64? = none ∨ b.int64? = none) :
    a.order b = compare a.approximation b.approximation := by
  unfold order
  split
  · rename_i n m left right
    rw [left, right] at rounded
    simp at rounded
  · rfl

theorem order_self (a : Number) : a.order a = .eq := by
  unfold order
  split
  · rename_i n m left right
    rw [left] at right
    cases right
    exact Std.compare_self
  · exact Std.compare_self

theorem order_swap (a b : Number) : (a.order b).swap = b.order a := by
  cases foundA : a.int64? with
  | none =>
    rw [order_of_none (.inl foundA), order_of_none (.inr foundA)]
    exact Std.OrientedOrd.eq_swap.symm
  | some n =>
    cases foundB : b.int64? with
    | none =>
      rw [order_of_none (.inr foundB), order_of_none (.inl foundB)]
      exact Std.OrientedOrd.eq_swap.symm
    | some m =>
      rw [order_of_int64 foundA foundB, order_of_int64 foundB foundA]
      exact Std.OrientedOrd.eq_swap.symm

theorem order_eq_then (a b : Number) :
    a.order b = (compare a.approximation b.approximation).then (a.order b) := by
  unfold order
  split
  · rename_i n m left right
    obtain ⟨rfl, _⟩ := int64?_eq_some_iff.mp left
    obtain ⟨rfl, _⟩ := int64?_eq_some_iff.mp right
    cases rounded : compare (integer n).approximation (integer m).approximation with
    | eq => rfl
    | lt =>
      rw [Ordering.lt_then, Int.compare_eq_lt]
      by_contra above
      have mono := approximation_mono (Int.not_lt.mp above)
      rw [Int.compare_eq_lt] at rounded
      omega
    | gt =>
      rw [Ordering.gt_then, Int.compare_eq_gt]
      by_contra below
      have mono := approximation_mono (Int.not_lt.mp below)
      rw [Int.compare_eq_gt] at rounded
      omega
  · rw [Ordering.then_self]

section Sharp

variable {numbers : Number → Prop} (sharp : Sharp numbers)
include sharp

/-- Beside a number that is compared by its rounded value, integers with the same rounded value are equal. -/
theorem Sharp.eq_of_approximation {between : Number} {n m : Int} (rounded : between.int64? = none)
    (among : numbers between) (left : numbers (integer n)) (right : numbers (integer m))
    (fits : fitsInt64 n = true) (within : fitsInt64 m = true)
    (first : between.approximation = (integer n).approximation)
    (second : between.approximation = (integer m).approximation) : n = m := by
  rcases Int.lt_trichotomy n m with less | same | greater
  · exact absurd ⟨rounded, fits, within, less, first, second⟩ (sharp between n m among left right)
  · exact same
  · exact absurd ⟨rounded, within, fits, greater, second, first⟩ (sharp between m n among right left)

/-- Where the third of three numbers is compared by its rounded value, all three of one rounded value tie. -/
theorem Sharp.coherent_of_none {a b c : Number} (among : numbers a) (beside : numbers b) (between : numbers c)
    (rounded : c.int64? = none) (first : a.approximation = b.approximation)
    (second : b.approximation = c.approximation) : Coherent (a.order b) (b.order c) (c.order a) := by
  have right : b.order c = .eq := by
    rw [order_of_none (.inr rounded), second]
    exact Std.compare_self
  have back : c.order a = .eq := by
    rw [order_of_none (.inl rounded), ← second, ← first]
    exact Std.compare_self
  have left : a.order b = .eq := by
    cases foundA : a.int64? with
    | none => rw [order_of_none (.inl foundA), first]; exact Std.compare_self
    | some n =>
      cases foundB : b.int64? with
      | none => rw [order_of_none (.inr foundB), first]; exact Std.compare_self
      | some m =>
        rw [order_of_int64 foundA foundB]
        obtain ⟨rfl, fits⟩ := int64?_eq_some_iff.mp foundA
        obtain ⟨rfl, within⟩ := int64?_eq_some_iff.mp foundB
        rw [sharp.eq_of_approximation rounded between among beside fits within (second.symm.trans first.symm)
          second.symm]
        exact Std.compare_self
  exact .inl ⟨left, right, back⟩

theorem Sharp.coherent_order {a b c : Number} (overA : numbers a) (overB : numbers b) (overC : numbers c) :
    Coherent (a.order b) (b.order c) (c.order a) := by
  rw [order_eq_then a b, order_eq_then b c, order_eq_then c a]
  refine (Coherent.of_transCmp compare a.approximation b.approximation c.approximation).andThen ?_
  intro first second third
  rw [Int.compare_eq_eq] at first second third
  -- All three have one rounded value: either all are compared exactly, or one of them ties with both others.
  cases foundA : a.int64? with
  | none =>
    exact (sharp.coherent_of_none overB overC overA foundA second third).rotate.rotate
  | some n =>
    cases foundB : b.int64? with
    | none => exact (sharp.coherent_of_none overC overA overB foundB third first).rotate
    | some m =>
      cases foundC : c.int64? with
      | none => exact sharp.coherent_of_none overA overB overC foundC first second
      | some k =>
        rw [order_of_int64 foundA foundB, order_of_int64 foundB foundC, order_of_int64 foundC foundA]
        exact Coherent.of_transCmp compare n m k

end Sharp

end Json.Number

namespace Json.Value

def comparedNumbers : Value → List Number
  | .number n => [n]
  | .array items => itemNumbers items
  | _ => []
where
  /-- The numbers that are compared where items are compared. -/
  itemNumbers : List Value → List Number
    | [] => []
    | item :: rest => comparedNumbers item ++ itemNumbers rest

/-- All numbers compared where a value is compared are of one kind. -/
def Over (numbers : Number → Prop) (v : Value) : Prop := ∀ n ∈ v.comparedNumbers, numbers n

mutual

theorem order_self : ∀ a : Value, a.order a = .eq
  | .null => rfl
  | .bool b => by cases b <;> rfl
  | .number n => n.order_self
  | .string s => Std.compare_self
  | .array items => orderItems_self items
  | .object _ => rfl

theorem orderItems_self : ∀ items : List Value, order.orderItems items items = .eq
  | [] => rfl
  | item :: rest => by rw [order.orderItems, order_self item, orderItems_self rest]; rfl

end

theorem order_eq_then (a b : Value) : a.order b = (compare a.rank b.rank).then (a.order b) := by
  cases a <;> cases b <;> rfl

mutual

theorem order_swap : ∀ a b : Value, (a.order b).swap = b.order a
  | .null, b => by cases b <;> rfl
  | .object _, b => by cases b <;> rfl
  | .bool x, b => by
    cases b with
    | bool y => exact Std.OrientedOrd.eq_swap.symm
    | _ => rfl
  | .number x, b => by
    cases b with
    | number y => exact x.order_swap y
    | _ => rfl
  | .string x, b => by
    cases b with
    | string y => exact Std.OrientedOrd.eq_swap.symm
    | _ => rfl
  | .array xs, b => by
    cases b with
    | array ys => exact orderItems_swap xs ys
    | _ => rfl

theorem orderItems_swap : ∀ xs ys : List Value, (order.orderItems xs ys).swap = order.orderItems ys xs
  | [], [] => rfl
  | [], _ :: _ => rfl
  | _ :: _, [] => rfl
  | x :: xs, y :: ys => by
    rw [order.orderItems, order.orderItems, Ordering.swap_then, order_swap x y, orderItems_swap xs ys]

end

/-- A circle of values is coherent where it is for values of one kind. -/
theorem coherent_of_rank {a b c : Value}
    (same : a.rank = b.rank → b.rank = c.rank → Coherent (a.order b) (b.order c) (c.order a)) :
    Coherent (a.order b) (b.order c) (c.order a) := by
  rw [order_eq_then a b, order_eq_then b c, order_eq_then c a]
  refine (Coherent.of_transCmp compare a.rank b.rank c.rank).andThen fun first second _ => ?_
  exact same (Nat.compare_eq_eq.mp first) (Nat.compare_eq_eq.mp second)

variable {numbers : Number → Prop}

theorem over_cons_iff {item : Value} {rest : List Value} :
    (Value.array (item :: rest)).Over numbers ↔ item.Over numbers ∧ (Value.array rest).Over numbers :=
  List.forall_mem_append

mutual

theorem coherent_order (sharp : Number.Sharp numbers) : ∀ {a b c : Value}, a.Over numbers → b.Over numbers →
    c.Over numbers → Coherent (a.order b) (b.order c) (c.order a)
  | .null, b, c, _, _, _ => coherent_of_rank fun first second => by
    cases b with
    | null =>
      cases c with
      | null => decide
      | _ => cases second
    | _ => cases first
  | .bool x, b, c, _, _, _ => coherent_of_rank fun first second => by
    cases b with
    | bool y =>
      cases c with
      | bool z => exact Coherent.of_transCmp compare x y z
      | _ => cases second
    | _ => cases first
  | .number x, b, c, overA, overB, overC => coherent_of_rank fun first second => by
    cases b with
    | number y =>
      cases c with
      | number z =>
        exact sharp.coherent_order (overA x List.mem_cons_self) (overB y List.mem_cons_self)
          (overC z List.mem_cons_self)
      | _ => cases second
    | _ => cases first
  | .string x, b, c, _, _, _ => coherent_of_rank fun first second => by
    cases b with
    | string y =>
      cases c with
      | string z => exact Coherent.of_transCmp compare x y z
      | _ => cases second
    | _ => cases first
  | .array xs, b, c, overA, overB, overC => coherent_of_rank fun first second => by
    cases b with
    | array ys =>
      cases c with
      | array zs => exact coherent_orderItems sharp overA overB overC
      | _ => cases second
    | _ => cases first
  | .object _, b, c, _, _, _ => coherent_of_rank fun first second => by
    cases b with
    | object _ =>
      cases c with
      | object _ => exact .inl ⟨rfl, rfl, rfl⟩
      | _ => cases second
    | _ => cases first

theorem coherent_orderItems (sharp : Number.Sharp numbers) : ∀ {xs ys zs : List Value},
    (Value.array xs).Over numbers → (Value.array ys).Over numbers → (Value.array zs).Over numbers →
      Coherent (order.orderItems xs ys) (order.orderItems ys zs) (order.orderItems zs xs)
  | [], ys, zs, _, _, _ => by cases ys <;> cases zs <;> simp [order.orderItems, Coherent]
  | x :: xs, [], zs, _, _, _ => by cases zs <;> simp [order.orderItems, Coherent]
  | x :: xs, y :: ys, [], _, _, _ => by simp [order.orderItems, Coherent]
  | x :: xs, y :: ys, z :: zs, overA, overB, overC => by
    rw [over_cons_iff] at overA overB overC
    simp only [order.orderItems]
    exact (coherent_order sharp overA.1 overB.1 overC.1).andThen fun _ _ _ =>
      coherent_orderItems sharp overA.2 overB.2 overC.2

end

end Json.Value

theorem coherent_orderFields {numbers : Number → Prop} (sharp : Number.Sharp numbers) {a b c : Option Value}
    (overA : ∀ v ∈ a, v.Over numbers) (overB : ∀ v ∈ b, v.Over numbers) (overC : ∀ v ∈ c, v.Over numbers) :
    Coherent (orderFields a b) (orderFields b c) (orderFields c a) := by
  cases a with
  | none => cases b <;> cases c <;> simp [orderFields, Coherent]
  | some v =>
    cases b with
    | none => cases c <;> simp [orderFields, Coherent]
    | some w =>
      cases c with
      | none => simp [orderFields, Coherent]
      | some u => exact Json.Value.coherent_order sharp (overA v rfl) (overB w rfl) (overC u rfl)

theorem orderFields_self (a : Option Value) : orderFields a a = .eq := by
  cases a with
  | none => rfl
  | some v => exact v.order_self

theorem orderFields_swap (a b : Option Value) : (orderFields a b).swap = orderFields b a := by
  cases a with
  | none => cases b <;> rfl
  | some v =>
    cases b with
    | none => rfl
    | some w => exact v.order_swap w

/-- Numbers among which one blurs two integers are ordered in a circle. -/
theorem orderFields_of_blurs {between : Number} {low high : Int} (blurs : between.Blurs low high) :
    orderFields (some (.int high)) (some (.number between)) = .eq ∧
      orderFields (some (.number between)) (some (.int low)) = .eq ∧
      orderFields (some (.int high)) (some (.int low)) = .gt := by
  obtain ⟨rounded, fits, within, less, first, second⟩ := blurs
  refine ⟨?_, ?_, ?_⟩
  · exact (Number.order_of_none (.inr rounded)).trans (Int.compare_eq_eq.mpr second.symm)
  · exact (Number.order_of_none (.inl rounded)).trans (Int.compare_eq_eq.mpr first)
  · exact (Number.order_of_int64 (Number.int64?_eq_some_iff.mpr ⟨rfl, within⟩)
      (Number.int64?_eq_some_iff.mpr ⟨rfl, fits⟩)).trans (Int.compare_eq_gt.mpr less)

/--
The order of fields is reflexive, and comparing the other way round reverses it. It is transitive on the
fields over a set of numbers exactly where none of these numbers blurs two integers among them.
-/
theorem orderFields_preorder (numbers : Number → Prop) :
    (∀ a, orderFields a a = .eq) ∧ (∀ a b, orderFields b a = (orderFields a b).swap) ∧
    ((∀ a b c : Option Value, (∀ v ∈ a, v.Over numbers) → (∀ v ∈ b, v.Over numbers) →
      (∀ v ∈ c, v.Over numbers) → orderFields a b ≠ .gt → orderFields b c ≠ .gt →
        orderFields a c ≠ .gt) ↔ Number.Sharp numbers) := by
  refine ⟨orderFields_self, fun a b => (orderFields_swap a b).symm, ?_, ?_⟩
  · intro transitive between low high among first second blurs
    obtain ⟨above, below, down⟩ := orderFields_of_blurs blurs
    have alone {n : Number} (inside : numbers n) : ∀ v ∈ some (Value.number n), v.Over numbers := by
      rintro v ⟨⟩ m member
      rw [List.mem_singleton.mp member]
      exact inside
    exact transitive _ _ _ (alone second) (alone among) (alone first) (ne_of_eq_of_ne above (by decide))
      (ne_of_eq_of_ne below (by decide)) down
  · intro sharp a b c overA overB overC up on
    have circle := coherent_orderFields sharp overA overB overC
    rw [← orderFields_swap a c] at circle
    exact circle.ne_gt up on

/-- The integer 9223372036854775808 does not fit a signed word. It ties with the two before it, of which
one is greater than the other. -/
theorem orderFields_not_transitive :
    orderFields (some (.int 9223372036854775807)) (some (.int 9223372036854775808)) = .eq ∧
      orderFields (some (.int 9223372036854775808)) (some (.int 9223372036854775806)) = .eq ∧
      orderFields (some (.int 9223372036854775807)) (some (.int 9223372036854775806)) = .gt := by
  decide +kernel

end TableQuery
