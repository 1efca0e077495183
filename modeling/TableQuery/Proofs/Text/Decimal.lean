import Mathlib.Algebra.Group.Int.Defs
import Mathlib.Data.List.TakeWhile
import TableQuery.Text.Basic

set_option autoImplicit false

namespace TableQuery.Text

/-- Characters write a natural number: one or more digits, read in base ten. -/
structure WritesNat (cs : List Char) (n : Nat) : Prop where
  nonempty : cs ≠ []
  digits : ∀ c ∈ cs, isDigit c = true
  value : Nat.ofDigitChars 10 cs 0 = n

/-- Characters write an integer: a natural number, after at most one sign. -/
inductive WritesInt : List Char → Int → Prop
  | plain {cs : List Char} {n : Nat} (number : WritesNat cs n) : WritesInt cs n
  | plus {cs : List Char} {n : Nat} (number : WritesNat cs n) : WritesInt ('+' :: cs) n
  | minus {cs : List Char} {n : Nat} (number : WritesNat cs n) : WritesInt ('-' :: cs) (-n)

structure WritesInt64 (s : String) (n : Int) : Prop where
  least : -2 ^ 63 ≤ n
  greatest : n < 2 ^ 63
  written : ∃ before body after, s.toList = before ++ body ++ after ∧
    (∀ c ∈ before, isBlank c = true) ∧ (∀ c ∈ after, isBlank c = true) ∧ WritesInt body n

theorem digits?_eq_some_iff {cs : List Char} {n : Nat} : digits? cs = some n ↔ WritesNat cs n := by
  have value : digitsValue cs = Nat.ofDigitChars 10 cs 0 := Nat.ofDigitChars_eq_foldl.symm
  unfold digits?
  constructor
  · intro found
    split at found
    · rename_i written
      simp only [Bool.and_eq_true, Bool.not_eq_true', List.isEmpty_eq_false_iff, List.all_eq_true] at written
      exact ⟨written.1, written.2, value ▸ Option.some.inj found⟩
    · cases found
  · intro writes
    have written : (!cs.isEmpty && cs.all isDigit) = true := by
      simp only [Bool.and_eq_true, Bool.not_eq_true', List.isEmpty_eq_false_iff, List.all_eq_true]
      exact ⟨writes.nonempty, writes.digits⟩
    rw [if_pos written, value, writes.value]

/-- Digits are read as they are: none of them is a sign. -/
theorem integer?_of_writesNat {cs : List Char} {n : Nat} (writes : WritesNat cs n) : integer? cs = some n := by
  have digits : digits? cs = some n := digits?_eq_some_iff.mpr writes
  unfold integer?
  split
  · exact absurd (writes.digits '+' List.mem_cons_self) (by decide)
  · exact absurd (writes.digits '-' List.mem_cons_self) (by decide)
  · rw [digits]
    rfl

theorem integer?_eq_some_iff {cs : List Char} {n : Int} : integer? cs = some n ↔ WritesInt cs n := by
  constructor
  · intro found
    unfold integer? at found
    split at found
    · obtain ⟨m, digits, rfl⟩ := Option.map_eq_some_iff.mp found
      exact .plus (digits?_eq_some_iff.mp digits)
    · obtain ⟨m, digits, rfl⟩ := Option.map_eq_some_iff.mp found
      exact .minus (digits?_eq_some_iff.mp digits)
    · obtain ⟨m, digits, rfl⟩ := Option.map_eq_some_iff.mp found
      exact .plain (digits?_eq_some_iff.mp digits)
  · intro writes
    cases writes with
    | plain number => exact integer?_of_writesNat number
    | plus number => rw [integer?, digits?_eq_some_iff.mpr number, Option.map_some, Int.ofNat_eq_natCast]
    | minus number => rw [integer?, digits?_eq_some_iff.mpr number, Option.map_some, Int.ofNat_eq_natCast]

theorem isBlank_of_isDigit {c : Char} (digit : isDigit c = true) : isBlank c = false := by
  have bounds : '0' ≤ c ∧ c ≤ '9' := by
    simpa only [isDigit, Bool.and_eq_true, decide_eq_true_eq] using digit
  have low : 48 ≤ c.toNat := bounds.1
  have high : c.toNat ≤ 57 := bounds.2
  simp only [isBlank, Bool.or_eq_false_iff, Bool.and_eq_false_iff, decide_eq_false_iff_not, beq_eq_false_iff_ne]
  omega

namespace WritesInt

variable {cs : List Char} {n : Int}

theorem nonempty (writes : WritesInt cs n) : cs ≠ [] := by
  cases writes with
  | plain number => exact number.nonempty
  | plus number => exact List.cons_ne_nil _ _
  | minus number => exact List.cons_ne_nil _ _

theorem bare (writes : WritesInt cs n) : ∀ c ∈ cs, isBlank c = false := by
  cases writes with
  | plain number => exact fun c inside => isBlank_of_isDigit (number.digits c inside)
  | plus number =>
    exact List.forall_mem_cons.mpr ⟨by decide, fun c inside => isBlank_of_isDigit (number.digits c inside)⟩
  | minus number =>
    exact List.forall_mem_cons.mpr ⟨by decide, fun c inside => isBlank_of_isDigit (number.digits c inside)⟩

end WritesInt

/-- What is dropped at the ends of a text are blanks. -/
theorem exists_surroundings (cs : List Char) : ∃ before after, cs = before ++ trimChars cs ++ after ∧
    (∀ c ∈ before, isBlank c = true) ∧ (∀ c ∈ after, isBlank c = true) := by
  have front : cs.takeWhile isBlank ++ cs.dropWhile isBlank = cs := List.takeWhile_append_dropWhile
  have back := @List.takeWhile_append_dropWhile _ isBlank (cs.dropWhile isBlank).reverse
  have rest : cs.dropWhile isBlank =
      trimChars cs ++ ((cs.dropWhile isBlank).reverse.takeWhile isBlank).reverse := by
    rw [trimChars, ← List.reverse_append, back, List.reverse_reverse]
  refine ⟨cs.takeWhile isBlank, ((cs.dropWhile isBlank).reverse.takeWhile isBlank).reverse, ?_, ?_, ?_⟩
  · rw [List.append_assoc, ← rest, front]
  · exact fun c inside => List.mem_takeWhile_imp inside
  · exact fun c inside => List.mem_takeWhile_imp (List.mem_reverse.mp inside)

theorem dropWhile_of_bare {body : List Char} (bare : ∀ c ∈ body, isBlank c = false) :
    body.dropWhile isBlank = body := by
  cases body with
  | nil => rfl
  | cons c rest =>
    have first : isBlank c = false := bare c List.mem_cons_self
    rw [List.dropWhile_cons_of_neg (by simp [first])]

/-- The blanks around what has none are taken away, and no more. -/
theorem trimChars_surrounded {before body after : List Char} (front : ∀ c ∈ before, isBlank c = true)
    (back : ∀ c ∈ after, isBlank c = true) (bare : ∀ c ∈ body, isBlank c = false) (nonempty : body ≠ []) :
    trimChars (before ++ body ++ after) = body := by
  obtain ⟨first, rest, rfl⟩ := List.exists_cons_of_ne_nil nonempty
  have leading : isBlank first = false := bare first List.mem_cons_self
  have led : (before ++ (first :: rest) ++ after).dropWhile isBlank = (first :: rest) ++ after := by
    rw [List.append_assoc, List.dropWhile_append_of_pos front, List.cons_append,
      List.dropWhile_cons_of_neg (by simp [leading])]
  have behind : ∀ c ∈ after.reverse, isBlank c = true := fun c inside => back c (List.mem_reverse.mp inside)
  have reversed : ∀ c ∈ (first :: rest).reverse, isBlank c = false :=
    fun c inside => bare c (List.mem_reverse.mp inside)
  rw [trimChars, led, List.reverse_append, List.dropWhile_append_of_pos behind, dropWhile_of_bare reversed,
    List.reverse_reverse]

theorem isAllBlank_iff {s : String} : isAllBlank s = true ↔ ∀ c ∈ s.toList, isBlank c = true := List.all_eq_true

/-- What is read from a text without its blanks is what it writes. -/
theorem int64?_trimChars_eq_some_iff {s : String} {w : Int64} :
    int64? (trimChars s.toList) = some w ↔ WritesInt64 s w.toInt := by
  constructor
  · intro found
    obtain ⟨n, read, bounded⟩ := Option.bind_eq_some_iff.mp found
    split at bounded
    · rename_i bounds
      obtain rfl : Int64.ofInt n = w := Option.some.inj bounded
      have value : (Int64.ofInt n).toInt = n := Int64.toInt_ofInt_of_le bounds.1 bounds.2
      obtain ⟨before, after, parts, front, back⟩ := exists_surroundings s.toList
      rw [value]
      exact ⟨bounds.1, bounds.2, before, _, after, parts, front, back, integer?_eq_some_iff.mp read⟩
    · cases bounded
  · intro writes
    obtain ⟨before, body, after, parts, front, back, written⟩ := writes.written
    have read : integer? body = some w.toInt := integer?_eq_some_iff.mpr written
    have bounds : -(Int.pow 2 63) ≤ w.toInt ∧ w.toInt < Int.pow 2 63 := ⟨writes.least, writes.greatest⟩
    rw [parts, trimChars_surrounded front back written.bare written.nonempty, int64?, read, Option.bind_some,
      if_pos bounds, Int64.ofInt_toInt]

theorem WritesInt64.not_isAllBlank {s : String} {n : Int} (writes : WritesInt64 s n) : isAllBlank s = false := by
  obtain ⟨before, body, after, parts, -, -, written⟩ := writes.written
  obtain ⟨c, rest, rfl⟩ := List.exists_cons_of_ne_nil written.nonempty
  have inside : c ∈ s.toList := by simp [parts]
  have bare : isBlank c = false := written.bare c List.mem_cons_self
  rw [Bool.eq_false_iff]
  intro blank
  rw [isAllBlank_iff.mp blank c inside] at bare
  cases bare

theorem writesNat_toDigits (n : Nat) : WritesNat (Nat.toDigits 10 n) n where
  nonempty := Nat.toDigits_ne_nil
  digits := fun c inside => by
    have digit : c.isDigit = true := Nat.isDigit_of_mem_toDigits (by decide) (by decide) inside
    exact digit
  value := Nat.ofDigitChars_ten_toDigits

theorem writesInt_toString (n : Int) : WritesInt (toString n).toList n := by
  cases n with
  | ofNat m =>
    have text : (toString (Int.ofNat m)).toList = Nat.toDigits 10 m := Nat.toList_repr
    rw [text]
    exact .plain (writesNat_toDigits m)
  | negSucc m =>
    have text : (toString (Int.negSucc m)).toList = '-' :: Nat.toDigits 10 (m + 1) := by
      rw [Int.toString_eq_repr, Int.repr, String.toList_append, Nat.toList_repr]
      rfl
    rw [text]
    exact .minus (writesNat_toDigits (m + 1))

theorem writesInt64_toString {n : Int} (least : -2 ^ 63 ≤ n) (greatest : n < 2 ^ 63) :
    WritesInt64 (toString n) n :=
  ⟨least, greatest, [], _, [], by simp, nofun, nofun, writesInt_toString n⟩

end TableQuery.Text
