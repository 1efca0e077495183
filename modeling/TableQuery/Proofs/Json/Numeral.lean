import Mathlib.Data.List.TakeWhile
import TableQuery.Json.Reader

set_option autoImplicit false

namespace TableQuery.Json

open Reader

def AreDigits (cs : List Char) : Prop := cs ≠ [] ∧ ∀ c ∈ cs, Text.isDigit c = true

/-- A text does not start with a digit. -/
def EndsDigits (rest : List Char) : Prop := ∀ c ∈ rest.head?, Text.isDigit c = false

/-- The sign of an exponent, which may be left out. -/
def IsSign (sign : List Char) : Prop := sign = [] ∨ sign = ['+'] ∨ sign = ['-']

structure Exponent where
  mark : Char
  sign : List Char
  digits : List Char

namespace Exponent

def text (e : Exponent) : List Char := e.mark :: (e.sign ++ e.digits)

/-- The parts are those of an exponent. -/
structure WellFormed (e : Exponent) : Prop where
  mark : e.mark = 'e' ∨ e.mark = 'E'
  sign : IsSign e.sign
  digits : AreDigits e.digits

def textOf (exponent : Option Exponent) : List Char := (exponent.map text).getD []

/-- What follows goes on neither with the exponent nor, where there is none, with one. -/
def Stops : Option Exponent → List Char → Prop
  | some _, rest => EndsDigits rest
  | none, rest => ∀ c ∈ rest.head?, c ≠ 'e' ∧ c ≠ 'E'

end Exponent

def realOf (negative : Bool) (significand : Nat) (exponent : Int) : Except Error Number :=
  realNumber (Binary64.ofDecimal? negative significand exponent)

/-- The double of a decimal after an exponent: one too large is refused, one too small is zero. -/
def scaled (negative : Bool) (significand : Nat) (shift : Int) (down : Bool) (digits : List Char) :
    Except Error Number :=
  if exponentLimit < Text.digitsValue digits then
    if significand ≠ 0 && !down then refuse .numberTooLarge
    else .ok (.real (Binary64.zero.withSign negative))
  else
    realOf negative significand
      (if down then shift - Text.digitsValue digits else shift + Text.digitsValue digits)

/-- The number of an integer: one that no word holds, and a zero with a sign, is a double. -/
def wholeOf (negative : Bool) (significand left : Nat) : Except Error Number :=
  if left ≠ 0 then realOf negative significand left
  else if !negative then .ok (.integer significand)
  else if significand = 0 ∨ Nat.pow 2 63 < significand then realOf true significand 0
  else .ok (.integer (-significand))

/-- The double of a decimal if an exponent follows, and otherwise a number that is known without one. -/
def powered (negative : Bool) (significand : Nat) (shift : Int) (plain : Except Error Number) :
    Option Exponent → Except Error Number
  | none => plain
  | some e => scaled negative significand shift (e.sign == ['-']) e.digits

structure Numeral where
  negative : Bool
  whole : List Char
  fraction : Option (List Char)
  exponent : Option Exponent

namespace Numeral

def fractionText (fraction : Option (List Char)) : List Char := (fraction.map ('.' :: ·)).getD []

def body (m : Numeral) : List Char := m.whole ++ (fractionText m.fraction ++ Exponent.textOf m.exponent)

def text (m : Numeral) : List Char := if m.negative then '-' :: m.body else m.body

/-- The parts are those of a numeral. -/
structure WellFormed (m : Numeral) : Prop where
  whole : AreDigits m.whole
  noIdleZero : ∀ c rest, m.whole ≠ '0' :: c :: rest
  fraction : ∀ digits ∈ m.fraction, AreDigits digits
  exponent : ∀ e ∈ m.exponent, e.WellFormed

/-- What follows does not go on with the numeral. -/
structure Stops (m : Numeral) (rest : List Char) : Prop where
  digit : EndsDigits rest
  mark : Exponent.Stops m.exponent rest
  point : m.fraction = none → m.exponent = none → ∀ c ∈ rest.head?, c ≠ '.'

/-- The number after a fraction and an exponent, either of which may be left out. -/
def numberWith (negative : Bool) (significand left : Nat) :
    Option (List Char) → Option Exponent → Except Error Number
  | none, exponent => powered negative significand left (wholeOf negative significand left) exponent
  | some digits, exponent =>
    let (longer, taken, _) := absorb significand 0 digits
    powered negative longer ((left : Int) - taken) (realOf negative longer ((left : Int) - taken)) exponent

def number (m : Numeral) : Except Error Number :=
  let (significand, _, left) := absorb 0 0 m.whole
  numberWith m.negative significand left m.fraction m.exponent

end Numeral

section Digits

theorem takeWhile_isDigit {digits rest : List Char} (all : ∀ c ∈ digits, Text.isDigit c = true)
    (ends : EndsDigits rest) :
    (digits ++ rest).takeWhile Text.isDigit = digits ∧ (digits ++ rest).dropWhile Text.isDigit = rest := by
  induction digits with
  | nil =>
    cases rest with
    | nil => exact ⟨rfl, rfl⟩
    | cons c rest => simp [ends c rfl]
  | cons c digits ih =>
    obtain ⟨first, later⟩ := List.forall_mem_cons.mp all
    obtain ⟨taken, dropped⟩ := ih later
    simp [first, taken, dropped]

theorem endsDigits_dropWhile (cs : List Char) : EndsDigits (cs.dropWhile Text.isDigit) := by
  intro c head
  have stops := List.head?_dropWhile_not Text.isDigit cs
  rw [head] at stops
  exact stops

def digitsThen {α : Type} (read : List Char → Reader α) : Reader α := fun cs =>
  match cs.takeWhile Text.isDigit, cs.dropWhile Text.isDigit with
  | [], [] => refuse .endInValue
  | [], _ => refuse .invalidNumber
  | digits, rest => read digits rest

theorem digitsThen_append {α : Type} (read : List Char → Reader α) {digits more : List Char}
    (are : AreDigits digits) (ends : EndsDigits more) : digitsThen read (digits ++ more) = read digits more := by
  obtain ⟨taken, dropped⟩ := takeWhile_isDigit are.2 ends
  unfold digitsThen
  rw [taken, dropped]
  cases digits with
  | nil => exact absurd rfl are.1
  | cons c digits => rfl

/-- What is read on after digits is read after all of them. -/
theorem digitsThen_eq_ok_iff {α : Type} {read : List Char → Reader α} {cs : List Char} {result : α × List Char} :
    digitsThen read cs = .ok result ↔ ∃ digits more, AreDigits digits ∧ EndsDigits more ∧
      cs = digits ++ more ∧ read digits more = .ok result := by
  constructor
  · intro reads
    by_cases none : cs.takeWhile Text.isDigit = []
    · unfold digitsThen at reads
      rw [none] at reads
      cases left : cs.dropWhile Text.isDigit with
      | nil =>
        rw [left] at reads
        cases reads
      | cons c rest =>
        rw [left] at reads
        cases reads
    · have are : AreDigits (cs.takeWhile Text.isDigit) := ⟨none, fun _ inside => List.mem_takeWhile_imp inside⟩
      have ends := endsDigits_dropWhile cs
      have split : cs = cs.takeWhile Text.isDigit ++ cs.dropWhile Text.isDigit :=
        List.takeWhile_append_dropWhile.symm
      rw [split, digitsThen_append read are ends] at reads
      exact ⟨_, _, are, ends, split, reads⟩
  · rintro ⟨digits, more, are, ends, rfl, reads⟩
    rwa [digitsThen_append read are ends]

end Digits

/-- Something is read as a number with the rest where it is that number. -/
theorem map_rest_eq_ok_iff {α : Type} {result : Except Error α} {a : α} {rest more : List Char} :
    result.map (·, more) = .ok (a, rest) ↔ more = rest ∧ result = .ok a := by
  cases result with
  | error e => simp [Except.map]
  | ok b => simp [Except.map, and_comm]

section Exponent

variable {negative : Bool} {significand : Nat} {shift : Int}

def exponentSign : List Char → Bool × List Char
  | '+' :: rest => (false, rest)
  | '-' :: rest => (true, rest)
  | rest => (false, rest)

theorem exponentSign_append {sign digits : List Char} (isSign : IsSign sign) (are : AreDigits digits)
    (more : List Char) : exponentSign (sign ++ (digits ++ more)) = (sign == ['-'], digits ++ more) := by
  rcases isSign with rfl | rfl | rfl
  · cases digits with
    | nil => exact absurd rfl are.1
    | cons c digits =>
      have digit := are.2 c List.mem_cons_self
      unfold exponentSign
      split
      case _ same =>
        rw [(List.cons.inj same).1] at digit
        exact absurd digit (by decide)
      case _ same =>
        rw [(List.cons.inj same).1] at digit
        exact absurd digit (by decide)
      case _ => rfl
  · rfl
  · rfl

theorem exists_exponentSign (cs : List Char) :
    ∃ sign, IsSign sign ∧ cs = sign ++ (exponentSign cs).2 ∧ (exponentSign cs).1 = (sign == ['-']) := by
  unfold exponentSign
  split
  · exact ⟨['+'], .inr (.inl rfl), rfl, rfl⟩
  · exact ⟨['-'], .inr (.inr rfl), rfl, rfl⟩
  · exact ⟨[], .inl rfl, rfl, rfl⟩

theorem exponentPart_eq (negative : Bool) (significand : Nat) (shift : Int) (cs : List Char) :
    exponentPart negative significand shift cs =
      digitsThen (fun digits rest => (scaled negative significand shift (exponentSign cs).1 digits).map (·, rest))
        (exponentSign cs).2 := by
  have apart (digits rest : List Char) :
      (scaled negative significand shift (exponentSign cs).1 digits).map (·, rest) =
        if exponentLimit < Text.digitsValue digits then
          if significand ≠ 0 && !(exponentSign cs).1 then refuse .numberTooLarge
          else .ok (.real (Binary64.zero.withSign negative), rest)
        else
          real negative significand
            (if (exponentSign cs).1 then shift - Text.digitsValue digits
              else shift + Text.digitsValue digits) rest := by
    unfold scaled
    split_ifs <;> rfl
  simp only [apart]
  rfl

theorem exponentPart_eq_ok_iff {cs rest : List Char} {n : Number} :
    exponentPart negative significand shift cs = .ok (n, rest) ↔
      ∃ sign digits, IsSign sign ∧ AreDigits digits ∧ EndsDigits rest ∧ cs = sign ++ (digits ++ rest) ∧
        scaled negative significand shift (sign == ['-']) digits = .ok n := by
  rw [exponentPart_eq]
  constructor
  · intro reads
    obtain ⟨sign, isSign, split, down⟩ := exists_exponentSign cs
    obtain ⟨digits, more, are, ends, after, result⟩ := digitsThen_eq_ok_iff.mp reads
    obtain ⟨rfl, value⟩ := map_rest_eq_ok_iff.mp result
    rw [after] at split
    rw [down] at value
    exact ⟨sign, digits, isSign, are, ends, split, value⟩
  · rintro ⟨sign, digits, isSign, are, ends, rfl, value⟩
    rw [exponentSign_append isSign are, digitsThen_append _ are ends, value]
    rfl

/-- Reads an exponent if there is one, and otherwise stays where it is. -/
def exponentTail (negative : Bool) (significand : Nat) (shift : Int) (plain : Except Error Number) :
    Reader Number
  | 'e' :: rest => exponentPart negative significand shift rest
  | 'E' :: rest => exponentPart negative significand shift rest
  | rest => plain.map (·, rest)

theorem exponentTail_mark {mark : Char} (isMark : mark = 'e' ∨ mark = 'E') (plain : Except Error Number)
    (cs : List Char) : exponentTail negative significand shift plain (mark :: cs) =
      exponentPart negative significand shift cs := by
  rcases isMark with rfl | rfl
  · rfl
  · rfl

theorem exponentTail_of_stops (plain : Except Error Number) {rest : List Char} (stops : Exponent.Stops none rest) :
    exponentTail negative significand shift plain rest = plain.map (·, rest) := by
  unfold exponentTail
  split
  · exact absurd rfl (stops 'e' rfl).1
  · exact absurd rfl (stops 'E' rfl).2
  · rfl

theorem exponentTail_eq_ok_iff {plain : Except Error Number} {cs rest : List Char} {n : Number} :
    exponentTail negative significand shift plain cs = .ok (n, rest) ↔
      ∃ exponent : Option Exponent, (∀ e ∈ exponent, e.WellFormed) ∧ Exponent.Stops exponent rest ∧
        cs = Exponent.textOf exponent ++ rest ∧ powered negative significand shift plain exponent = .ok n := by
  have marked {mark : Char} (isMark : mark = 'e' ∨ mark = 'E') {cs : List Char}
      (reads : exponentPart negative significand shift cs = .ok (n, rest)) :
      ∃ exponent : Option Exponent, (∀ e ∈ exponent, e.WellFormed) ∧ Exponent.Stops exponent rest ∧
        mark :: cs = Exponent.textOf exponent ++ rest ∧
        powered negative significand shift plain exponent = .ok n := by
    obtain ⟨sign, digits, isSign, are, ends, rfl, value⟩ := exponentPart_eq_ok_iff.mp reads
    refine ⟨some ⟨mark, sign, digits⟩, ?_, ends, ?_, value⟩
    · rintro e ⟨⟩
      exact ⟨isMark, isSign, are⟩
    · simp [Exponent.textOf, Exponent.text]
  constructor
  · intro reads
    unfold exponentTail at reads
    split at reads
    · exact marked (.inl rfl) reads
    · exact marked (.inr rfl) reads
    case _ noSmall noLarge =>
      obtain ⟨rfl, value⟩ := map_rest_eq_ok_iff.mp reads
      refine ⟨none, nofun, ?_, rfl, value⟩
      intro c head
      cases cs with
      | nil => cases head
      | cons first more =>
        cases head
        exact ⟨fun same => noSmall more (congrArg (· :: more) same),
          fun same => noLarge more (congrArg (· :: more) same)⟩
  · rintro ⟨exponent, wellFormed, stops, rfl, value⟩
    cases exponent with
    | none => exact (exponentTail_of_stops plain stops).trans (map_rest_eq_ok_iff.mpr ⟨rfl, value⟩)
    | some e =>
      obtain ⟨isMark, isSign, are⟩ := wellFormed e rfl
      have text : Exponent.textOf (some e) ++ rest = e.mark :: (e.sign ++ (e.digits ++ rest)) := by
        simp [Exponent.textOf, Exponent.text]
      rw [text, exponentTail_mark isMark]
      exact exponentPart_eq_ok_iff.mpr ⟨e.sign, e.digits, isSign, are, stops, rfl, value⟩

theorem forall_head?_textOf_append {exponent : Option Exponent} (wellFormed : ∀ e ∈ exponent, e.WellFormed)
    (allowed : Char → Prop) (small : allowed 'e') (large : allowed 'E') {rest : List Char}
    (plain : exponent = none → ∀ c ∈ rest.head?, allowed c) :
    ∀ c ∈ (Exponent.textOf exponent ++ rest).head?, allowed c := by
  cases exponent with
  | none => exact plain rfl
  | some e =>
    intro c head
    cases head
    rcases (wellFormed e rfl).mark with mark | mark
    · rwa [mark]
    · rwa [mark]

theorem endsDigits_textOf_append {exponent : Option Exponent} (wellFormed : ∀ e ∈ exponent, e.WellFormed)
    {rest : List Char} (ends : EndsDigits rest) : EndsDigits (Exponent.textOf exponent ++ rest) :=
  forall_head?_textOf_append wellFormed (Text.isDigit · = false) rfl rfl fun _ => ends

/-- After an exponent no digit follows, and none after the text before it where there is no exponent. -/
theorem endsDigits_of_stops {exponent : Option Exponent} {rest : List Char}
    (stops : Exponent.Stops exponent rest) (ends : EndsDigits (Exponent.textOf exponent ++ rest)) :
    EndsDigits rest := by
  cases exponent with
  | none => exact ends
  | some e => exact stops

end Exponent

section Parts

variable {negative : Bool}

theorem fractionPart_eq (negative : Bool) (significand : Nat) (shift : Int) :
    fractionPart negative significand shift = digitsThen fun digits =>
      exponentTail negative (absorb significand 0 digits).1 (shift - (absorb significand 0 digits).2.1)
        (realOf negative (absorb significand 0 digits).1 (shift - (absorb significand 0 digits).2.1)) := rfl

theorem fractionPart_eq_ok_iff {significand left : Nat} {cs rest : List Char} {n : Number} :
    fractionPart negative significand left cs = .ok (n, rest) ↔
      ∃ (digits : List Char) (exponent : Option Exponent), AreDigits digits ∧ (∀ e ∈ exponent, e.WellFormed) ∧
        EndsDigits rest ∧ Exponent.Stops exponent rest ∧ cs = digits ++ (Exponent.textOf exponent ++ rest) ∧
        Numeral.numberWith negative significand left (some digits) exponent = .ok n := by
  rw [fractionPart_eq]
  constructor
  · intro reads
    obtain ⟨digits, more, are, ends, split, tail⟩ := digitsThen_eq_ok_iff.mp reads
    obtain ⟨exponent, wellFormed, stops, rfl, value⟩ := exponentTail_eq_ok_iff.mp tail
    exact ⟨digits, exponent, are, wellFormed, endsDigits_of_stops stops ends, stops, split, value⟩
  · rintro ⟨digits, exponent, are, wellFormed, ends, stops, rfl, value⟩
    rw [digitsThen_append _ are (endsDigits_textOf_append wellFormed ends)]
    exact exponentTail_eq_ok_iff.mpr ⟨exponent, wellFormed, stops, rfl, value⟩

theorem wholeNumber_eq (negative : Bool) (significand left : Nat) (rest : List Char) :
    wholeNumber negative significand left rest = (wholeOf negative significand left).map (·, rest) := by
  unfold wholeNumber wholeOf
  split_ifs <;> rfl

/-- Reads what follows the integer of a numeral: a fraction, an exponent or neither. -/
def wholeTail (negative : Bool) (significand left : Nat) : Reader Number
  | '.' :: rest => fractionPart negative significand left rest
  | rest => exponentTail negative significand left (wholeOf negative significand left) rest

theorem wholeTail_eq (negative : Bool) (significand left : Nat) (cs : List Char) :
    wholeTail negative significand left cs = match cs with
      | '.' :: rest => fractionPart negative significand left rest
      | 'e' :: rest => exponentPart negative significand left rest
      | 'E' :: rest => exponentPart negative significand left rest
      | rest => wholeNumber negative significand left rest := by
  simp only [wholeNumber_eq]
  unfold wholeTail
  split
  · rfl
  · unfold exponentTail
    split
    · rfl
    · rfl
    · simp_all

/-- What follows the integer of a numeral starts with neither a point nor, but for an exponent, a mark. -/
theorem wholeTail_of_ne_point {significand left : Nat} {cs : List Char} (noPoint : ∀ c ∈ cs.head?, c ≠ '.') :
    wholeTail negative significand left cs =
      exponentTail negative significand left (wholeOf negative significand left) cs := by
  unfold wholeTail
  split
  · exact absurd rfl (noPoint '.' rfl)
  · rfl

theorem number_eq (negative : Bool) (cs : List Char) :
    number negative cs = digitsThen (fun digits more =>
      if digits.head? = some '0' ∧ digits.tail ≠ [] then refuse .invalidNumber
      else wholeTail negative (absorb 0 0 digits).1 (absorb 0 0 digits).2.2 more) cs := by
  simp only [wholeTail_eq]
  unfold number digitsThen
  cases cs.takeWhile Text.isDigit with
  | nil =>
    cases cs.dropWhile Text.isDigit with
    | nil => rfl
    | cons c rest => rfl
  | cons c digits =>
    by_cases zero : c = '0'
    · rw [zero]
      cases digits with
      | nil => rfl
      | cons d digits => rfl
    · have noZero : ¬((c :: digits).head? = some '0' ∧ (c :: digits).tail ≠ []) := by simp [zero]
      refine Eq.trans ?_ (if_neg noZero).symm
      split
      case _ none _ => cases none
      case _ none _ => cases none
      case _ idle => exact absurd (List.cons.inj idle).1 zero
      case _ => rfl

/-- An integer with an idle zero starts with a zero that is not all of it. -/
theorem idle_iff {digits : List Char} :
    (digits.head? = some '0' ∧ digits.tail ≠ []) ↔ ∃ c rest, digits = '0' :: c :: rest := by
  constructor
  · rintro ⟨zero, more⟩
    obtain ⟨rest, rfl⟩ := List.head?_eq_some_iff.mp zero
    cases rest with
    | nil => exact absurd rfl more
    | cons c rest => exact ⟨c, rest, rfl⟩
  · rintro ⟨c, rest, rfl⟩
    exact ⟨rfl, List.cons_ne_nil c rest⟩

/-- A number is read after its sign where the text goes on with a numeral, as far as this numeral goes. -/
theorem number_eq_ok_iff {cs rest : List Char} {n : Number} :
    number negative cs = .ok (n, rest) ↔
      ∃ m : Numeral, m.WellFormed ∧ m.negative = negative ∧ m.Stops rest ∧ cs = m.body ++ rest ∧
        m.number = .ok n := by
  rw [number_eq]
  constructor
  · intro reads
    obtain ⟨digits, more, are, ends, rfl, tail⟩ := digitsThen_eq_ok_iff.mp reads
    by_cases idle : digits.head? = some '0' ∧ digits.tail ≠ []
    · rw [if_pos idle] at tail
      cases tail
    rw [if_neg idle] at tail
    have noIdleZero (c : Char) (rest : List Char) (same : digits = '0' :: c :: rest) : False :=
      idle (idle_iff.mpr ⟨c, rest, same⟩)
    by_cases point : more.head? = some '.'
    · obtain ⟨after, rfl⟩ := List.head?_eq_some_iff.mp point
      obtain ⟨fraction, exponent, areFraction, wellFormed, last, stops, rfl, value⟩ :=
        fractionPart_eq_ok_iff.mp tail
      refine ⟨⟨negative, digits, some fraction, exponent⟩, ⟨are, noIdleZero, ?_, wellFormed⟩, rfl,
        ⟨last, stops, nofun⟩, ?_, value⟩
      · rintro _ ⟨⟩
        exact areFraction
      · simp [Numeral.body, Numeral.fractionText]
    · have noPoint : ∀ c ∈ more.head?, c ≠ '.' := by
        rintro c head rfl
        exact point head
      rw [wholeTail_of_ne_point noPoint] at tail
      obtain ⟨exponent, wellFormed, stops, rfl, value⟩ := exponentTail_eq_ok_iff.mp tail
      refine ⟨⟨negative, digits, none, exponent⟩, ⟨are, noIdleZero, nofun, wellFormed⟩, rfl,
        ⟨endsDigits_of_stops stops ends, stops, ?_⟩, ?_, value⟩
      · rintro - rfl
        exact noPoint
      · simp [Numeral.body, Numeral.fractionText]
  · rintro ⟨⟨sign, digits, fraction, exponent⟩, ⟨are, noIdleZero, areFraction, wellFormed⟩, rfl,
      ⟨ends, stops, point⟩, rfl, value⟩
    have notIdle : ¬(digits.head? = some '0' ∧ digits.tail ≠ []) := by
      intro idle
      obtain ⟨c, rest, same⟩ := idle_iff.mp idle
      exact noIdleZero c rest same
    cases fraction with
    | none =>
      have split : (Numeral.mk sign digits none exponent).body ++ rest =
          digits ++ (Exponent.textOf exponent ++ rest) := by simp [Numeral.body, Numeral.fractionText]
      have noPoint := forall_head?_textOf_append wellFormed (· ≠ '.') (by decide) (by decide) (point rfl)
      rw [split, digitsThen_append _ are (endsDigits_textOf_append wellFormed ends), if_neg notIdle,
        wholeTail_of_ne_point noPoint]
      exact exponentTail_eq_ok_iff.mpr ⟨exponent, wellFormed, stops, rfl, value⟩
    | some fraction =>
      have split : (Numeral.mk sign digits (some fraction) exponent).body ++ rest =
          digits ++ '.' :: (fraction ++ (Exponent.textOf exponent ++ rest)) := by
        simp [Numeral.body, Numeral.fractionText]
      have point : EndsDigits ('.' :: (fraction ++ (Exponent.textOf exponent ++ rest))) := by
        rintro _ ⟨⟩
        rfl
      rw [split, digitsThen_append _ are point, if_neg notIdle]
      exact fractionPart_eq_ok_iff.mpr
        ⟨fraction, exponent, areFraction fraction rfl, wellFormed, ends, stops, rfl, value⟩

end Parts

end TableQuery.Json
