import TableQuery.Json.Reader

set_option autoImplicit false

namespace TableQuery.Json

open Reader

def paired (first second : Nat) : Char := Char.ofNat (0x10000 + (first - 0xd800) * 0x400 + (second - 0xdc00))

/-- Characters inside a quoted string that stand for one character. -/
inductive Spells : List Char → Char → Prop
  | plain {c : Char} (printable : 0x20 ≤ c.toNat) (noQuote : c ≠ '"') (noEscape : c ≠ '\\') : Spells [c] c
  | escape {letter c : Char} (stands : simpleEscape? letter = some c) : Spells ['\\', letter] c
  | code {a b c d : Char} {code : Nat} (digits : hex4? a b c d = some code) (alone : isTrailing code = false)
      (single : isLeading code = false) : Spells ['\\', 'u', a, b, c, d] (Char.ofNat code)
  | pair {a b c d e f g h : Char} {first second : Nat} (digits : hex4? a b c d = some first)
      (leads : isLeading first = true) (further : hex4? e f g h = some second)
      (trails : isTrailing second = true) :
      Spells ['\\', 'u', a, b, c, d, '\\', 'u', e, f, g, h] (paired first second)

/-- The text between the quotes of a string. -/
inductive SpellsAll : List Char → List Char → Prop
  | nil : SpellsAll [] []
  | cons {piece text spelled : List Char} {c : Char} (first : Spells piece c) (rest : SpellsAll text spelled) :
      SpellsAll (piece ++ text) (c :: spelled)

theorem isTrailing_of_isLeading {code : Nat} (leads : isLeading code = true) : isTrailing code = false := by
  simp only [isLeading, isTrailing, Bool.and_eq_true, Bool.and_eq_false_iff, decide_eq_true_eq,
    decide_eq_false_iff_not] at leads ⊢
  omega

/-- The letter of a long escape is that of no short one. -/
theorem ne_u_of_simpleEscape? {letter c : Char} (stands : simpleEscape? letter = some c) : letter ≠ 'u' := by
  rintro rfl
  cases stands

theorem stringBody_spells {piece : List Char} {c : Char} (spells : Spells piece c) (done rest : List Char) :
    stringBody done (piece ++ rest) = stringBody (c :: done) rest := by
  cases spells with
  | plain printable noQuote noEscape =>
    have lower : ¬ c.toNat < 0x20 := by omega
    rw [List.singleton_append, stringBody]
    · rw [if_neg lower]
    all_goals simp_all
  | escape stands =>
    have different := ne_u_of_simpleEscape? stands
    rw [List.cons_append, List.cons_append, List.nil_append, stringBody]
    · rw [stands]
    all_goals simp_all
  | code digits alone single =>
    simp only [List.cons_append, List.nil_append, stringBody, digits, alone, single, Bool.false_eq_true,
      ↓reduceIte]
  | pair digits leads further trails =>
    have alone := isTrailing_of_isLeading leads
    simp only [List.cons_append, List.nil_append, stringBody, digits, alone, leads, further, trails,
      Bool.false_eq_true, ↓reduceIte, paired]

theorem stringBody_of_spellsAll {text spelled : List Char} (spells : SpellsAll text spelled)
    (done rest : List Char) : stringBody done (text ++ '"' :: rest) = .ok (done.reverse ++ spelled, rest) := by
  induction spells generalizing done with
  | nil => simp [stringBody]
  | cons first later ih => simp [stringBody_spells first, ih]

/-- What is left to read after a character of a string, with that character before it. -/
theorem exists_spellsAll_cons {piece cs done body rest : List Char} {c : Char} (spells : Spells piece c)
    (later : ∃ text spelled, cs = text ++ '"' :: rest ∧ body = (c :: done).reverse ++ spelled ∧
      SpellsAll text spelled) :
    ∃ text spelled, piece ++ cs = text ++ '"' :: rest ∧ body = done.reverse ++ spelled ∧
      SpellsAll text spelled := by
  obtain ⟨text, spelled, rfl, rfl, all⟩ := later
  exact ⟨piece ++ text, c :: spelled, by simp, by simp, .cons spells all⟩

theorem exists_spellsAll {cs done body rest : List Char} (reads : stringBody done cs = .ok (body, rest)) :
    ∃ text spelled, cs = text ++ '"' :: rest ∧ body = done.reverse ++ spelled ∧ SpellsAll text spelled := by
  fun_induction stringBody done cs
  all_goals try cases reads
  case case2.refl => exact ⟨[], [], rfl, (List.append_nil _).symm, .nil⟩
  case case8 digits _ leads _ _ _ _ _ _ further trails ih =>
    exact exists_spellsAll_cons (.pair digits leads further trails) (ih reads)
  case case12 digits alone single ih =>
    exact exists_spellsAll_cons (.code digits (eq_false_of_ne_true alone)
      (eq_false_of_ne_true single)) (ih reads)
  case case14 stands ih => exact exists_spellsAll_cons (.escape stands) (ih reads)
  case case18 first after noQuote _ _ more none printable ih =>
    have noEscape : first ≠ '\\' := by
      intro backslash
      cases after with
      | nil => exact none backslash rfl
      | cons next others => exact more next others backslash rfl
    exact exists_spellsAll_cons (.plain (Nat.le_of_not_lt printable) noQuote noEscape) (ih reads)

theorem stringRest_eq_ok_iff {cs rest : List Char} {s : String} :
    stringRest cs = .ok (s, rest) ↔ ∃ text, cs = text ++ '"' :: rest ∧ SpellsAll text s.toList := by
  unfold stringRest
  constructor
  · intro reads
    cases read : stringBody [] cs with
    | error e =>
      rw [read] at reads
      cases reads
    | ok result =>
      obtain ⟨text, spelled, split, same, all⟩ := exists_spellsAll read
      rw [read] at reads
      cases reads
      refine ⟨text, split, ?_⟩
      simpa [same] using all
  · rintro ⟨text, rfl, all⟩
    rw [stringBody_of_spellsAll all]
    simp [Except.map]

/-- Characters that are each written in a way that stands for them spell themselves. -/
theorem spellsAll_flatMap {write : Char → List Char} {cs : List Char} (each : ∀ c ∈ cs, Spells (write c) c) :
    SpellsAll (cs.flatMap write) cs := by
  induction cs with
  | nil => exact .nil
  | cons c rest ih =>
    obtain ⟨first, later⟩ := List.forall_mem_cons.mp each
    exact .cons first (ih later)

theorem hexDigit?_digitChar : ∀ n < 16, Unicode.hexDigit? n.digitChar = some n := by decide

theorem hexNumber?_hex4 {code : Nat} (small : code < 0x10000) : Unicode.hexNumber? (hex4 code) = some code := by
  have digit (n : Nat) : Unicode.hexDigit? (n % 16).digitChar = some (n % 16) :=
    hexDigit?_digitChar _ (Nat.mod_lt n (by decide))
  have value : 16 * (16 * (16 * (16 * 0 + code / 4096 % 16) + code / 256 % 16) + code / 16 % 16) + code % 16 =
      code := by omega
  simp only [Unicode.hexNumber?, hex4, List.map_cons, List.map_nil, List.foldl_cons, List.foldl_nil,
    Option.bind_some, digit, Option.map_some, value]

theorem spells_hex4 {c : Char} (below : c.toNat < 0xd800) : Spells ('\\' :: 'u' :: hex4 c.toNat) c := by
  have number := hexNumber?_hex4 (show c.toNat < 0x10000 by omega)
  have alone : isTrailing c.toNat = false := by
    simp only [isTrailing, Bool.and_eq_false_iff, decide_eq_false_iff_not]
    omega
  have single : isLeading c.toNat = false := by
    simp only [isLeading, Bool.and_eq_false_iff, decide_eq_false_iff_not]
    omega
  have spells := Spells.code number alone single
  rwa [Char.ofNat_toNat] at spells

end TableQuery.Json
