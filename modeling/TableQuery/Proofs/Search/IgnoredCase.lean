import Mathlib.Data.List.Forall2
import TableQuery.Proofs.Search.Keyword
import TableQuery.Proofs.Unicode.Case

set_option autoImplicit false

namespace TableQuery

open Regex (Piece)
open Regex.Piece (Cover)
open Unicode (combiningDot caseVariants)

def SearchPattern.finds (fits : Regex Regex.Atom → Bool) (p : SearchPattern) (text : String) : Bool :=
  match p.compileWithin fits with
  | .ok r => r.occursIn text.toList
  | .error _ => false

/-- A keyword is found where its pieces cover a part of the text, or all of it, unless its pattern is refused. -/
theorem finds_keywordPattern_iff {fits : Regex Regex.Atom → Bool} {keyword text : String} {ignoreCase wildcard smart : Bool} :
    (keywordPattern keyword ignoreCase wildcard smart).finds fits text = true ↔
      (keywordPattern keyword ignoreCase wildcard smart).isOversized fits = false ∧
        HoldsWithin smart (Cover ignoreCase (keywordPieces ignoreCase wildcard keyword.toList)) text.toList := by
  cases size : (keywordPattern keyword ignoreCase wildcard smart).isOversized fits with
  | false =>
    obtain ⟨r, compiled, occurs⟩ := compile_keywordPattern size
    rw [SearchPattern.finds, compiled]
    exact (occurs text.toList).trans (and_iff_right rfl).symm
  | true =>
    obtain ⟨r, read, large⟩ := (Option.any_eq_true _ _).mp size
    have refused : (keywordPattern keyword ignoreCase wildcard smart).compileWithin fits =
        .error (.pattern (keywordPattern keyword ignoreCase wildcard smart).source SearchPattern.oversized) := by
      rw [SearchPattern.compileWithin, read]
      exact if_neg (by simpa using large)
    rw [SearchPattern.finds, refused]
    refine iff_of_false Bool.false_ne_true fun given => ?_
    cases given.1

/-- A piece that takes, where case is ignored, at least what another takes with regard to case. -/
inductive Loosens : Piece → Piece → Prop where
  | literal {c lower : Char} : lower ∈ caseVariants c → Loosens (.literal c) (.literal lower)
  | any : Loosens .any .any
  | run : Loosens .run .run

theorem Loosens.takes {p q : Piece} (loosens : Loosens p q) {part : List Char} (takes : p.Takes false part) :
    q.Takes true part := by
  cases loosens with
  | literal variant =>
    obtain rfl := takes_literal_iff.mp takes
    refine ⟨_, rfl, List.any_eq_true.mpr ⟨_, variant, ?_⟩⟩
    exact Piece.contains_single_iff.mpr rfl
  | any => exact takes
  | run => exact takes

theorem Cover.loosened {pieces looser : List Piece} (loosens : List.Forall₂ Loosens pieces looser)
    {text : List Char} (cover : Cover false pieces text) : Cover true looser text := by
  induction loosens generalizing text with
  | nil => exact cover
  | cons first _ ih =>
    obtain ⟨part, others, takes, cover, rfl⟩ := cover
    exact ⟨part, others, first.takes takes, ih cover, rfl⟩

theorem loosens_literalPieces {cs : List Char} (undotted : 'İ' ∉ cs) :
    List.Forall₂ Loosens (literalPieces false cs) (literalPieces true cs) := by
  have variants := Unicode.forall₂_toLower undotted
  refine List.forall₂_map_left_iff.mpr (List.forall₂_map_right_iff.mpr ?_)
  exact variants.imp fun _ _ variant => .literal variant

theorem loosens_wildcardPieces {run cs : List Char} (undotted : 'İ' ∉ run) (undotted_rest : 'İ' ∉ cs) :
    List.Forall₂ Loosens (wildcardPieces false run cs) (wildcardPieces true run cs) := by
  induction cs generalizing run with
  | nil => exact loosens_literalPieces fun member => undotted (List.mem_reverse.mp member)
  | cons c rest ih =>
    have undotted_run := loosens_literalPieces fun member => undotted (List.mem_reverse.mp member)
    obtain ⟨first, undotted_rest⟩ := List.ne_and_not_mem_of_not_mem_cons undotted_rest
    have others := ih List.not_mem_nil undotted_rest
    rw [wildcardPieces, wildcardPieces]
    rcases wildcardPiece?_cases c with ⟨_, star⟩ | ⟨_, question⟩ | ⟨_, _, plain⟩
    · rw [star]
      exact List.rel_append undotted_run (.cons .run others)
    · rw [question]
      exact List.rel_append undotted_run (.cons .any others)
    · rw [plain]
      exact ih (List.not_mem_cons_of_ne_of_not_mem first undotted) undotted_rest

theorem loosens_keywordPieces {keyword : List Char} (undotted : 'İ' ∉ keyword) (wildcard : Bool) :
    List.Forall₂ Loosens (keywordPieces false wildcard keyword) (keywordPieces true wildcard keyword) := by
  cases wildcard with
  | false => exact loosens_literalPieces undotted
  | true => exact loosens_wildcardPieces List.not_mem_nil undotted

theorem count_combiningDot_of_cover {pieces : List Piece} {text : List Char} (cover : Cover true pieces text) :
    pieces.count (.literal combiningDot) ≤ text.count combiningDot := by
  have single {p : Piece} {part : List Char} (takes : p.Takes true part) :
      [p].count (.literal combiningDot) ≤ part.count combiningDot := by
    by_cases dot : p = .literal combiningDot
    · subst dot
      obtain ⟨d, rfl, fits⟩ := takes
      obtain ⟨variant, member, same⟩ := List.any_eq_true.mp fits
      obtain rfl := Piece.contains_single_iff.mp same
      rw [(Unicode.combiningDot_mem_caseVariants_iff d).mp member]
      decide
    · rw [List.count_eq_zero_of_not_mem fun member => dot (List.mem_singleton.mp member).symm]
      exact Nat.zero_le _
  induction pieces generalizing text with
  | nil => exact Nat.zero_le _
  | cons p pieces ih =>
    obtain ⟨part, others, takes, cover, rfl⟩ := cover
    have split : p :: pieces = [p] ++ pieces := rfl
    rw [split, List.count_append, List.count_append]
    exact Nat.add_le_add (single takes) (ih cover)

theorem count_combiningDot_literalPieces (cs : List Char) :
    (literalPieces true cs).count (.literal combiningDot) = cs.count combiningDot + cs.count 'İ' := by
  have injective : Function.Injective Piece.literal := fun _ _ same => Piece.literal.inj same
  rw [literalPieces, if_pos rfl, List.count_map_of_injective _ _ injective]
  exact Unicode.count_combiningDot_toLower cs

theorem count_combiningDot_wildcardPieces (run cs : List Char) :
    (wildcardPieces true run cs).count (.literal combiningDot) =
      (run.count combiningDot + run.count 'İ') + (cs.count combiningDot + cs.count 'İ') := by
  induction cs generalizing run with
  | nil =>
    rw [wildcardPieces, count_combiningDot_literalPieces, List.count_reverse, List.count_reverse]
    rfl
  | cons c rest ih =>
    have counted := count_combiningDot_literalPieces run.reverse
    rw [List.count_reverse, List.count_reverse] at counted
    have others := (ih []).trans (Nat.zero_add _)
    rw [wildcardPieces]
    rcases wildcardPiece?_cases c with ⟨rfl, star⟩ | ⟨rfl, question⟩ | ⟨_, _, plain⟩
    · have asks_none : Piece.run ≠ .literal combiningDot := by decide
      have holds_none : '*' ≠ combiningDot ∧ '*' ≠ 'İ' := by decide
      rw [star, List.count_append, counted, List.count_cons_of_ne asks_none, others,
        List.count_cons_of_ne holds_none.1, List.count_cons_of_ne holds_none.2]
    · have asks_none : Piece.any ≠ .literal combiningDot := by decide
      have holds_none : '?' ≠ combiningDot ∧ '?' ≠ 'İ' := by decide
      rw [question, List.count_append, counted, List.count_cons_of_ne asks_none, others,
        List.count_cons_of_ne holds_none.1, List.count_cons_of_ne holds_none.2]
    · rw [plain]
      refine (ih (c :: run)).trans ?_
      rw [List.count_cons, List.count_cons, List.count_cons, List.count_cons]
      omega

/-- A keyword asks for all its dots above letters, and for one more for every capital I with a dot. -/
theorem count_combiningDot_keywordPieces (keyword : List Char) (wildcard : Bool) :
    (keywordPieces true wildcard keyword).count (.literal combiningDot) =
      keyword.count combiningDot + keyword.count 'İ' := by
  cases wildcard with
  | false => exact count_combiningDot_literalPieces keyword
  | true => exact (count_combiningDot_wildcardPieces [] keyword).trans (Nat.zero_add _)

theorem keywordMatches_self (keyword : List Char) (wildcard smart : Bool) :
    KeywordMatches keyword keyword wildcard smart := by
  have glob : Glob keyword keyword := by
    induction keyword with
    | nil => exact .nil
    | cons c keyword ih =>
      by_cases star : c = '*'
      · subst star
        have run : '\n' ∉ ['*'] := by decide
        exact .star run ih
      · by_cases question : c = '?'
        · subst question
          exact .question (by decide) ih
        · exact .literal star question ih
  cases wildcard with
  | false =>
    cases smart with
    | false => rfl
    | true => exact List.infix_rfl
  | true =>
    cases smart with
    | false => exact glob
    | true => exact ⟨keyword, List.infix_rfl, glob⟩

theorem undotted_of_holdsWithin {keyword : List Char} {wildcard smart : Bool}
    (holds : HoldsWithin smart (Cover true (keywordPieces true wildcard keyword)) keyword) : 'İ' ∉ keyword := by
  have part_covered : ∃ part, part <:+: keyword ∧ Cover true (keywordPieces true wildcard keyword) part := by
    cases smart with
    | false => exact ⟨keyword, List.infix_rfl, holds⟩
    | true => exact holds
  obtain ⟨part, inside, cover⟩ := part_covered
  have asked := count_combiningDot_of_cover cover
  have held := inside.sublist.count_le combiningDot
  rw [count_combiningDot_keywordPieces] at asked
  exact List.count_eq_zero.mp (by omega)

/--
Ignoring case finds all that is found with regard to case, a field equal to the keyword among it, just where
the keyword has no capital I with a dot. A pattern that compiles to too much finds nothing.
-/
theorem ignoring_case_finds_more_iff (fits : Regex Regex.Atom → Bool) (keyword : String) (wildcard smart : Bool) :
    ((∀ text, (keywordPattern keyword false wildcard smart).finds fits text = true →
        (keywordPattern keyword true wildcard smart).finds fits text = true) ↔
      (keywordPattern keyword false wildcard smart).isOversized fits = true ∨
        (keywordPattern keyword true wildcard smart).isOversized fits = false ∧ 'İ' ∉ keyword.toList) ∧
    ((keywordPattern keyword true wildcard smart).finds fits keyword = true ↔
      (keywordPattern keyword true wildcard smart).isOversized fits = false ∧ 'İ' ∉ keyword.toList) := by
  have itself : HoldsWithin smart (Cover false (keywordPieces false wildcard keyword.toList)) keyword.toList :=
    (holdsWithin_cover_iff ..).mpr (keywordMatches_self ..)
  have more (undotted : 'İ' ∉ keyword.toList) (text : List Char)
      (found : HoldsWithin smart (Cover false (keywordPieces false wildcard keyword.toList)) text) :
      HoldsWithin smart (Cover true (keywordPieces true wildcard keyword.toList)) text :=
    found.imp fun _ => Cover.loosened (loosens_keywordPieces undotted wildcard)
  have finds_itself_iff : (keywordPattern keyword true wildcard smart).finds fits keyword = true ↔
      (keywordPattern keyword true wildcard smart).isOversized fits = false ∧ 'İ' ∉ keyword.toList := by
    rw [finds_keywordPattern_iff, and_congr_right_iff]
    exact fun _ => ⟨undotted_of_holdsWithin, fun undotted => more undotted _ itself⟩
  refine ⟨⟨fun more_found => ?_, fun given text found => ?_⟩, finds_itself_iff⟩
  · cases size : (keywordPattern keyword false wildcard smart).isOversized fits with
    | true => exact Or.inl rfl
    | false =>
      have found := more_found keyword (finds_keywordPattern_iff.mpr ⟨size, itself⟩)
      exact Or.inr (finds_itself_iff.mp found)
  · obtain ⟨small, found⟩ := finds_keywordPattern_iff.mp found
    rcases given with large | ⟨small_ignoring, undotted⟩
    · cases small.symm.trans large
    · exact finds_keywordPattern_iff.mpr ⟨small_ignoring, more undotted _ found⟩

set_option maxRecDepth 100000 in
/-- A capital I with a dot is not found in itself when case is ignored. -/
theorem dotted_capital_lost : (keywordPattern "İ" false false false).finds Regex.fits "İ" = true ∧
    (keywordPattern "İ" true false false).finds Regex.fits "İ" = false := by
  decide +kernel

end TableQuery
