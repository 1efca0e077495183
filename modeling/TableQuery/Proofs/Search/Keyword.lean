import TableQuery.Proofs.Regex.Pieces
import TableQuery.Search.Pattern

set_option autoImplicit false

namespace TableQuery

open Regex (Piece)
open Regex.Piece (Cover)

/-- Literal text in pieces, in lower case where case is ignored. -/
def literalPieces (ignoreCase : Bool) (cs : List Char) : List Piece :=
  (if ignoreCase then Unicode.toLower cs else cs).map .literal

def wildcardPiece? : Char → Option Piece
  | '*' => some .run
  | '?' => some .any
  | _ => none

/-- A keyword with wildcards in pieces; `run` holds the literal text since the last one, reversed. -/
def wildcardPieces (ignoreCase : Bool) (run : List Char) : List Char → List Piece
  | [] => literalPieces ignoreCase run.reverse
  | c :: rest =>
    match wildcardPiece? c with
    | some piece => literalPieces ignoreCase run.reverse ++ piece :: wildcardPieces ignoreCase [] rest
    | none => wildcardPieces ignoreCase (c :: run) rest

def keywordPieces (ignoreCase wildcard : Bool) (keyword : List Char) : List Piece :=
  if wildcard then wildcardPieces ignoreCase [] keyword else literalPieces ignoreCase keyword

theorem literalBody_eq (ignoreCase : Bool) (cs : List Char) :
    literalBody ignoreCase cs = (literalPieces ignoreCase cs).flatMap Piece.written := by
  rw [literalPieces, List.flatMap_map]
  rfl

theorem wildcardPiece?_cases (c : Char) : (c = '*' ∧ wildcardPiece? c = some .run) ∨
    (c = '?' ∧ wildcardPiece? c = some .any) ∨ (c ≠ '*' ∧ c ≠ '?' ∧ wildcardPiece? c = none) := by
  unfold wildcardPiece?
  split
  · exact Or.inl ⟨rfl, rfl⟩
  · exact Or.inr (Or.inl ⟨rfl, rfl⟩)
  · rename_i no_star no_question
    exact Or.inr (Or.inr ⟨no_star, no_question, rfl⟩)

theorem wildcard?_eq (c : Char) : wildcard? c = (wildcardPiece? c).map Piece.written := by
  rcases wildcardPiece?_cases c with ⟨rfl, _⟩ | ⟨rfl, _⟩ | ⟨no_star, no_question, plain⟩
  · rfl
  · rfl
  · rw [plain, wildcard?]
    · rfl
    · exact no_star
    · exact no_question

theorem wildcardBody_eq (ignoreCase : Bool) (run cs : List Char) :
    wildcardBody ignoreCase run cs = (wildcardPieces ignoreCase run cs).flatMap Piece.written := by
  induction cs generalizing run with
  | nil => exact literalBody_eq ignoreCase run.reverse
  | cons c rest ih =>
    rw [wildcardBody, wildcardPieces, wildcard?_eq]
    cases wildcardPiece? c with
    | none => exact ih (c :: run)
    | some piece =>
      simp only [Option.map_some, List.flatMap_append, List.flatMap_cons, literalBody_eq, ih, List.append_assoc]

/-- The pattern of a keyword is written in pieces, between runs or between the ends of the text. -/
theorem keywordPattern_source (keyword : String) (ignoreCase wildcard smart : Bool) :
    (keywordPattern keyword ignoreCase wildcard smart).source.toList =
      if smart then
        (Piece.run :: keywordPieces ignoreCase wildcard keyword.toList ++ [Piece.run]).flatMap Piece.written
      else '^' :: (keywordPieces ignoreCase wildcard keyword.toList).flatMap Piece.written ++ ['$'] := by
  have body : (if wildcard then wildcardBody ignoreCase [] keyword.toList
      else literalBody ignoreCase keyword.toList) =
        (keywordPieces ignoreCase wildcard keyword.toList).flatMap Piece.written := by
    rw [keywordPieces]
    cases wildcard with
    | false => exact literalBody_eq ignoreCase keyword.toList
    | true => exact wildcardBody_eq ignoreCase [] keyword.toList
  rw [keywordPattern, String.toList_ofList, body]
  cases smart with
  | false => rfl
  | true =>
    rw [if_pos rfl, if_pos rfl, List.flatMap_append, List.flatMap_cons]
    rfl

def SearchPattern.isOversized (fits : Regex Regex.Atom → Bool) (p : SearchPattern) : Bool :=
  (Regex.read? p.ignoreCase p.source.toList).any fun r => !fits r

/-- A property of some part of a text under smart search, otherwise of all of it. -/
def HoldsWithin (smart : Bool) (fits : List Char → Prop) (text : List Char) : Prop :=
  if smart then ∃ part, part <:+: text ∧ fits part else fits text

theorem HoldsWithin.imp {smart : Bool} {fits others : List Char → Prop} (weaker : ∀ part, fits part → others part)
    {text : List Char} (holds : HoldsWithin smart fits text) : HoldsWithin smart others text := by
  cases smart with
  | false => exact weaker text holds
  | true =>
    obtain ⟨part, inside, fit⟩ := holds
    exact ⟨part, inside, weaker part fit⟩

theorem compile_keywordPattern {fits : Regex Regex.Atom → Bool} {keyword : String}
    {ignoreCase wildcard smart : Bool}
    (small : (keywordPattern keyword ignoreCase wildcard smart).isOversized fits = false) :
    ∃ r, (keywordPattern keyword ignoreCase wildcard smart).compileWithin fits = .ok r ∧
      ∀ cs, r.occursIn cs = true ↔
        HoldsWithin smart (Cover ignoreCase (keywordPieces ignoreCase wildcard keyword.toList)) cs := by
  have readable : ∃ r, Regex.read? ignoreCase
      (keywordPattern keyword ignoreCase wildcard smart).source.toList = some r ∧
        ∀ cs, r.occursIn cs = true ↔
          HoldsWithin smart (Cover ignoreCase (keywordPieces ignoreCase wildcard keyword.toList)) cs := by
    rw [keywordPattern_source]
    cases smart with
    | false => exact Piece.read?_between_ends ignoreCase _
    | true => exact Piece.read?_between_runs ignoreCase _
  obtain ⟨r, read, occurs⟩ := readable
  have same : (keywordPattern keyword ignoreCase wildcard smart).ignoreCase = ignoreCase := rfl
  rw [SearchPattern.isOversized, same, read, Option.any_some] at small
  refine ⟨r, ?_, occurs⟩
  rw [SearchPattern.compileWithin, same, read]
  exact if_pos (by simpa using small)

/-- A text that a keyword with wildcards matches as a whole. -/
inductive Glob : List Char → List Char → Prop where
  | nil : Glob [] []
  | star {keyword run text : List Char} : '\n' ∉ run → Glob keyword text → Glob ('*' :: keyword) (run ++ text)
  | question {keyword text : List Char} {c : Char} :
    c ≠ '\n' → Glob keyword text → Glob ('?' :: keyword) (c :: text)
  | literal {keyword text : List Char} {c : Char} :
    c ≠ '*' → c ≠ '?' → Glob keyword text → Glob (c :: keyword) (c :: text)

def pieceOf (c : Char) : Piece := (wildcardPiece? c).getD (.literal c)

theorem pieceOf_literal {c : Char} (no_star : c ≠ '*') (no_question : c ≠ '?') : pieceOf c = .literal c := by
  rw [pieceOf, wildcardPiece?]
  · rfl
  · exact no_star
  · exact no_question

theorem wildcardPieces_eq (run cs : List Char) :
    wildcardPieces false run cs = run.reverse.map .literal ++ cs.map pieceOf := by
  induction cs generalizing run with
  | nil => exact (List.append_nil _).symm
  | cons c rest ih =>
    rw [wildcardPieces, List.map_cons, pieceOf]
    cases wildcardPiece? c with
    | some piece => exact congrArg (literalPieces false run.reverse ++ piece :: ·) (ih [])
    | none =>
      refine (ih (c :: run)).trans ?_
      rw [List.reverse_cons, List.map_append, List.append_assoc]
      rfl

theorem takes_literal_iff {c : Char} {part : List Char} : (Piece.literal c).Takes false part ↔ part = [c] := by
  constructor
  · intro takes
    obtain ⟨d, rfl, fits⟩ := takes
    exact congrArg ([·]) (Piece.contains_single_iff.mp fits)
  · rintro rfl
    exact ⟨c, rfl, Piece.contains_single_iff.mpr rfl⟩

theorem cover_literals_iff {cs text : List Char} : Cover false (cs.map .literal) text ↔ text = cs := by
  induction cs generalizing text with
  | nil => exact Iff.rfl
  | cons c cs ih =>
    simp only [List.map_cons, Cover, takes_literal_iff, ih]
    constructor
    · intro given
      obtain ⟨_, _, rfl, rfl, rfl⟩ := given
      rfl
    · rintro rfl
      exact ⟨[c], cs, rfl, rfl, rfl⟩

/-- The pieces of a keyword with wildcards cover the texts that it matches. -/
theorem cover_pieceOf_iff {keyword text : List Char} : Cover false (keyword.map pieceOf) text ↔ Glob keyword text := by
  constructor
  · intro cover
    induction keyword generalizing text with
    | nil =>
      obtain rfl : text = [] := cover
      exact .nil
    | cons c keyword ih =>
      obtain ⟨part, others, takes, cover, rfl⟩ := cover
      have rest := ih cover
      by_cases star : c = '*'
      · subst star
        exact .star takes rest
      · by_cases question : c = '?'
        · subst question
          obtain ⟨d, rfl, fits⟩ := takes
          exact .question fits rest
        · rw [pieceOf_literal star question, takes_literal_iff] at takes
          subst takes
          exact .literal star question rest
  · intro glob
    induction glob with
    | nil => rfl
    | star absent _ ih => exact ⟨_, _, absent, ih, rfl⟩
    | question fits _ ih => exact ⟨[_], _, ⟨_, rfl, fits⟩, ih, rfl⟩
    | @literal _ _ c star question _ ih =>
      refine ⟨[c], _, ?_, ih, rfl⟩
      rw [pieceOf_literal star question]
      exact takes_literal_iff.mpr rfl

/-- What a keyword matches, read as literal text but for its wildcards. -/
def KeywordMatches (keyword text : List Char) : (wildcard smart : Bool) → Prop
  | false, false => text = keyword
  | false, true => keyword <:+: text
  | true, false => Glob keyword text
  | true, true => ∃ part, part <:+: text ∧ Glob keyword part

theorem holdsWithin_cover_iff (keyword text : List Char) (wildcard smart : Bool) :
    HoldsWithin smart (Cover false (keywordPieces false wildcard keyword)) text ↔
      KeywordMatches keyword text wildcard smart := by
  have literally (part : List Char) : Cover false (literalPieces false keyword) part ↔ part = keyword :=
    cover_literals_iff
  have expanded (part : List Char) : Cover false (wildcardPieces false [] keyword) part ↔ Glob keyword part := by
    rw [wildcardPieces_eq]
    exact cover_pieceOf_iff
  cases wildcard with
  | false =>
    cases smart with
    | false => exact literally text
    | true =>
      constructor
      · intro given
        obtain ⟨part, inside, cover⟩ := given
        exact (literally part).mp cover ▸ inside
      · intro inside
        exact ⟨keyword, inside, (literally keyword).mpr rfl⟩
  | true =>
    cases smart with
    | false => exact expanded text
    | true => exact exists_congr fun part => and_congr_right fun _ => expanded part

/--
Keywords are literal text: with regard to case the pattern of a keyword can be compiled, whatever its
characters are, unless it compiles to too much, and it matches a text just where the keyword itself does.
-/
theorem keyword_matches_literally (fits : Regex Regex.Atom → Bool) (keyword : String) (wildcard smart : Bool)
    (small : (keywordPattern keyword false wildcard smart).isOversized fits = false) :
    ∃ r, (keywordPattern keyword false wildcard smart).compileWithin fits = .ok r ∧
      ∀ text : String, r.occursIn text.toList = true ↔
        KeywordMatches keyword.toList text.toList wildcard smart := by
  obtain ⟨r, compiled, occurs⟩ := compile_keywordPattern small
  refine ⟨r, compiled, fun text => ?_⟩
  rw [occurs, holdsWithin_cover_iff]

set_option maxRecDepth 100000 in
/-- A keyword full of characters with a meaning of their own, next to wildcards and a line feed. -/
theorem keyword_matches_literally_of_price :
    (keywordPattern "$1.*?\n(a|b)^" false true true).isOversized Regex.fits = false ∧
      ∃ r, (keywordPattern "$1.*?\n(a|b)^" false true true).compile = .ok r ∧
        ∀ text : String, r.occursIn text.toList = true ↔
          KeywordMatches "$1.*?\n(a|b)^".toList text.toList true true := by
  have small : (keywordPattern "$1.*?\n(a|b)^" false true true).isOversized Regex.fits = false := by decide +kernel
  exact ⟨small, keyword_matches_literally Regex.fits "$1.*?\n(a|b)^" true true small⟩

end TableQuery
