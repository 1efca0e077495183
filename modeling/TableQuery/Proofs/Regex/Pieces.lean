import TableQuery.Proofs.Regex.Spans
import TableQuery.Regex.Read

set_option autoImplicit false

namespace TableQuery.Regex

/-- From where to where expressions match one after the other. -/
def SpansAll (cs : List Char) : List (Regex Atom) → Nat → Nat → Prop
  | [], i, j => i = j
  | r :: rest, i, j => ∃ k, r.Spans cs i k ∧ SpansAll cs rest k j

theorem spansAll_append_iff {cs : List Char} {first second : List (Regex Atom)} {i j : Nat} :
    SpansAll cs (first ++ second) i j ↔ ∃ k, SpansAll cs first i k ∧ SpansAll cs second k j := by
  induction first generalizing i with
  | nil => simp only [List.nil_append, SpansAll, exists_eq_left']
  | cons r first ih =>
    simp only [List.cons_append, SpansAll, ih, exists_between_iff]

theorem spansAll_singleton_iff {cs : List Char} {r : Regex Atom} {i j : Nat} :
    SpansAll cs [r] i j ↔ r.Spans cs i j := by
  simp only [SpansAll, exists_eq_right]

/-- The parts of a sequence match in the order in which they were read. -/
theorem spans_sequenceOf_iff (cs : List Char) (items : List Item) (i j : Nat) :
    (sequenceOf items).regex.Spans cs i j ↔ SpansAll cs (items.reverse.map Item.regex) i j := by
  have folded (items : List Item) (rest : Regex Atom) (i j : Nat) :
      (items.foldl (fun rest item => .seq item.regex rest) rest).Spans cs i j ↔
        ∃ k, SpansAll cs (items.reverse.map Item.regex) i k ∧ rest.Spans cs k j := by
    induction items generalizing rest i j with
    | nil => simp only [List.foldl_nil, List.reverse_nil, List.map_nil, SpansAll, exists_eq_left']
    | cons item items ih =>
      rw [List.foldl_cons, ih, List.reverse_cons, List.map_append, List.map_cons, List.map_nil]
      simp only [spansAll_append_iff, spansAll_singleton_iff, Spans, exists_between_iff]
  cases items with
  | nil => exact Iff.rfl
  | cons last items =>
    cases items with
    | nil => exact spansAll_singleton_iff.symm
    | cons item items =>
      refine (folded (last :: item :: items) .empty i j).trans ?_
      simp only [Spans, exists_eq_right]

theorem sequenceOf_height_le {items : List Item} {height : Nat}
    (flat : ∀ item ∈ items, item.height ≤ height) : (sequenceOf items).height ≤ height + 1 := by
  have folded (heights : List Nat) (start : Nat) (low : start ≤ height) (flat : ∀ h ∈ heights, h ≤ height) :
      heights.foldl max start ≤ height := by
    induction heights generalizing start with
    | nil => exact low
    | cons first heights ih =>
      exact ih _ (Nat.max_le.mpr ⟨low, flat first List.mem_cons_self⟩)
        fun h member => flat h (List.mem_cons_of_mem _ member)
  have bounded : (items.map Item.height).foldl max 0 ≤ height := by
    refine folded _ 0 (Nat.zero_le _) fun h member => ?_
    obtain ⟨item, among, rfl⟩ := List.mem_map.mp member
    exact flat item among
  cases items with
  | nil => exact Nat.zero_le _
  | cons last items =>
    cases items with
    | nil => exact Nat.le_succ_of_le (flat last List.mem_cons_self)
    | cons item items => exact Nat.succ_le_succ bounded

inductive Piece where
  | literal (c : Char)
  /-- Any one character of a line. -/
  | any
  /-- Any run of characters of a line. -/
  | run
  deriving DecidableEq

namespace Piece

def written : Piece → List Char
  | literal c => if isMeta c then ['\\', c] else [c]
  | any => ['.']
  | run => ['.', '*']

def fitting (ignoreCase : Bool) (c : Char) : CharSet := ({ ignoreCase } : Modes).fold (.single c)

def node (ignoreCase : Bool) : Piece → Nested
  | literal c => ⟨.atom (.char (fitting ignoreCase c)), 0⟩
  | any => ⟨.atom (.char (.compl (.single '\n'))), 0⟩
  | run => ⟨.star (.atom (.char (.compl (.single '\n')))), 1⟩

/-- The parts of a text that a piece matches. -/
def Takes (ignoreCase : Bool) : Piece → List Char → Prop
  | literal c, part => ∃ d, part = [d] ∧ (fitting ignoreCase c).contains d = true
  | any, part => ∃ d, part = [d] ∧ d ≠ '\n'
  | run, part => '\n' ∉ part

/-- The texts that pieces match, one after the other. -/
def Cover (ignoreCase : Bool) : List Piece → List Char → Prop
  | [], text => text = []
  | p :: rest, text => ∃ part others, p.Takes ignoreCase part ∧ Cover ignoreCase rest others ∧ text = part ++ others

/-- No piece starts with the question mark that would make a repetition before it lazy. -/
theorem written_head? (p : Piece) (rest : List Char) : (p.written ++ rest).head? ≠ some '?' := by
  cases p with
  | literal c =>
    rw [written]
    split
    · simp
    · rename_i plain
      rw [List.singleton_append, List.head?_cons, ne_eq, Option.some.injEq]
      rintro rfl
      exact plain rfl
  | any => simp [written]
  | run => simp [written]

theorem skipLazy_of_head? {rest : List Char} (eager : rest.head? ≠ some '?') : skipLazy rest = rest := by
  cases rest with
  | nil => rfl
  | cons c rest =>
    rw [skipLazy]
    rintro _ same
    obtain ⟨rfl, -⟩ := List.cons.inj same
    exact eager rfl

section Reading

variable (ignoreCase : Bool) (items : List Item)

/-- What was read of a pattern, outside of all groups. -/
def outermost : Reading := { groups := [], alternatives := [], items, modes := { ignoreCase }, names := [] }

theorem readParts_cons (fuel : Nat) (c : Char) (cs : List Char) :
    readParts (fuel + 1) (outermost ignoreCase items) (c :: cs) =
      (readPart (outermost ignoreCase items) (c :: cs)).bind fun next => readParts fuel next.1 next.2 :=
  rfl

theorem readPart_plain {c : Char} (plain : ¬isMeta c = true) (rest : List Char) :
    readPart (outermost ignoreCase items) (c :: rest) =
      some (outermost ignoreCase (.part ((literal c).node ignoreCase) :: items), rest) := by
  rw [readPart]
  · rfl
  all_goals
    rintro rfl
    exact plain rfl

theorem readPart_escaped {c : Char} (special : isMeta c = true) (rest : List Char) :
    readPart (outermost ignoreCase items) ('\\' :: c :: rest) =
      some (outermost ignoreCase (.part ((literal c).node ignoreCase) :: items), rest) := by
  simp only [isMeta, Bool.or_eq_true, beq_iff_eq, or_assoc] at special
  rcases special with rfl | rfl | rfl | rfl | rfl | rfl | rfl | rfl | rfl | rfl | rfl | rfl | rfl | rfl |
    rfl | rfl | rfl | rfl
  all_goals rfl

/-- A run is read in two steps: the star repeats the dot before it. -/
theorem readParts_run (fuel : Nat) {rest : List Char} (eager : rest.head? ≠ some '?') :
    readParts (fuel + 2) (outermost ignoreCase items) ('.' :: '*' :: rest) =
      readParts fuel (outermost ignoreCase (.part (run.node ignoreCase) :: items)) rest := by
  have dot : readPart (outermost ignoreCase items) ('.' :: '*' :: rest) =
      some (outermost ignoreCase (.part (any.node ignoreCase) :: items), '*' :: rest) := rfl
  have star : readPart (outermost ignoreCase (.part (any.node ignoreCase) :: items)) ('*' :: rest) =
      some (outermost ignoreCase (.part (run.node ignoreCase) :: items), rest) := by
    rw [readPart, skipLazy_of_head? eager]
    rfl
  rw [readParts_cons, dot, Option.bind_some, readParts_cons, star, Option.bind_some]

theorem readParts_written (p : Piece) {rest : List Char} (eager : rest.head? ≠ some '?') {fuel : Nat}
    (enough : (p.written ++ rest).length < fuel) : ∃ left, rest.length < left ∧
      readParts fuel (outermost ignoreCase items) (p.written ++ rest) =
        readParts left (outermost ignoreCase (.part (p.node ignoreCase) :: items)) rest := by
  rw [List.length_append] at enough
  cases p with
  | literal c =>
    have nonempty : 0 < (literal c).written.length := by
      rw [written]
      split
      · exact Nat.succ_pos _
      · exact Nat.succ_pos _
    obtain ⟨left, rfl⟩ : ∃ left, fuel = left + 1 := ⟨fuel - 1, by omega⟩
    refine ⟨left, by omega, ?_⟩
    by_cases special : isMeta c = true
    · rw [written, if_pos special, List.cons_append, List.singleton_append, readParts_cons,
        readPart_escaped _ _ special, Option.bind_some]
    · rw [written, if_neg special, List.singleton_append, readParts_cons, readPart_plain _ _ special,
        Option.bind_some]
  | any =>
    have one : any.written.length = 1 := rfl
    obtain ⟨left, rfl⟩ : ∃ left, fuel = left + 1 := ⟨fuel - 1, by omega⟩
    exact ⟨left, by omega, rfl⟩
  | run =>
    have two : run.written.length = 2 := rfl
    obtain ⟨left, rfl⟩ : ∃ left, fuel = left + 2 := ⟨fuel - 2, by omega⟩
    exact ⟨left, by omega, readParts_run _ _ left eager⟩

/-- The pieces as items of a sequence, last first. -/
def itemsOf (pieces : List Piece) : List Item := (pieces.map fun p => .part (p.node ignoreCase)).reverse

theorem readParts_flatMap_written (pieces : List Piece) (rest : List Char) (eager : rest.head? ≠ some '?')
    {fuel : Nat} (enough : (pieces.flatMap written ++ rest).length < fuel) : ∃ left, rest.length < left ∧
      readParts fuel (outermost ignoreCase items) (pieces.flatMap written ++ rest) =
        readParts left (outermost ignoreCase (itemsOf ignoreCase pieces ++ items)) rest := by
  induction pieces generalizing items fuel with
  | nil => exact ⟨fuel, enough, rfl⟩
  | cons p pieces ih =>
    rw [List.flatMap_cons, List.append_assoc] at enough ⊢
    -- What stands behind a piece is the next piece or the rest.
    have follows : (pieces.flatMap written ++ rest).head? ≠ some '?' := by
      cases pieces with
      | nil => exact eager
      | cons next pieces =>
        rw [List.flatMap_cons, List.append_assoc]
        exact written_head? next _
    obtain ⟨between, some_left, first⟩ := readParts_written ignoreCase items p follows enough
    obtain ⟨left, rest_left, others⟩ := ih (.part (p.node ignoreCase) :: items) some_left
    refine ⟨left, rest_left, first.trans (others.trans ?_)⟩
    rw [itemsOf, itemsOf, List.map_cons, List.reverse_cons, List.append_assoc, List.singleton_append]

end Reading

/-- A pattern is the sequence of the items that were read of it, if none of them nests deep. -/
theorem read?_of_readParts {ignoreCase : Bool} {pattern : List Char} {items : List Item} {left : Nat}
    (some_left : 0 < left) (flat : ∀ item ∈ items, item.height ≤ 1)
    (done : readParts (pattern.length + 1) (outermost ignoreCase []) pattern =
      readParts left (outermost ignoreCase items) []) :
    read? ignoreCase pattern = some (sequenceOf items).regex := by
  obtain ⟨left, rfl⟩ := Nat.exists_eq_add_one.mpr some_left
  have shallow : (sequenceOf items).height ≤ maxHeight :=
    Nat.le_trans (sequenceOf_height_le flat) (by decide)
  have finished : (outermost ignoreCase items).finish? = some (sequenceOf items).regex :=
    if_pos (decide_eq_true shallow)
  exact (congrArg (·.bind Reading.finish?) done).trans finished

theorem height_le_of_mem_itemsOf {ignoreCase : Bool} {pieces : List Piece} {item : Item}
    (member : item ∈ itemsOf ignoreCase pieces) : item.height ≤ 1 := by
  obtain ⟨p, _, rfl⟩ := List.mem_map.mp (List.mem_reverse.mp member)
  cases p with
  | literal c => exact Nat.zero_le 1
  | any => exact Nat.zero_le 1
  | run => exact Nat.le_refl 1

def regexes (ignoreCase : Bool) (pieces : List Piece) : List (Regex Atom) :=
  pieces.map fun p => (p.node ignoreCase).regex

theorem map_regex_itemsOf (ignoreCase : Bool) (pieces : List Piece) :
    (itemsOf ignoreCase pieces).reverse.map Item.regex = regexes ignoreCase pieces := by
  rw [itemsOf, List.reverse_reverse, List.map_map]
  rfl

theorem read?_flatMap_written (ignoreCase : Bool) (pieces : List Piece) :
    ∃ r, read? ignoreCase (pieces.flatMap written) = some r ∧
      ∀ cs i j, r.Spans cs i j ↔ SpansAll cs (regexes ignoreCase pieces) i j := by
  have enough : (pieces.flatMap written ++ []).length < (pieces.flatMap written).length + 1 := by
    rw [List.append_nil]
    exact Nat.lt_succ_self _
  obtain ⟨left, some_left, done⟩ :=
    readParts_flatMap_written ignoreCase [] pieces [] nofun enough
  rw [List.append_nil, List.append_nil] at done
  refine ⟨(sequenceOf (itemsOf ignoreCase pieces)).regex, ?_, fun cs i j => ?_⟩
  · exact read?_of_readParts some_left (fun _ => height_le_of_mem_itemsOf) done
  · rw [spans_sequenceOf_iff, map_regex_itemsOf]

/-- The condition of an end of the text as an item. -/
def edge (condition : Look) : Item := .part ⟨.atom (.look condition), 0⟩

/-- A pattern that is written in pieces between the ends of the text is read as those pieces between the ends. -/
theorem read?_anchored (ignoreCase : Bool) (pieces : List Piece) :
    ∃ r, read? ignoreCase ('^' :: pieces.flatMap written ++ ['$']) = some r ∧
      ∀ cs i j, r.Spans cs i j ↔
        SpansAll cs (.atom (.look .textStart) :: regexes ignoreCase pieces ++ [.atom (.look .textEnd)]) i j := by
  obtain ⟨left, some_left, done⟩ :=
    readParts_flatMap_written ignoreCase [edge .textStart] pieces ['$'] (by decide) (Nat.lt_succ_self _)
  obtain ⟨left, rfl⟩ := Nat.exists_eq_add_one.mpr (Nat.zero_lt_of_lt some_left)
  refine ⟨(sequenceOf (edge .textEnd :: (itemsOf ignoreCase pieces ++ [edge .textStart]))).regex, ?_,
    fun cs i j => ?_⟩
  · refine read?_of_readParts (Nat.lt_of_succ_lt_succ some_left) (fun item member => ?_) done
    rcases List.mem_cons.mp member with rfl | member
    · exact Nat.zero_le 1
    · rcases List.mem_append.mp member with member | member
      · exact height_le_of_mem_itemsOf member
      · obtain rfl := List.mem_singleton.mp member
        exact Nat.zero_le 1
  · rw [spans_sequenceOf_iff, List.reverse_cons, List.reverse_append, List.map_append, List.map_append,
      map_regex_itemsOf]
    rfl

theorem contains_single_iff {c d : Char} : (CharSet.single c).contains d = true ↔ d = c := by
  rw [CharSet.single, CharSet.contains, Bool.and_eq_true, decide_eq_true_eq, decide_eq_true_eq]
  constructor
  · intro between
    exact Char.le_antisymm between.2 between.1
  · rintro rfl
    exact ⟨Char.le_refl d, Char.le_refl d⟩

theorem contains_line_iff {d : Char} : (CharSet.compl (.single '\n')).contains d = true ↔ d ≠ '\n' := by
  rw [CharSet.contains, Bool.not_eq_true', ← Bool.not_eq_true, contains_single_iff]

theorem cons_prefix_drop_iff {cs part : List Char} {d : Char} {i : Nat} :
    d :: part <+: cs.drop i ↔ cs[i]? = some d ∧ part <+: cs.drop (i + 1) := by
  by_cases within : i < cs.length
  · rw [List.drop_eq_getElem_cons within, List.cons_prefix_cons, List.getElem?_eq_getElem within,
      Option.some.injEq, eq_comm]
  · have none_left := Nat.le_of_not_lt within
    rw [List.drop_eq_nil_of_le none_left, List.getElem?_eq_none none_left, List.prefix_nil]
    exact iff_of_false (List.cons_ne_nil _ _) fun given => nomatch given.1

theorem append_prefix_drop_iff {cs part rest : List Char} {i : Nat} :
    part ++ rest <+: cs.drop i ↔ part <+: cs.drop i ∧ rest <+: cs.drop (i + part.length) := by
  induction part generalizing i with
  | nil => simp only [List.nil_append, List.nil_prefix, List.length_nil, Nat.add_zero, true_and]
  | cons d part ih =>
    rw [List.cons_append, cons_prefix_drop_iff, ih, cons_prefix_drop_iff, and_assoc, List.length_cons,
      Nat.add_comm part.length 1, Nat.add_assoc]

theorem spans_char_iff {cs : List Char} {set : CharSet} {i k : Nat} :
    (Regex.atom (.char set)).Spans cs i k ↔
      ∃ part, (∃ d, part = [d] ∧ set.contains d = true) ∧ part <+: cs.drop i ∧ k = i + part.length := by
  constructor
  · intro given
    obtain ⟨ends, d, found, fits⟩ := given
    exact ⟨[d], ⟨d, rfl, fits⟩, cons_prefix_drop_iff.mpr ⟨found, List.nil_prefix⟩, ends⟩
  · intro given
    obtain ⟨_, ⟨d, rfl, fits⟩, found, ends⟩ := given
    exact ⟨ends, d, (cons_prefix_drop_iff.mp found).1, fits⟩

/-- A set of characters that is repeated matches any number of them. -/
theorem spans_star_char_iff {cs : List Char} {set : CharSet} {i k : Nat} :
    (Regex.star (.atom (.char set))).Spans cs i k ↔
      ∃ part, (∀ d ∈ part, set.contains d = true) ∧ part <+: cs.drop i ∧ k = i + part.length := by
  constructor
  · intro given
    obtain ⟨n, leads⟩ := given
    induction n generalizing i with
    | zero => exact ⟨[], nofun, List.nil_prefix, leads.symm⟩
    | succ n ih =>
      obtain ⟨next, first, leads⟩ := leads
      obtain ⟨_, ⟨d, rfl, fits⟩, found, rfl⟩ := spans_char_iff.mp first
      obtain ⟨part, all, follows, rfl⟩ := ih leads
      refine ⟨[d] ++ part, List.forall_mem_cons.mpr ⟨fits, all⟩, ?_, ?_⟩
      · exact append_prefix_drop_iff.mpr ⟨found, follows⟩
      · rw [List.length_append, Nat.add_assoc]
  · intro given
    obtain ⟨part, all, follows, rfl⟩ := given
    refine ⟨part.length, ?_⟩
    induction part generalizing i with
    | nil => rfl
    | cons d part ih =>
      obtain ⟨fits, all⟩ := List.forall_mem_cons.mp all
      rw [← List.singleton_append] at follows
      obtain ⟨found, follows⟩ := append_prefix_drop_iff.mp follows
      refine ⟨i + 1, spans_char_iff.mpr ⟨[d], ⟨d, rfl, fits⟩, found, rfl⟩, ?_⟩
      rw [List.length_cons, Nat.add_comm part.length 1, ← Nat.add_assoc]
      exact ih all follows

theorem spans_node_iff {cs : List Char} {ignoreCase : Bool} {p : Piece} {i k : Nat} :
    (p.node ignoreCase).regex.Spans cs i k ↔
      ∃ part, p.Takes ignoreCase part ∧ part <+: cs.drop i ∧ k = i + part.length := by
  cases p with
  | literal c => exact spans_char_iff
  | any => simp only [node, Takes, spans_char_iff, contains_line_iff]
  | run =>
    refine spans_star_char_iff.trans (exists_congr fun part => and_congr_left fun _ => ?_)
    simp only [contains_line_iff]
    constructor
    · intro all member
      exact all _ member rfl
    · rintro absent d member rfl
      exact absent member

theorem spansAll_regexes_iff {cs : List Char} {ignoreCase : Bool} {pieces : List Piece} {i j : Nat} :
    SpansAll cs (regexes ignoreCase pieces) i j ↔
      ∃ text, Cover ignoreCase pieces text ∧ text <+: cs.drop i ∧ j = i + text.length := by
  induction pieces generalizing i with
  | nil =>
    simp only [regexes, List.map_nil, SpansAll, Cover, exists_eq_left, List.nil_prefix, true_and,
      List.length_nil, Nat.add_zero, eq_comm]
  | cons p pieces ih =>
    have unfolded : SpansAll cs (regexes ignoreCase (p :: pieces)) i j ↔
        ∃ k, (p.node ignoreCase).regex.Spans cs i k ∧ SpansAll cs (regexes ignoreCase pieces) k j := Iff.rfl
    rw [unfolded]
    simp only [ih, spans_node_iff]
    constructor
    · intro given
      obtain ⟨_, ⟨part, takes, begins, rfl⟩, others, cover, follows, rfl⟩ := given
      refine ⟨part ++ others, ⟨part, others, takes, cover, rfl⟩, ?_, ?_⟩
      · exact append_prefix_drop_iff.mpr ⟨begins, follows⟩
      · rw [List.length_append, Nat.add_assoc]
    · intro given
      obtain ⟨_, ⟨part, others, takes, cover, rfl⟩, follows, rfl⟩ := given
      obtain ⟨begins, follows⟩ := append_prefix_drop_iff.mp follows
      refine ⟨i + part.length, ⟨part, takes, begins, rfl⟩, others, cover, follows, ?_⟩
      rw [List.length_append, Nat.add_assoc]

theorem cover_append_iff {ignoreCase : Bool} {first second : List Piece} {text : List Char} :
    Cover ignoreCase (first ++ second) text ↔
      ∃ early late, Cover ignoreCase first early ∧ Cover ignoreCase second late ∧ text = early ++ late := by
  induction first generalizing text with
  | nil =>
    constructor
    · intro cover
      exact ⟨[], text, rfl, cover, rfl⟩
    · intro given
      obtain ⟨_, late, rfl, cover, rfl⟩ := given
      exact cover
  | cons p first ih =>
    simp only [List.cons_append, Cover, ih]
    constructor
    · intro given
      obtain ⟨part, _, takes, ⟨early, late, covers, rest, rfl⟩, rfl⟩ := given
      exact ⟨part ++ early, late, ⟨part, early, takes, covers, rfl⟩, rest, (List.append_assoc ..).symm⟩
    · intro given
      obtain ⟨_, late, ⟨part, early, takes, covers, rfl⟩, rest, rfl⟩ := given
      exact ⟨part, early ++ late, takes, ⟨early, late, covers, rest, rfl⟩, List.append_assoc ..⟩

/-- A pattern in pieces between two runs can be read and matches the texts of which some part is covered. -/
theorem read?_between_runs (ignoreCase : Bool) (pieces : List Piece) :
    ∃ r, read? ignoreCase ((run :: pieces ++ [run]).flatMap written) = some r ∧
      ∀ cs, r.occursIn cs = true ↔ ∃ part, part <:+: cs ∧ Cover ignoreCase pieces part := by
  obtain ⟨r, read, spans⟩ := read?_flatMap_written ignoreCase (run :: pieces ++ [run])
  refine ⟨r, read, fun cs => (occursIn_iff r cs).trans ?_⟩
  simp only [spans, spansAll_regexes_iff]
  constructor
  · intro given
    obtain ⟨i, _, _, _, ⟨before, _, _, rest, rfl⟩, found, _⟩ := given
    obtain ⟨part, after, cover, _, rfl⟩ := cover_append_iff.mp rest
    refine ⟨part, ?_, cover⟩
    have inner : part <:+: before ++ (part ++ after) := ⟨before, after, List.append_assoc ..⟩
    exact (inner.trans found.isInfix).trans (List.drop_suffix i cs).isInfix
  · intro given
    obtain ⟨part, ⟨before, after, rfl⟩, cover⟩ := given
    have wrapped : Cover ignoreCase (run :: pieces ++ [run]) part := by
      refine ⟨[], part, List.not_mem_nil, cover_append_iff.mpr ⟨part, [], cover, ?_, ?_⟩, rfl⟩
      · exact ⟨[], [], List.not_mem_nil, rfl, rfl⟩
      · rw [List.append_nil]
    refine ⟨before.length, _, ?_, part, wrapped, ?_, rfl⟩
    · rw [List.append_assoc, List.length_append]
      exact Nat.le_add_right _ _
    · rw [List.append_assoc, List.drop_left]
      exact List.prefix_append part after

theorem charBefore?_eq_none_iff {cs : List Char} {i : Nat} (within : i ≤ cs.length) :
    charBefore? cs i = none ↔ i = 0 := by
  cases i with
  | zero => exact iff_of_true rfl rfl
  | succ i =>
    rw [charBefore?, List.getElem?_eq_getElem within]
    exact iff_of_false (Option.some_ne_none _) (Nat.succ_ne_zero i)

/-- A pattern in pieces between the ends of the text can be read and matches the texts that are covered. -/
theorem read?_between_ends (ignoreCase : Bool) (pieces : List Piece) :
    ∃ r, read? ignoreCase ('^' :: pieces.flatMap written ++ ['$']) = some r ∧
      ∀ cs, r.occursIn cs = true ↔ Cover ignoreCase pieces cs := by
  obtain ⟨r, read, spans⟩ := read?_anchored ignoreCase pieces
  refine ⟨r, read, fun cs => (occursIn_iff r cs).trans ?_⟩
  simp only [spans, List.cons_append, SpansAll, spansAll_append_iff, spansAll_regexes_iff, Spans, Atom.Spans,
    Look.holds, Option.isNone_iff_eq_none]
  constructor
  · intro given
    obtain ⟨i, _, _, _, ⟨rfl, within, start⟩, _, ⟨text, cover, found, rfl⟩, _, ⟨rfl, _, stop⟩, _⟩ := given
    obtain rfl := (charBefore?_eq_none_iff within).mp start
    rw [Nat.zero_add, List.getElem?_eq_none_iff] at stop
    obtain rfl : text = cs := found.eq_of_length_le stop
    exact cover
  · intro cover
    have stop : cs[cs.length]? = none := List.getElem?_eq_none (Nat.le_refl _)
    have covered : ∃ text, Cover ignoreCase pieces text ∧ text <+: cs.drop 0 ∧ cs.length = 0 + text.length :=
      ⟨cs, cover, List.prefix_refl cs, (Nat.zero_add _).symm⟩
    exact ⟨0, cs.length, Nat.zero_le _, 0, ⟨rfl, Nat.zero_le _, rfl⟩, cs.length, covered, cs.length,
      ⟨rfl, Nat.le_refl _, stop⟩, rfl⟩

end Piece

end TableQuery.Regex
