import TableQuery.Proofs.Filter.Fields

set_option autoImplicit false

/- Clauses are a disjunction of conjunctions. An "or" parts all that is before it from all that is after it,
and an "and" parts only what no "or" is left in; so "and" binds tighter. A clause that is itself a group
counts for what its own clauses come to, as in parentheses. The grammar knows nothing of runs. That a compiled
group, which is made of runs, comes to the values of the grammar is what is shown here. -/
namespace TableQuery

open Json (Value)

namespace Filter

mutual

/-- A filter has this value on a document. A pattern that does not compile has none. -/
inductive Denotes (document : Value) : Filter → Bool → Prop
  | regex (field : String) {pattern : SearchPattern} {expression : Regex Regex.Atom}
      (compiled : pattern.compile = .ok expression) :
      Denotes document (.regex field pattern) (occursInField expression (lookup document field))
  | compare (field : String) (op : Comparison) (value : Value) :
      Denotes document (.compare field op value) (op.holds (lookup document field) value)
  | oneOf (field : String) (values : List Value) :
      Denotes document (.oneOf field values)
        ((lookup document field).any fun actual => values.any actual.equals)
  | present (field : String) (expected : Bool) :
      Denotes document (.present field expected) ((lookup document field).isSome == expected)
  | empty : Denotes document (.group []) true
  | group {clauses : Clauses} {value : Bool} (read : Disjunction document clauses value) :
      Denotes document (.group clauses) value

inductive Disjunction (document : Value) : Clauses → Bool → Prop
  | conjunction {clauses : Clauses} {value : Bool} (read : Conjunction document clauses value) :
      Disjunction document clauses value
  | or {left right : Clauses} {filter : Filter} {a b : Bool} (before : Disjunction document left a)
      (after : Disjunction document ((.or, filter) :: right) b) :
      Disjunction document (left ++ (.or, filter) :: right) (a || b)

/-- Clauses are read as one operand, whose connective does not count, or as two parts with an "and" between
them. -/
inductive Conjunction (document : Value) : Clauses → Bool → Prop
  | operand (connective : Connective) {filter : Filter} {value : Bool}
      (read : Denotes document filter value) : Conjunction document [(connective, filter)] value
  | and {left right : Clauses} {filter : Filter} {a b : Bool} (before : Conjunction document left a)
      (after : Conjunction document ((.and, filter) :: right) b) :
      Conjunction document (left ++ (.and, filter) :: right) (a && b)

end

/-- Clauses that are joined by "and" are met where all of them are, whatever the connective of the first. -/
theorem meets_conjunction (document : Value) (connective : Connective) (filter : Filter)
    (filters : List Filter) :
    (group ((connective, filter) :: filters.map (Connective.and, ·))).meets document =
      (filter :: filters).all (meets document) := by
  rw [meets_group, runs_cons, joining_and, starting_and]
  simp only [List.isEmpty_cons, Bool.false_or, List.any_cons, List.any_nil, Bool.or_false]

/-- An "or" parts a group into two: the document has to meet one of them. -/
theorem meets_disjunction (document : Value) {left : Clauses} (some : left ≠ []) (filter : Filter)
    (right : Clauses) :
    (group (left ++ (.or, filter) :: right)).meets document =
      ((group left).meets document || (group ((.or, filter) :: right)).meets document) := by
  have joined : meetsJoining document ((.or, filter) :: right) = true := rfl
  have started : meetsStarted document ((.or, filter) :: right) =
      (group ((.or, filter) :: right)).meets document := by
    rw [meets_group]
    rfl
  rw [meets_append document some, joined, started, Bool.and_true, ← Bool.or_assoc, ← meets_group_eq]

mutual

theorem Denotes.sound {document : Value} : ∀ {f : Filter} {value : Bool}, Denotes document f value →
    f.Compiles ∧ f.meets document = value
  | _, _, .regex field compiled => by
    refine ⟨?_, ?_⟩
    · rw [Compiles, patterns, List.forall_mem_singleton]
      exact ⟨_, compiled⟩
    · simp only [meets, compiled]
  | _, _, .compare field op value => ⟨List.forall_mem_nil _, rfl⟩
  | _, _, .oneOf field values => ⟨List.forall_mem_nil _, rfl⟩
  | _, _, .present field expected => ⟨List.forall_mem_nil _, rfl⟩
  | _, _, .empty => ⟨List.forall_mem_nil _, rfl⟩
  | _, _, .group read => read.sound.2

theorem Disjunction.sound {document : Value} : ∀ {clauses : Clauses} {value : Bool},
    Disjunction document clauses value →
    clauses ≠ [] ∧ (group clauses).Compiles ∧ (group clauses).meets document = value
  | _, _, .conjunction read => by
    obtain ⟨connective, filter, filters, rfl, compiles, rfl⟩ := read.sound
    refine ⟨List.cons_ne_nil _ _, compiles, meets_conjunction document connective filter filters⟩
  | _, _, .or before after => by
    obtain ⟨some, first, rfl⟩ := before.sound
    obtain ⟨-, later, rfl⟩ := after.sound
    exact ⟨List.append_ne_nil_of_left_ne_nil some _, (compiles_append_iff _ _).mpr ⟨first, later⟩,
      meets_disjunction document some _ _⟩

theorem Conjunction.sound {document : Value} : ∀ {clauses : Clauses} {value : Bool},
    Conjunction document clauses value →
    ∃ connective filter filters, clauses = (connective, filter) :: filters.map (Connective.and, ·) ∧
      (group clauses).Compiles ∧ (filter :: filters).all (meets document) = value
  | _, _, .operand connective read => by
    obtain ⟨compiles, rfl⟩ := read.sound
    refine ⟨connective, _, [], rfl, ?_, ?_⟩
    · rw [compiles_group_iff, List.forall_mem_singleton]
      exact compiles
    · rw [List.all_cons, List.all_nil, Bool.and_true]
  | _, _, @Conjunction.and _ _ _ next _ _ before after => by
    obtain ⟨connective, filter, filters, rfl, first, rfl⟩ := before.sound
    obtain ⟨_, _, others, same, later, rfl⟩ := after.sound
    cases same
    refine ⟨connective, filter, filters ++ next :: others, ?_, ?_, ?_⟩
    · rw [List.map_append, List.map_cons, List.cons_append]
    · exact (compiles_append_iff _ _).mpr ⟨first, later⟩
    · rw [← List.cons_append, List.all_append]

end

mutual

theorem denotes_meets (document : Value) : ∀ {f : Filter}, f.Compiles → Denotes document f (f.meets document)
  | regex field pattern, compiles => by
    rw [Compiles, patterns, List.forall_mem_singleton] at compiles
    obtain ⟨expression, compiled⟩ := compiles
    simp only [meets, compiled]
    exact .regex field compiled
  | compare field op value, _ => .compare field op value
  | oneOf field values, _ => .oneOf field values
  | present field expected, _ => .present field expected
  | group [], _ => .empty
  | group ((connective, filter) :: rest), compiles => by
    rw [compiles_group_iff, List.forall_mem_cons] at compiles
    have first : Conjunction document [(connective, filter)] (filter.meets document) :=
      .operand connective (denotes_meets document compiles.1)
    exact .group (disjunction_append document compiles.2 first)

theorem disjunction_append (document : Value) : ∀ {clauses : Clauses},
    (∀ clause ∈ clauses, clause.2.Compiles) → ∀ {opened : Clauses} {value : Bool},
    Conjunction document opened value →
    Disjunction document (opened ++ clauses) (valueFrom value (meets.meetsEach document clauses))
  | [], _, opened, value, read => by
    rw [List.append_nil]
    exact .conjunction read
  | (.and, filter) :: rest, compiles, opened, value, read => by
    rw [List.forall_mem_cons] at compiles
    -- an "and" takes the next clause into the conjunction
    have longer : Conjunction document (opened ++ [(.and, filter)]) (value && filter.meets document) :=
      .and read (.operand .and (denotes_meets document compiles.1))
    have whole := disjunction_append document compiles.2 longer
    rw [List.append_assoc] at whole
    exact whole
  | (.or, filter) :: rest, compiles, opened, value, read => by
    rw [List.forall_mem_cons] at compiles
    -- an "or" ends the conjunction and opens the next one
    have next : Conjunction document [(.or, filter)] (filter.meets document) :=
      .operand .or (denotes_meets document compiles.1)
    exact .or (.conjunction read) (disjunction_append document compiles.2 next)

end

theorem denotes_iff {document : Value} {f : Filter} {value : Bool} :
    Denotes document f value ↔ f.Compiles ∧ f.meets document = value := by
  constructor
  · exact Denotes.sound
  · intro given
    obtain ⟨compiles, rfl⟩ := given
    exact denotes_meets document compiles

theorem compile_holds_eq_ok_iff {f : Filter} {document : Value} {value : Bool} :
    (f.compile.map fun test => test.holds document) = .ok value ↔ Denotes document f value := by
  rw [denotes_iff, ← exists_compile_iff, map_eq_ok_iff]
  constructor
  · intro given
    obtain ⟨test, compiled, holds⟩ := given
    exact ⟨⟨test, compiled⟩, (holds_of_compile document compiled).symm.trans holds⟩
  · intro given
    obtain ⟨⟨test, compiled⟩, met⟩ := given
    exact ⟨test, compiled, (holds_of_compile document compiled).trans met⟩

/--
Runs come to what the grammar says. A group fails to compile exactly where some pattern in it does, at any depth,
and fails as the first of them does, whatever the documents. Otherwise each document has one value by the grammar,
and it is the one that the compiled group comes to.
-/
theorem compiled_group_denotes (clauses : Clauses) :
    ((∃ e, (group clauses).compile = .error e) ↔
      ∃ pattern ∈ (group clauses).patterns, ∃ e, pattern.compile = .error e) ∧
    (∀ e, (group clauses).compile = .error e ↔
      ∃ before pattern after, (group clauses).patterns = before ++ pattern :: after ∧
        pattern.compile = .error e ∧
        ∀ earlier ∈ before, ∃ expression, earlier.compile = .ok expression) ∧
    ∀ document value, ((group clauses).compile.map fun test => test.holds document) = .ok value ↔
      Denotes document (group clauses) value :=
  ⟨exists_compile_error_iff, fun _ => compile_eq_error_iff, fun _ _ => compile_holds_eq_ok_iff⟩

/-- Of `a or b and c` the grammar makes `a or (b and c)`, which a document with `a` alone matches. -/
example : (group [(.and, .compare "a" .eq (.nat 1)), (.or, .compare "b" .eq (.nat 1)),
    (.and, .compare "c" .eq (.nat 1))]).Matches (.object [("a", .nat 1)]) := by decide +kernel

end Filter

end TableQuery
