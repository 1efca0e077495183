import TableQuery.Proofs.Filter.Runs
import TableQuery.Proofs.Query.Edit
import TableQuery.Proofs.Query.Sorting
import TableQuery.Query.Store

set_option autoImplicit false

namespace TableQuery

open Json (Value)

/-- The value of an expression whose open run has the value `run` so far. -/
def valueFrom (run : Bool) : List (Connective × Bool) → Bool
  | [] => run
  | (.and, b) :: rest => valueFrom (run && b) rest
  | (.or, b) :: rest => run || valueFrom b rest

/-- The value of an expression; the connective of the first operand does not count. -/
def valueOf : List (Connective × Bool) → Bool
  | [] => true
  | (_, b) :: rest => valueFrom b rest

theorem valueFrom_eq (run : Bool) (operands : List (Connective × Bool)) :
    valueFrom run operands = (run && (joining operands).all id || (starting operands).any (·.all id)) := by
  induction operands generalizing run with
  | nil => simp [valueFrom, joining, starting]
  | cons operand rest ih =>
    obtain ⟨connective, b⟩ := operand
    cases connective with
    | and => simp only [valueFrom, ih, joining, starting, List.all_cons, id, Bool.and_assoc]
    | or =>
      simp only [valueFrom, ih, joining, starting, runsFrom_eq, List.all_nil, Bool.and_true,
        List.any_cons, List.singleton_append, List.all_cons, id]

theorem valueOf_eq (operands : List (Connective × Bool)) :
    valueOf operands = (operands.isEmpty || (runs operands).any (·.all id)) := by
  cases operands with
  | nil => rfl
  | cons operand rest =>
    simp only [valueOf, valueFrom_eq, runs_cons, List.isEmpty_cons, Bool.false_or, List.any_cons,
      List.all_cons, id]

namespace Test

theorem everyTest_eq (document : Value) (run : List Test) :
    holds.everyTest document run = run.all (holds document) := by
  induction run with
  | nil => rfl
  | cons test rest ih => simp only [holds.everyTest, ih, List.all_cons]

theorem anyRun_eq (document : Value) (runs : List (List Test)) :
    holds.anyRun document runs = runs.any (·.all (holds document)) := by
  induction runs with
  | nil => rfl
  | cons run rest ih => simp only [holds.anyRun, everyTest_eq, ih, List.any_cons]

end Test

namespace Filter

def patterns : Filter → List SearchPattern
  | regex _ pattern => [pattern]
  | compare _ _ _ => []
  | oneOf _ _ => []
  | present _ _ => []
  | group clauses => clausePatterns clauses
where
  /-- The patterns of clauses, from the first to the last. -/
  clausePatterns : List (Connective × Filter) → List SearchPattern
    | [] => []
    | (_, filter) :: rest => patterns filter ++ clausePatterns rest

/-- Every pattern of the filter compiles. -/
def Compiles (f : Filter) : Prop := ∀ pattern ∈ f.patterns, ∃ expression, pattern.compile = .ok expression

instance (f : Filter) : Decidable f.Compiles :=
  decidable_of_iff (∀ pattern ∈ f.patterns, pattern.compile.isOk = true) (by
    simp only [isOk_iff, Compiles])

/-- Whether a document meets a filter; a pattern that does not compile occurs nowhere. -/
def meets (document : Value) : Filter → Bool
  | regex field pattern =>
    match pattern.compile with
    | .ok expression => occursInField expression (lookup document field)
    | .error _ => false
  | compare field op value => op.holds (lookup document field) value
  | oneOf field values => (lookup document field).any fun actual => values.any actual.equals
  | present field expected => (lookup document field).isSome == expected
  | group clauses => valueOf (meetsEach document clauses)
where
  /-- Which clauses a document meets, with their connectives. -/
  meetsEach (document : Value) : List (Connective × Filter) → List (Connective × Bool)
    | [] => []
    | (connective, filter) :: rest => (connective, meets document filter) :: meetsEach document rest

theorem clausePatterns_eq (clauses : Clauses) :
    patterns.clausePatterns clauses = clauses.flatMap fun clause => clause.2.patterns := by
  induction clauses with
  | nil => rfl
  | cons clause rest ih =>
    obtain ⟨connective, filter⟩ := clause
    simp only [patterns.clausePatterns, ih, List.flatMap_cons]

theorem compiles_group_iff (clauses : Clauses) :
    (group clauses).Compiles ↔ ∀ clause ∈ clauses, clause.2.Compiles := by
  simp only [Compiles, patterns, clausePatterns_eq, List.mem_flatMap, forall_exists_index, and_imp]
  exact ⟨fun all clause member pattern inside => all pattern clause member inside,
    fun all pattern clause member inside => all clause member pattern inside⟩

theorem compiles_append_iff (clauses added : Clauses) :
    (group (clauses ++ added)).Compiles ↔ (group clauses).Compiles ∧ (group added).Compiles := by
  simp only [compiles_group_iff, List.mem_append, or_imp, forall_and]

theorem meetsEach_eq (document : Value) (clauses : Clauses) :
    meets.meetsEach document clauses = clauses.map fun clause => (clause.1, clause.2.meets document) := by
  induction clauses with
  | nil => rfl
  | cons clause rest ih =>
    obtain ⟨connective, filter⟩ := clause
    simp only [meets.meetsEach, ih, List.map_cons]

theorem compiles_group_map (connective : Connective) (filters : List Filter) :
    (group (filters.map (connective, ·))).Compiles ↔ ∀ filter ∈ filters, filter.Compiles := by
  simp only [compiles_group_iff, List.forall_mem_map]

/-- A document meets a group where it meets all of some run, or there is none to meet. -/
theorem meets_group (document : Value) (clauses : Clauses) :
    (group clauses).meets document =
      (clauses.isEmpty || (runs clauses).any fun run => run.all (meets document)) := by
  have mapped := runs_map (meets document) clauses
  simp only [meets, meetsEach_eq, valueOf_eq, mapped, List.isEmpty_map, List.any_map, Function.comp_def,
    List.all_map, id]

theorem valueFrom_or (run : Bool) (operands : List Bool) :
    valueFrom run (operands.map (Connective.or, ·)) = (run || operands.any id) := by
  induction operands generalizing run with
  | nil => simp only [List.map_nil, valueFrom, List.any_nil, Bool.or_false]
  | cons b rest ih => simp only [List.map_cons, valueFrom, ih, List.any_cons, id]

/-- A document meets filters joined by "or" where it meets any of them. -/
theorem meets_group_or (document : Value) (filter : Filter) (rest : List Filter) :
    (group ((filter :: rest).map (Connective.or, ·))).meets document =
      (filter :: rest).any (meets document) := by
  have mapped : ((filter :: rest).map (Connective.or, ·)).map (fun clause => (clause.1, meets document clause.2)) =
      ((filter :: rest).map (meets document)).map (Connective.or, ·) := by
    simp only [List.map_map, Function.comp_def]
  rw [meets, meetsEach_eq, mapped]
  simp only [List.map_cons, valueOf, valueFrom_or, List.any_map, Function.comp_def, id, List.any_cons]

def meetsClosed (document : Value) (clauses : Clauses) : Bool :=
  (closedRuns clauses).any fun run => run.all (meets document)

def meetsOpen (document : Value) (clauses : Clauses) : Bool := (openRun clauses).all (meets document)

/-- Whether a document meets all that joins a run which is open before the clauses. -/
def meetsJoining (document : Value) (added : Clauses) : Bool := (joining added).all (meets document)

def meetsStarted (document : Value) (added : Clauses) : Bool :=
  (starting added).any fun run => run.all (meets document)

theorem meets_group_eq (document : Value) (clauses : Clauses) :
    (group clauses).meets document = (meetsClosed document clauses || meetsOpen document clauses) := by
  by_cases empty : clauses = []
  · subst empty
    rfl
  · rw [meets_group, List.isEmpty_eq_false_iff.mpr empty, ← closedRuns_append_openRun empty]
    simp only [Bool.false_or, List.any_append, List.any_cons, List.any_nil, Bool.or_false, meetsClosed,
      meetsOpen]

/-- The value of a group that grows: its closed runs count as before, its open run has to meet what
joins it, and the runs that start afterwards count on their own. -/
theorem meets_append (document : Value) {clauses : Clauses} (some : clauses ≠ []) (added : Clauses) :
    (group (clauses ++ added)).meets document =
      (meetsClosed document clauses || (meetsOpen document clauses && meetsJoining document added ||
        meetsStarted document added)) := by
  have present : (clauses ++ added).isEmpty = false := by
    rw [List.isEmpty_eq_false_iff]
    exact List.append_ne_nil_of_left_ne_nil some added
  rw [meets_group, present, runs_append some]
  simp only [Bool.false_or, List.any_append, List.any_cons, List.all_append, meetsClosed, meetsOpen,
    meetsJoining, meetsStarted]

theorem meetsClosed_append_and (document : Value) (clauses : Clauses) (filters : List Filter) :
    meetsClosed document (clauses ++ filters.map (Connective.and, ·)) = meetsClosed document clauses := by
  rw [meetsClosed, closedRuns_append_and, meetsClosed]

theorem meetsOpen_append_and (document : Value) (clauses : Clauses) (filters : List Filter) :
    meetsOpen document (clauses ++ filters.map (Connective.and, ·)) =
      (meetsOpen document clauses && filters.all (meets document)) := by
  rw [meetsOpen, openRun_append_and, List.all_append, meetsOpen]

/-- A document meets filters joined by "and" where it meets all of them. -/
theorem meets_group_and (document : Value) (filters : List Filter) :
    (group (filters.map (Connective.and, ·))).meets document = filters.all (meets document) := by
  have closed := meetsClosed_append_and document [] filters
  have opened := meetsOpen_append_and document [] filters
  rw [List.nil_append] at closed opened
  rw [meets_group_eq, closed, opened]
  rfl

theorem meets_group_append_and (document : Value) (clauses : Clauses) (filters : List Filter) :
    (group (clauses ++ filters.map (Connective.and, ·))).meets document =
      (meetsClosed document clauses || meetsOpen document clauses && filters.all (meets document)) := by
  rw [meets_group_eq, meetsClosed_append_and, meetsOpen_append_and]

/-- Clauses without an "or" after the first have no closed run to meet. -/
theorem meetsClosed_of_and {clauses : Clauses} (plain : ∀ clause ∈ clauses.tail, clause.1 = .and)
    (document : Value) : meetsClosed document clauses = false := by
  cases clauses with
  | nil => rfl
  | cons clause rest =>
    rw [meetsClosed, (closedRuns_eq_nil_iff clause rest).mpr plain]
    rfl

/-- Where a document misses one of the filters required in between, runs that were closed before them
or start after them are all that is left to meet. -/
theorem meets_of_unmet {document : Value} {filters : List Filter}
    (unmet : filters.all (meets document) = false) (clauses added : Clauses) :
    (group (clauses ++ filters.map (Connective.and, ·) ++ added)).meets document =
      (meetsClosed document clauses || meetsStarted document added) := by
  have present : clauses ++ filters.map (Connective.and, ·) ≠ [] := by
    intro empty
    rw [List.append_eq_nil_iff, List.map_eq_nil_iff] at empty
    rw [empty.2] at unmet
    cases unmet
  rw [meets_append document present, meetsClosed_append_and, meetsOpen_append_and, unmet, Bool.and_false,
    Bool.false_and, Bool.false_or]

theorem meets_and_append_group {document : Value} {filters : List Filter} {clauses : Clauses}
    (all : filters.all (meets document) = true) (met : (group clauses).meets document = true) :
    (group (filters.map (Connective.and, ·) ++ clauses)).meets document = true := by
  by_cases none : filters = []
  · rw [none]
    exact met
  by_cases empty : clauses = []
  · rw [empty, List.append_nil, meets_group_and]
    exact all
  have opened := meetsOpen_append_and document [] filters
  have present : filters.map (Connective.and, ·) ≠ [] := by
    rw [ne_eq, List.map_eq_nil_iff]
    exact none
  rw [List.nil_append, all, Bool.and_true] at opened
  rw [meets_append document present, opened]
  rw [meets_group, List.isEmpty_eq_false_iff.mpr empty, Bool.false_or, List.any_eq_true] at met
  obtain ⟨run, member, holds⟩ := met
  rcases mem_joining_or_starting member with rfl | started
  · have joined : meetsJoining document clauses = true := holds
    rw [joined]
    simp [meetsOpen, openRun, runs]
  · have begun : meetsStarted document clauses = true := List.any_eq_true.mpr ⟨run, started, holds⟩
    rw [begun, Bool.or_true, Bool.or_true]

theorem meets_group_of_meetsOpen {document : Value} {before clauses : Clauses}
    (met : meetsOpen document (before ++ clauses) = true) : (group clauses).meets document = true := by
  have opened : meetsOpen document clauses = true := by
    rw [meetsOpen, List.all_eq_true] at met ⊢
    intro filter member
    exact met filter ((openRun_suffix before clauses).subset member)
  rw [meets_group_eq, opened, Bool.or_true]

mutual

theorem holds_of_compile (document : Value) : ∀ {f : Filter} {test : Test}, f.compile = .ok test →
    test.holds document = f.meets document
  | regex field pattern, test, compiled => by
    obtain ⟨expression, found, rfl⟩ := map_eq_ok_iff.mp compiled
    simp only [Test.holds, meets, found]
  | compare field op value, test, compiled => by
    cases compiled
    rfl
  | oneOf field values, test, compiled => by
    cases compiled
    rfl
  | present field expected, test, compiled => by
    cases compiled
    rfl
  | group clauses, test, compiled => by
    obtain ⟨tests, found, rfl⟩ := map_eq_ok_iff.mp compiled
    have each := holds_of_compileClauses document found
    have mapped := runs_map (Test.holds document) tests
    simp only [Test.holds, Test.anyRun_eq, meets, ← each, valueOf_eq, mapped, isEmpty_runs,
      List.isEmpty_map, List.any_map, Function.comp_def, List.all_map, id]

theorem holds_of_compileClauses (document : Value) : ∀ {clauses : Clauses}
    {tests : List (Connective × Test)}, compile.compileClauses clauses = .ok tests →
    tests.map (fun test => (test.1, test.2.holds document)) = meets.meetsEach document clauses
  | [], tests, compiled => by
    cases compiled
    rfl
  | (connective, filter) :: rest, tests, compiled => by
    obtain ⟨test, first, compiled⟩ := bind_eq_ok_iff.mp compiled
    obtain ⟨others, later, compiled⟩ := bind_eq_ok_iff.mp compiled
    cases compiled
    simp only [List.map_cons, meets.meetsEach, holds_of_compile document first,
      holds_of_compileClauses document later]

end

mutual

/-- A filter compiles where all its patterns do. -/
theorem exists_compile_iff : ∀ {f : Filter}, (∃ test, f.compile = .ok test) ↔ f.Compiles
  | regex field pattern => by
    simp only [compile, map_eq_ok_iff, Compiles, patterns, List.mem_singleton, forall_eq]
    exact ⟨fun ⟨_, expression, found, _⟩ => ⟨expression, found⟩,
      fun ⟨expression, found⟩ => ⟨_, expression, found, rfl⟩⟩
  | compare field op value => by simp [compile, Compiles, patterns]
  | oneOf field values => by simp [compile, Compiles, patterns]
  | present field expected => by simp [compile, Compiles, patterns]
  | group clauses => by
    rw [compiles_group_iff, ← exists_compileClauses_iff]
    simp only [compile, map_eq_ok_iff]
    exact ⟨fun ⟨_, tests, found, _⟩ => ⟨tests, found⟩, fun ⟨tests, found⟩ => ⟨_, tests, found, rfl⟩⟩

theorem exists_compileClauses_iff : ∀ {clauses : Clauses},
    (∃ tests, compile.compileClauses clauses = .ok tests) ↔ ∀ clause ∈ clauses, clause.2.Compiles
  | [] => by simp [compile.compileClauses]
  | (connective, filter) :: rest => by
    rw [List.forall_mem_cons, ← exists_compile_iff, ← @exists_compileClauses_iff rest]
    simp only [compile.compileClauses, bind_eq_ok_iff]
    constructor
    · intro given
      obtain ⟨_, test, first, tests, later, _⟩ := given
      exact ⟨⟨test, first⟩, ⟨tests, later⟩⟩
    · intro given
      obtain ⟨⟨test, first⟩, ⟨tests, later⟩⟩ := given
      exact ⟨_, test, first, tests, later, rfl⟩

end

/-- The filter compiles, and the document passes its test. -/
def Matches (f : Filter) (document : Value) : Prop :=
  ∃ test, f.compile = .ok test ∧ test.holds document = true

theorem matches_iff {f : Filter} {document : Value} :
    f.Matches document ↔ f.Compiles ∧ f.meets document = true := by
  rw [← exists_compile_iff]
  constructor
  · intro given
    obtain ⟨test, compiled, holds⟩ := given
    exact ⟨⟨test, compiled⟩, by rw [← holds_of_compile document compiled]; exact holds⟩
  · intro given
    obtain ⟨⟨test, compiled⟩, met⟩ := given
    exact ⟨test, compiled, by rw [holds_of_compile document compiled]; exact met⟩

/-- A document matches filters where these compile and it meets all of them. -/
theorem forall_matches_iff {filters : List Filter} {document : Value} :
    (∀ filter ∈ filters, filter.Matches document) ↔
      (∀ filter ∈ filters, filter.Compiles) ∧ filters.all (meets document) = true := by
  simp only [matches_iff, List.all_eq_true, imp_and, forall_and]

instance (f : Filter) (document : Value) : Decidable (f.Matches document) :=
  decidable_of_iff _ matches_iff.symm

end Filter

/-- The matching documents are those that meet the clauses, provided every pattern compiles. -/
theorem Collection.matching_eq_ok_iff (c : Collection) (clauses : Clauses) (found : List Value) :
    c.matching clauses = .ok found ↔
      (Filter.group clauses).Compiles ∧ c.documents.filter ((Filter.group clauses).meets ·) = found := by
  rw [Collection.matching, map_eq_ok_iff, ← Filter.exists_compile_iff]
  constructor
  · intro given
    obtain ⟨test, compiled, rfl⟩ := given
    refine ⟨⟨test, compiled⟩, ?_⟩
    simp only [Filter.holds_of_compile _ compiled]
  · intro given
    obtain ⟨⟨test, compiled⟩, rfl⟩ := given
    refine ⟨test, compiled, ?_⟩
    simp only [Filter.holds_of_compile _ compiled]

theorem Collection.count_eq_ok_iff {c : Collection} {q : Query} {n : Nat} :
    c.count q = .ok n ↔ (Filter.group q.filter).Compiles ∧
      (c.documents.filter ((Filter.group q.filter).meets ·)).length = n :=
  map_eq_ok_iff_of (c.matching_eq_ok_iff q.filter)

theorem Collection.count_query (c : Collection) : c.count c.query = .ok c.documents.length := by
  have kept : c.documents.filter ((Filter.group c.query.filter).meets ·) = c.documents :=
    List.filter_eq_self.mpr fun _ _ => rfl
  rw [count_eq_ok_iff, kept]
  exact ⟨(Filter.compiles_group_map .and []).mpr (List.forall_mem_nil _), rfl⟩

theorem Collection.filter_requireAll (c : Collection) (filters : List Filter) :
    (c.query.requireAll filters).filter = filters.map (Connective.and, ·) := List.nil_append _

/-- A query that lets in no more documents counts no more. -/
theorem Collection.count_le {c : Collection} {q wider : Query} {n m : Nat} (counted : c.count q = .ok n)
    (wide : c.count wider = .ok m)
    (within : ∀ document, (Filter.group q.filter).meets document = true →
      (Filter.group wider.filter).meets document = true) : n ≤ m := by
  obtain ⟨_, rfl⟩ := count_eq_ok_iff.mp counted
  obtain ⟨_, rfl⟩ := count_eq_ok_iff.mp wide
  rw [← List.countP_eq_length_filter, ← List.countP_eq_length_filter]
  exact List.countP_mono_left fun document _ => within document

theorem Collection.fetch_eq_ok_iff {c : Collection} {q : Query} {rows : List Value} :
    c.fetch q = .ok rows ↔ (Filter.group q.filter).Compiles ∧
      window q.skip q.limit (sortDocuments q.sorts
        (c.documents.filter ((Filter.group q.filter).meets ·))) = rows :=
  map_eq_ok_iff_of (c.matching_eq_ok_iff q.filter)

end TableQuery
