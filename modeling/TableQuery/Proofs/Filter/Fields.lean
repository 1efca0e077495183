import TableQuery.Proofs.Filter.Meaning

set_option autoImplicit false

namespace TableQuery

open Json (Value)

/-- The failure of the first pattern that does not compile, if there is one. -/
def checkPatterns : List SearchPattern → Except TableError Unit
  | [] => .ok ()
  | pattern :: rest => pattern.compile >>= fun _ => checkPatterns rest

theorem checkPatterns_append (first later : List SearchPattern) :
    checkPatterns (first ++ later) = checkPatterns first >>= fun _ => checkPatterns later := by
  induction first with
  | nil => rfl
  | cons pattern rest ih => simp only [List.cons_append, checkPatterns, ih, bind_assoc]

theorem failure?_checkPatterns (patterns : List SearchPattern) :
    failure? (checkPatterns patterns) = patterns.findSome? fun pattern => failure? pattern.compile := by
  induction patterns with
  | nil => rfl
  | cons pattern rest ih =>
    rw [checkPatterns, List.findSome?_cons]
    cases pattern.compile with
    | error e => rfl
    | ok expression => exact ih

namespace Filter

def fields : Filter → List String
  | regex field _ => [field]
  | compare field _ _ => [field]
  | oneOf field _ => [field]
  | present field _ => [field]
  | group clauses => clauseFields clauses
where
  /-- The fields that clauses look at, from the first to the last. -/
  clauseFields : List (Connective × Filter) → List String
    | [] => []
    | (_, filter) :: rest => fields filter ++ clauseFields rest

theorem clauseFields_eq (clauses : Clauses) :
    fields.clauseFields clauses = clauses.flatMap fun clause => clause.2.fields := by
  induction clauses with
  | nil => rfl
  | cons clause rest ih =>
    obtain ⟨connective, filter⟩ := clause
    simp only [fields.clauseFields, ih, List.flatMap_cons]

theorem forall_fields_group_iff {holds : String → Prop} {clauses : Clauses} :
    (∀ field ∈ (group clauses).fields, holds field) ↔
      ∀ clause ∈ clauses, ∀ field ∈ clause.2.fields, holds field := by
  simp only [fields, clauseFields_eq, List.mem_flatMap, forall_exists_index, and_imp]
  exact ⟨fun all clause member field inside => all field clause member inside,
    fun all field clause member inside => all clause member field inside⟩

mutual

theorem meets_congr {document other : Value} : ∀ {f : Filter},
    (∀ field ∈ f.fields, lookup document field = lookup other field) → f.meets document = f.meets other
  | regex field pattern, agree => by simp only [meets, agree field List.mem_cons_self]
  | compare field op value, agree => by simp only [meets, agree field List.mem_cons_self]
  | oneOf field values, agree => by simp only [meets, agree field List.mem_cons_self]
  | present field expected, agree => by simp only [meets, agree field List.mem_cons_self]
  | group clauses, agree => by
    rw [meets, meets, meetsEach_congr (forall_fields_group_iff.mp agree)]

theorem meetsEach_congr {document other : Value} : ∀ {clauses : Clauses},
    (∀ clause ∈ clauses, ∀ field ∈ clause.2.fields, lookup document field = lookup other field) →
      meets.meetsEach document clauses = meets.meetsEach other clauses
  | [], _ => rfl
  | (connective, filter) :: rest, agree => by
    rw [List.forall_mem_cons] at agree
    rw [meets.meetsEach, meets.meetsEach, meets_congr agree.1, meetsEach_congr agree.2]

end

mutual

/-- Compiling a filter fails with the first of its patterns that does not compile. -/
theorem compile_checked : ∀ f : Filter, f.compile.map (fun _ => ()) = checkPatterns f.patterns
  | regex field pattern => by
    simp only [compile, patterns, checkPatterns]
    cases pattern.compile with
    | error e => rfl
    | ok expression => rfl
  | compare field op value => rfl
  | oneOf field values => rfl
  | present field expected => rfl
  | group clauses => by
    rw [patterns, ← compileClauses_checked clauses, compile]
    cases compile.compileClauses clauses with
    | error e => rfl
    | ok tests => rfl

theorem compileClauses_checked : ∀ clauses : Clauses,
    (compile.compileClauses clauses).map (fun _ => ()) = checkPatterns (patterns.clausePatterns clauses)
  | [] => rfl
  | (connective, filter) :: rest => by
    rw [patterns.clausePatterns, checkPatterns_append, ← compile_checked filter,
      ← compileClauses_checked rest, compile.compileClauses]
    cases filter.compile with
    | error e => rfl
    | ok test =>
      cases compile.compileClauses rest with
      | error e => rfl
      | ok tests => rfl

end

theorem failure?_compile (f : Filter) :
    failure? f.compile = f.patterns.findSome? fun pattern => failure? pattern.compile := by
  rw [← failure?_map fun _ => (), compile_checked, failure?_checkPatterns]

/-- The failure is that of a pattern before which all patterns compile. -/
theorem compile_eq_error_iff {f : Filter} {e : TableError} :
    f.compile = .error e ↔
      ∃ before pattern after, f.patterns = before ++ pattern :: after ∧ pattern.compile = .error e ∧
        ∀ earlier ∈ before, ∃ expression, earlier.compile = .ok expression := by
  rw [← failure?_eq_some_iff, failure?_compile, List.findSome?_eq_some_iff]
  simp only [failure?_eq_some_iff, failure?_eq_none_iff]

theorem exists_compile_error_iff {f : Filter} :
    (∃ e, f.compile = .error e) ↔ ∃ pattern ∈ f.patterns, ∃ e, pattern.compile = .error e := by
  simp only [← failure?_eq_some_iff, failure?_compile, ← Option.isSome_iff_exists,
    List.findSome?_isSome_iff]

end Filter

/-- The matching documents are those that meet the clauses, unless a pattern does not compile. -/
theorem Collection.matching_eq (c : Collection) (clauses : Clauses) :
    c.matching clauses = (checkPatterns (Filter.group clauses).patterns).map fun _ =>
      c.documents.filter ((Filter.group clauses).meets ·) := by
  rw [matching, ← Filter.compile_checked]
  cases compiled : (Filter.group clauses).compile with
  | error e => rfl
  | ok test =>
    simp only [Except.map, Filter.holds_of_compile _ compiled]

end TableQuery
