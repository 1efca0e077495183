import TableQuery.Proofs.Filter.Fields

set_option autoImplicit false

/- A filter without conditions matches everything, `$and` asks for all of its parts and `$or` for any of them;
any other key is a field with a condition on it. Runs and groups of one part leave no trace in the rendering,
so the reading is a filter of another shape with the same meaning. -/
namespace TableQuery

open Json (Value Members)

def Comparison.ofOperator? : String → Option Comparison
  | "$eq" => some .eq
  | "$ne" => some .ne
  | "$gt" => some .gt
  | "$gte" => some .gte
  | "$lt" => some .lt
  | "$lte" => some .lte
  | _ => none

/-- A condition on a field, as a store reads it. -/
inductive FieldCondition where
  | compare (op : Comparison) (value : Value)
  | oneOf (values : List Value)
  | present (expected : Bool)
  | pattern (source : String) (ignoreCase : Bool)
  deriving Repr, Inhabited

namespace FieldCondition

/-- Reads a condition: an operator with its argument, or a pattern with its options. -/
def ofValue? : Value → Option FieldCondition
  | .object [(operator, argument)] =>
    match operator, argument with
    | "$in", .array values => some (.oneOf values)
    | "$exists", .bool expected => some (.present expected)
    | _, _ => (Comparison.ofOperator? operator).map (.compare · argument)
  | .object [("$options", .string options), ("$regex", .string source)] =>
    some (.pattern source (options == "i"))
  | _ => none

def patterns : FieldCondition → List SearchPattern
  | pattern source ignoreCase => [.verbatim source ignoreCase]
  | _ => []

/-- Whether a field meets a condition; a pattern that does not compile occurs nowhere. -/
def meets (actual : Option Value) : FieldCondition → Bool
  | compare op value => op.holds actual value
  | oneOf values => actual.any fun v => values.any v.equals
  | present expected => actual.isSome == expected
  | pattern source ignoreCase =>
    match (SearchPattern.verbatim source ignoreCase).compile with
    | .ok expression => occursInField expression actual
    | .error _ => false

end FieldCondition

inductive StoreFilter where
  | everything
  | allOf (parts : List StoreFilter)
  | anyOf (parts : List StoreFilter)
  | onField (field : String) (condition : FieldCondition)
  deriving Repr, Inhabited

namespace StoreFilter

def ofValue? : Value → Option StoreFilter
  | .object [] => some everything
  | .object [(key, value)] =>
    if key = "$and" then (parts? value).map allOf
    else if key = "$or" then (parts? value).map anyOf
    else (FieldCondition.ofValue? value).map (onField key)
  | _ => none
where
  /-- Reads a list of filters. -/
  parts? : Value → Option (List StoreFilter)
    | .array items => each? items
    | _ => none
  /-- Reads each of some filters. -/
  each? : List Value → Option (List StoreFilter)
    | [] => some []
    | item :: rest => do
      let part ← ofValue? item
      let others ← each? rest
      pure (part :: others)

def patterns : StoreFilter → List SearchPattern
  | everything => []
  | allOf parts => patternsOfEach parts
  | anyOf parts => patternsOfEach parts
  | onField _ condition => condition.patterns
where
  /-- The patterns of filters, from the first to the last. -/
  patternsOfEach : List StoreFilter → List SearchPattern
    | [] => []
    | part :: rest => patterns part ++ patternsOfEach rest

def meets (document : Value) : StoreFilter → Bool
  | everything => true
  | allOf parts => meetsAll document parts
  | anyOf parts => meetsAny document parts
  | onField field condition => condition.meets (lookup document field)
where
  /-- Whether a document meets all of some filters. -/
  meetsAll (document : Value) : List StoreFilter → Bool
    | [] => true
    | part :: rest => meets document part && meetsAll document rest
  /-- Whether a document meets any of some filters. -/
  meetsAny (document : Value) : List StoreFilter → Bool
    | [] => false
    | part :: rest => meets document part || meetsAny document rest

/-- The documents that meet a filter, unless a pattern of it does not compile. -/
def select (f : StoreFilter) (documents : List Value) : Except TableError (List Value) :=
  (checkPatterns f.patterns).map fun _ => documents.filter (f.meets ·)

/-- All of some filters; a single one stands for itself. -/
def ofRun : List StoreFilter → StoreFilter
  | [only] => only
  | parts => allOf parts

/-- Any of some runs; a single one stands for itself, and where there is none everything matches. -/
def ofRuns : List (List StoreFilter) → StoreFilter
  | [] => everything
  | [run] => ofRun run
  | runs => anyOf (runs.map ofRun)

/-- A filter of a query in the shape in which a store reads it. -/
def ofFilter : Filter → StoreFilter
  | .regex field pattern => onField field (.pattern pattern.source pattern.ignoreCase)
  | .compare field op value => onField field (.compare op value)
  | .oneOf field values => onField field (.oneOf values)
  | .present field expected => onField field (.present expected)
  | .group clauses => ofRuns (runs (ofClauses clauses))
where
  /-- Each clause in the shape in which a store reads it, with its connective. -/
  ofClauses : List (Connective × Filter) → List (Connective × StoreFilter)
    | [] => []
    | (connective, filter) :: rest => (connective, ofFilter filter) :: ofClauses rest

theorem renderClauses_eq (clauses : Clauses) : Filter.toDocument.renderClauses clauses =
    clauses.map fun clause => (clause.1, clause.2.toDocument) := by
  induction clauses with
  | nil => rfl
  | cons clause rest ih =>
    obtain ⟨connective, filter⟩ := clause
    simp only [Filter.toDocument.renderClauses, ih, List.map_cons]

theorem ofClauses_eq (clauses : Clauses) :
    ofFilter.ofClauses clauses = clauses.map fun clause => (clause.1, ofFilter clause.2) := by
  induction clauses with
  | nil => rfl
  | cons clause rest ih =>
    obtain ⟨connective, filter⟩ := clause
    simp only [ofFilter.ofClauses, ih, List.map_cons]

section Meaning

theorem meetsAll_eq (document : Value) (parts : List StoreFilter) :
    meets.meetsAll document parts = parts.all (meets document) := by
  induction parts with
  | nil => rfl
  | cons part rest ih => simp only [meets.meetsAll, ih, List.all_cons]

theorem meetsAny_eq (document : Value) (parts : List StoreFilter) :
    meets.meetsAny document parts = parts.any (meets document) := by
  induction parts with
  | nil => rfl
  | cons part rest ih => simp only [meets.meetsAny, ih, List.any_cons]

theorem meets_ofRun (document : Value) (run : List StoreFilter) :
    (ofRun run).meets document = run.all (meets document) := by
  unfold ofRun
  split
  · simp only [List.all_cons, List.all_nil, Bool.and_true]
  · rw [meets, meetsAll_eq]

/-- That single parts stand for themselves makes no difference to what is met. -/
theorem meets_ofRuns (document : Value) (runs : List (List StoreFilter)) :
    (ofRuns runs).meets document = (runs.isEmpty || runs.any fun run => run.all (meets document)) := by
  unfold ofRuns
  split
  · rfl
  · simp only [meets_ofRun, List.isEmpty_cons, List.any_cons, List.any_nil, Bool.or_false, Bool.false_or]
  · rename_i some _
    rw [meets, meetsAny_eq, List.any_map, List.isEmpty_eq_false_iff.mpr some, Bool.false_or]
    simp only [Function.comp_def, meets_ofRun]

mutual

/-- A filter means the same in the shape in which a store reads it. -/
theorem meets_ofFilter (document : Value) : ∀ f : Filter, (ofFilter f).meets document = f.meets document
  | .regex field pattern => rfl
  | .compare field op value => rfl
  | .oneOf field values => rfl
  | .present field expected => rfl
  | .group clauses => by
    have mapped := runs_map (meets document) (ofFilter.ofClauses clauses)
    rw [ofFilter, meets_ofRuns, Filter.meets, ← meets_ofClauses document clauses, valueOf_eq, mapped]
    simp only [isEmpty_runs, List.isEmpty_map, List.any_map, Function.comp_def, List.all_map, id]

theorem meets_ofClauses (document : Value) : ∀ clauses : Clauses,
    (ofFilter.ofClauses clauses).map (fun clause => (clause.1, clause.2.meets document)) =
      Filter.meets.meetsEach document clauses
  | [] => rfl
  | (connective, filter) :: rest => by
    simp only [ofFilter.ofClauses, List.map_cons, Filter.meets.meetsEach, meets_ofFilter document filter,
      meets_ofClauses document rest]

end

end Meaning

section Patterns

theorem patternsOfEach_eq (parts : List StoreFilter) :
    patterns.patternsOfEach parts = parts.flatMap patterns := by
  induction parts with
  | nil => rfl
  | cons part rest ih => simp only [patterns.patternsOfEach, ih, List.flatMap_cons]

theorem patterns_ofRun (run : List StoreFilter) : (ofRun run).patterns = run.flatMap patterns := by
  unfold ofRun
  split
  · simp only [List.flatMap_cons, List.flatMap_nil, List.append_nil]
  · rw [patterns, patternsOfEach_eq]

theorem patterns_ofRuns (runs : List (List StoreFilter)) :
    (ofRuns runs).patterns = runs.flatten.flatMap patterns := by
  unfold ofRuns
  split
  · rfl
  · simp only [patterns_ofRun, List.flatten_cons, List.flatten_nil, List.append_nil]
  · rw [patterns, patternsOfEach_eq, List.flatMap_map, List.flatten_eq_flatMap, List.flatMap_assoc]
    simp only [patterns_ofRun, id]

/-- A rendered pattern has its text and its options, and nothing tells where it came from. -/
def rendered (pattern : SearchPattern) : SearchPattern := .verbatim pattern.source pattern.ignoreCase

theorem checkPatterns_rendered (patterns : List SearchPattern) :
    checkPatterns (patterns.map rendered) = checkPatterns patterns := by
  induction patterns with
  | nil => rfl
  | cons pattern rest ih => rw [List.map_cons, checkPatterns, ih]; rfl

mutual

theorem patterns_ofFilter : ∀ f : Filter, (ofFilter f).patterns = f.patterns.map rendered
  | .regex field pattern => rfl
  | .compare field op value => rfl
  | .oneOf field values => rfl
  | .present field expected => rfl
  | .group clauses => by
    rw [ofFilter, patterns_ofRuns, flatten_runs, patterns_ofClauses clauses, Filter.patterns]

theorem patterns_ofClauses : ∀ clauses : Clauses,
    ((ofFilter.ofClauses clauses).map (·.2)).flatMap patterns =
      (Filter.patterns.clausePatterns clauses).map rendered
  | [] => rfl
  | (connective, filter) :: rest => by
    rw [ofFilter.ofClauses, List.map_cons, List.flatMap_cons, patterns_ofFilter filter,
      patterns_ofClauses rest, Filter.patterns.clausePatterns, List.map_append]

end

end Patterns

section Reading

theorem each?_of_reads {parts : List Filter}
    (reads : ∀ part ∈ parts, ofValue? part.toDocument = some (ofFilter part)) :
    ofValue?.each? (parts.map Filter.toDocument) = some (parts.map ofFilter) := by
  induction parts with
  | nil => rfl
  | cons part rest ih =>
    rw [List.forall_mem_cons] at reads
    simp only [List.map_cons, ofValue?.each?, reads.1, ih reads.2]
    rfl

theorem ofValue?_run {run : List Filter}
    (reads : ∀ part ∈ run, ofValue? part.toDocument = some (ofFilter part)) :
    ofValue? (Filter.underOperator "$and" (run.map Filter.toDocument)) = some (ofRun (run.map ofFilter)) := by
  match run with
  | [only] => exact reads only List.mem_cons_self
  | [] => rfl
  | first :: second :: rest =>
    change (ofValue?.each? ((first :: second :: rest).map Filter.toDocument)).map allOf = _
    rw [each?_of_reads reads]
    rfl

theorem ofValue?_runs {runs : List (List Filter)}
    (reads : ∀ run ∈ runs, ∀ part ∈ run, ofValue? part.toDocument = some (ofFilter part)) :
    ofValue? (Filter.renderRuns (runs.map (List.map Filter.toDocument))) =
      some (ofRuns (runs.map (List.map ofFilter))) := by
  have each : ∀ runs : List (List Filter),
      (∀ run ∈ runs, ∀ part ∈ run, ofValue? part.toDocument = some (ofFilter part)) →
      ofValue?.each? ((runs.map (List.map Filter.toDocument)).map (Filter.underOperator "$and")) =
        some ((runs.map (List.map ofFilter)).map ofRun) := by
    intro runs reads
    induction runs with
    | nil => rfl
    | cons run rest ih =>
      rw [List.forall_mem_cons] at reads
      simp only [List.map_cons, ofValue?.each?, ofValue?_run reads.1, ih reads.2]
      rfl
  match runs with
  | [] => rfl
  | [run] => exact ofValue?_run (reads run List.mem_cons_self)
  | first :: second :: rest =>
    change (ofValue?.each? (((first :: second :: rest).map (List.map Filter.toDocument)).map
      (Filter.underOperator "$and"))).map anyOf = _
    rw [each _ reads]
    rfl

/-- A condition on a field is read as one where its key is not that of a list of filters. -/
theorem ofValue?_onField {field : String} {value : Value} {condition : FieldCondition}
    (named : field ≠ "$and" ∧ field ≠ "$or") (read : FieldCondition.ofValue? value = some condition) :
    ofValue? (.object [(field, value)]) = some (onField field condition) := by
  rw [ofValue?, if_neg named.1, if_neg named.2, read]
  rfl

theorem read_pattern (pattern : SearchPattern) : FieldCondition.ofValue? pattern.toDocument =
    some (.pattern pattern.source pattern.ignoreCase) := by
  have members : pattern.toDocument =
      .object [("$options", .string pattern.options), ("$regex", .string pattern.source)] := by
    simp only [SearchPattern.toDocument, Value.ofMembers, Members.ofList, List.foldl_cons, List.foldl_nil,
      Members.insert, String.reduceEq, String.reduceLT, ↓reduceIte]
  have options : (pattern.options == "i") = pattern.ignoreCase := by
    unfold SearchPattern.options
    cases pattern.ignoreCase <;> rfl
  rw [members, FieldCondition.ofValue?, options]

theorem read_compare (op : Comparison) (value : Value) :
    FieldCondition.ofValue? (.object [(op.operator, value)]) = some (.compare op value) := by
  cases op <;> rfl

mutual

/-- The rendering of a filter is read as the filter, where no field has the key of a list of filters. -/
theorem ofValue?_toDocument : ∀ {f : Filter}, (∀ field ∈ f.fields, field ≠ "$and" ∧ field ≠ "$or") →
    ofValue? f.toDocument = some (ofFilter f)
  | .regex field pattern, named => ofValue?_onField (named field List.mem_cons_self) (read_pattern pattern)
  | .compare field op value, named =>
    ofValue?_onField (named field List.mem_cons_self) (read_compare op value)
  | .oneOf field values, named => ofValue?_onField (named field List.mem_cons_self) rfl
  | .present field expected, named => ofValue?_onField (named field List.mem_cons_self) rfl
  | .group clauses, named => by
    have reads := ofValue?_toDocument_of_mem (Filter.forall_fields_group_iff.mp named)
    have parts : ∀ run ∈ runs clauses, ∀ part ∈ run, ofValue? part.toDocument = some (ofFilter part) := by
      intro run member part inside
      have listed : part ∈ (runs clauses).flatten := List.mem_flatten.mpr ⟨run, member, inside⟩
      rw [flatten_runs] at listed
      obtain ⟨clause, among, rfl⟩ := List.mem_map.mp listed
      exact reads clause among
    rw [Filter.toDocument, renderClauses_eq, runs_map, ofFilter, ofClauses_eq, runs_map]
    exact ofValue?_runs parts

theorem ofValue?_toDocument_of_mem : ∀ {clauses : Clauses},
    (∀ clause ∈ clauses, ∀ field ∈ clause.2.fields, field ≠ "$and" ∧ field ≠ "$or") →
      ∀ clause ∈ clauses, ofValue? clause.2.toDocument = some (ofFilter clause.2)
  | [], _, _, member => nomatch member
  | (connective, filter) :: rest, named, clause, member => by
    rw [List.forall_mem_cons] at named
    rcases List.mem_cons.mp member with rfl | later
    · exact ofValue?_toDocument named.1
    · exact ofValue?_toDocument_of_mem named.2 clause later

end

end Reading

/-- What a store selects by a filter is what matches the clauses. -/
theorem select_ofFilter (c : Collection) (clauses : Clauses) :
    (ofFilter (.group clauses)).select c.documents = c.matching clauses := by
  rw [select, patterns_ofFilter, checkPatterns_rendered, Collection.matching_eq]
  simp only [meets_ofFilter]

end StoreFilter

structure StoreQuery where
  collection : String
  filter : StoreFilter
  sorts : List SortKey
  skip : Option Nat
  limit : Option Nat
  deriving Repr, Inhabited

namespace StoreQuery

/-- Reads a sort key: an object whose one key is the field, with the number of the direction. -/
def sortKey? : Value → Option SortKey
  | .object [(field, .number (.integer 1))] => some ⟨field, .asc⟩
  | .object [(field, .number (.integer (-1)))] => some ⟨field, .desc⟩
  | _ => none

def sortKeys? : Value → Option (List SortKey)
  | .array keys => keys.mapM sortKey?
  | _ => none

def bound? : Value → Option (Option Nat)
  | .null => some none
  | .number n => n.nat?.map some
  | _ => none

def ofValue? (rendered : Value) : Option StoreQuery := do
  let collection ← (← rendered.member? "collection").string?
  let filter ← StoreFilter.ofValue? (← rendered.member? "filter")
  let sorts ← sortKeys? (← rendered.member? "sort")
  let skip ← bound? (← rendered.member? "skip")
  let limit ← bound? (← rendered.member? "limit")
  pure { collection, filter, sorts, skip, limit }

def count (q : StoreQuery) (documents : List Value) : Except TableError Nat :=
  (q.filter.select documents).map List.length

/-- The documents a store finds for a query: selected, then sorted, then skipped, then limited. -/
def fetch (q : StoreQuery) (documents : List Value) : Except TableError (List Value) :=
  (q.filter.select documents).map fun found =>
    let rest := (sortDocuments q.sorts found).drop (q.skip.getD 0)
    match q.limit with
    | some n => rest.take n
    | none => rest

/-- A query in the shape in which a store reads it. -/
def ofQuery (q : Query) : StoreQuery :=
  ⟨q.collection, StoreFilter.ofFilter (.group q.filter), q.sorts, q.skip, q.limit⟩

theorem sortKey?_renderSort (key : SortKey) : sortKey? (Query.renderSort key) = some key := by
  obtain ⟨field, direction⟩ := key
  cases direction <;> rfl

theorem sortKeys?_renderSort (keys : List SortKey) :
    sortKeys? (.array (keys.map Query.renderSort)) = some keys := by
  rw [sortKeys?]
  induction keys with
  | nil => rfl
  | cons key rest ih =>
    rw [List.map_cons, List.mapM_cons, sortKey?_renderSort, ih]
    rfl

theorem bound?_orNull (bound : Option Nat) : bound? (.orNull .nat bound) = some bound := by
  cases bound <;> rfl

/-- The members of a rendered query, in the order of their keys. -/
theorem toDocument_eq (q : Query) : q.toDocument =
    .object [("collection", .string q.collection), ("filter", (Filter.group q.filter).toDocument),
      ("limit", .orNull .nat q.limit), ("skip", .orNull .nat q.skip),
      ("sort", .array (q.sorts.map Query.renderSort))] := by
  simp only [Query.toDocument, Value.ofMembers, Members.ofList, List.foldl_cons, List.foldl_nil, Members.insert,
    String.reduceEq, String.reduceLT, ↓reduceIte]

theorem ofValue?_toDocument {q : Query}
    (named : ∀ field ∈ (Filter.group q.filter).fields, field ≠ "$and" ∧ field ≠ "$or") :
    ofValue? q.toDocument = some (ofQuery q) := by
  have filter := StoreFilter.ofValue?_toDocument named
  rw [toDocument_eq]
  simp [ofValue?, Value.member?, Members.get?, Value.string?, filter, sortKeys?_renderSort, bound?_orNull,
    ofQuery]

/--
A store that reads the rendering of a query finds what the query finds: as many documents, and the same
rows in the same order, or the failure of the same pattern. No field may have the key of a list of filters.
-/
theorem rendering_keeps_meaning {q : Query}
    (named : ∀ field ∈ (Filter.group q.filter).fields, field ≠ "$and" ∧ field ≠ "$or") :
    ∃ read, ofValue? q.toDocument = some read ∧ read.collection = q.collection ∧
      ∀ c : Collection, read.count c.documents = c.count q ∧ read.fetch c.documents = c.fetch q := by
  refine ⟨ofQuery q, ofValue?_toDocument named, rfl, fun c => ⟨?_, ?_⟩⟩
  · rw [count, Collection.count, ofQuery, StoreFilter.select_ofFilter]
  · rw [fetch, Collection.fetch, ofQuery, StoreFilter.select_ofFilter]
    rfl

set_option maxRecDepth 100000 in
/-- A pattern, or else an empty group and a nested choice; the field of the choice is a path. -/
theorem rendering_keeps_meaning_of_crew :
    let c : Collection :=
      ⟨"crew", [.object [("name", .string "Ann"), ("team", .object [("id", .int 1)])],
        .object [("name", .string "Bob"), ("team", .object [("id", .int 2)])],
        .object [("name", .string "Cy")]]⟩
    let q : Query :=
      { collection := "crew"
        filter := [(.or, .regex "name" (.verbatim "^a" true)), (.or, .group []),
          (.and, .group [(.and, .compare "team.id" .gte (.int 2)), (.or, .oneOf "name" [.null])])]
        sorts := [⟨"name", .desc⟩, ⟨"name", .asc⟩]
        limit := some 5 }
    (∀ field ∈ (Filter.group q.filter).fields, field ≠ "$and" ∧ field ≠ "$or") ∧
      ∃ read, ofValue? q.toDocument = some read ∧ (read.count c.documents).toOption = some 2 ∧
        read.fetch c.documents = c.fetch q := by
  intro c q
  have named : ∀ field ∈ (Filter.group q.filter).fields, field ≠ "$and" ∧ field ≠ "$or" := by decide
  obtain ⟨read, reads, _, same⟩ := rendering_keeps_meaning named
  have counted : (c.count q).toOption = some 2 := by decide +kernel
  exact ⟨named, read, reads, by rw [(same c).1, counted], (same c).2⟩

end StoreQuery

end TableQuery
