import Mathlib.Data.List.Basic
import TableQuery.Proofs.Search.Predicate

set_option autoImplicit false

namespace TableQuery

open Json (Value)

inductive Alike {α β : Type} (related : α → β → Prop) : Except TableError α → Except TableError β → Prop
  | failed (e f : TableError) : Alike related (.error e) (.error f)
  | done {a : α} {b : β} (both : related a b) : Alike related (.ok a) (.ok b)

namespace Alike

variable {α β γ δ : Type} {related : α → β → Prop} {later : γ → δ → Prop}
  {x : Except TableError α} {y : Except TableError β}

theorem refl {related : α → α → Prop} (same : ∀ a, related a a) (x : Except TableError α) :
    Alike related x x := by
  cases x with
  | error e => exact .failed e e
  | ok a => exact .done (same a)

theorem bind {f : α → Except TableError γ} {g : β → Except TableError δ} (first : Alike related x y)
    (next : ∀ a b, related a b → Alike later (f a) (g b)) : Alike later (x >>= f) (y >>= g) := by
  cases first with
  | failed e f => exact .failed e f
  | done both => exact next _ _ both

theorem map {f : α → γ} {g : β → δ} (first : Alike related x y)
    (next : ∀ a b, related a b → later (f a) (g b)) : Alike later (x.map f) (y.map g) := by
  cases first with
  | failed e f => exact .failed e f
  | done both => exact .done (next _ _ both)

/-- Where both come to a value under conditions that amount to the same, it is enough to relate the values. -/
theorem of_iff {p q : Prop} {a : α} {b : β} (first : ∀ found, x = .ok found ↔ p ∧ a = found)
    (second : ∀ found, y = .ok found ↔ q ∧ b = found) (same : p ↔ q) (both : related a b) :
    Alike related x y := by
  cases x with
  | ok found =>
    obtain ⟨holds, rfl⟩ := (first found).mp rfl
    rw [(second b).mpr ⟨same.mp holds, rfl⟩]
    exact .done both
  | error e =>
    cases y with
    | error f => exact .failed e f
    | ok found =>
      obtain ⟨holds, _⟩ := (second found).mp rfl
      cases (first a).mpr ⟨same.mpr holds, rfl⟩

end Alike

theorem Filter.meets_group_map_or (document : Value) (filters : List Filter) :
    (group (filters.map (Connective.or, ·))).meets document =
      (filters.isEmpty || filters.any (meets document)) := by
  cases filters with
  | nil => rfl
  | cons filter rest => exact meets_group_or document filter rest

/-- In a group, a filter may stand for another that is met alike. -/
theorem Filter.meets_group_congr {document : Value} {before after : Clauses} {connective : Connective}
    {filter other : Filter} (same : filter.meets document = other.meets document) :
    (group (before ++ (connective, filter) :: after)).meets document =
      (group (before ++ (connective, other) :: after)).meets document := by
  simp only [meets, meetsEach_eq, List.map_append, List.map_cons, same]

namespace Clauses

/-- The clauses differ at most in the order of filters that one connective joins: of filters required one
after the other, or of the alternatives of a group, however deep the group is. -/
inductive Rearranged : Clauses → Clauses → Prop
  | same (clauses : Clauses) : Rearranged clauses clauses
  | required (before after : Clauses) {filters others : List Filter} (perm : filters.Perm others) :
      Rearranged (before ++ filters.map (Connective.and, ·) ++ after)
        (before ++ others.map (Connective.and, ·) ++ after)
  | alternatives (before after : Clauses) (connective : Connective) {filters others : List Filter}
      (perm : filters.Perm others) :
      Rearranged (before ++ (connective, .group (filters.map (Connective.or, ·))) :: after)
        (before ++ (connective, .group (others.map (Connective.or, ·))) :: after)
  | inside (before after : Clauses) (connective : Connective) {clauses others : Clauses}
      (within : Rearranged clauses others) :
      Rearranged (before ++ (connective, .group clauses) :: after)
        (before ++ (connective, .group others) :: after)
  | trans {clauses between others : Clauses} (once : Rearranged clauses between)
      (again : Rearranged between others) : Rearranged clauses others

namespace Rearranged

variable {clauses others : Clauses}

theorem append (rearranged : Rearranged clauses others) (added : Clauses) :
    Rearranged (clauses ++ added) (others ++ added) := by
  induction rearranged with
  | same clauses => exact .same _
  | required before after perm =>
    rw [List.append_assoc _ after, List.append_assoc _ after]
    exact .required before (after ++ added) perm
  | alternatives before after connective perm =>
    rw [List.append_assoc, List.append_assoc]
    exact .alternatives before (after ++ added) connective perm
  | inside before after connective within =>
    rw [List.append_assoc, List.append_assoc]
    exact .inside before (after ++ added) connective within
  | trans once again first second => exact first.trans second

/-- Filters may be required of rearranged clauses in any order. -/
theorem require (rearranged : Rearranged clauses others) {filters added : List Filter}
    (perm : filters.Perm added) :
    Rearranged (clauses ++ filters.map (Connective.and, ·)) (others ++ added.map (Connective.and, ·)) := by
  have reordered := Rearranged.required others [] perm
  rw [List.append_nil, List.append_nil] at reordered
  exact (rearranged.append _).trans reordered

theorem length_eq (rearranged : Rearranged clauses others) : clauses.length = others.length := by
  induction rearranged with
  | same clauses => rfl
  | required before after perm => simp only [List.length_append, List.length_map, perm.length_eq]
  | alternatives before after connective perm => simp only [List.length_append, List.length_cons]
  | inside before after connective within => simp only [List.length_append, List.length_cons]
  | trans once again first second => exact first.trans second

theorem compiles_iff (rearranged : Rearranged clauses others) :
    (Filter.group clauses).Compiles ↔ (Filter.group others).Compiles := by
  induction rearranged with
  | same clauses => exact Iff.rfl
  | required before after perm =>
    simp only [Filter.compiles_append_iff, Filter.compiles_group_map, perm.mem_iff]
  | alternatives before after connective perm =>
    simp only [Filter.compiles_group_iff, List.forall_mem_append, List.forall_mem_cons,
      List.forall_mem_map, perm.mem_iff]
  | inside before after connective within inner =>
    simp only [Filter.compiles_group_iff, List.forall_mem_append, List.forall_mem_cons] at inner ⊢
    simp only [inner]
  | trans once again first second => exact first.trans second

theorem meets_eq (rearranged : Rearranged clauses others) (document : Value) :
    (Filter.group clauses).meets document = (Filter.group others).meets document := by
  induction rearranged with
  | same clauses => rfl
  | @required before after filters others perm =>
    by_cases none : filters = []
    · subst none
      rw [List.nil_perm.mp perm]
    · have some : others ≠ [] := fun empty => none (List.perm_nil.mp (empty ▸ perm))
      have present {list : List Filter} (some : list ≠ []) : before ++ list.map (Connective.and, ·) ≠ [] :=
        List.append_ne_nil_of_right_ne_nil before (List.map_eq_nil_iff.not.mpr some)
      -- The run that is open after the filters is met where all of them are, in whichever order.
      rw [Filter.meets_append document (present none), Filter.meets_append document (present some),
        Filter.meetsClosed_append_and, Filter.meetsClosed_append_and, Filter.meetsOpen_append_and,
        Filter.meetsOpen_append_and, perm.all_eq]
  | alternatives before after connective perm =>
    apply Filter.meets_group_congr
    rw [Filter.meets_group_map_or, Filter.meets_group_map_or, perm.isEmpty_eq, perm.any_eq]
  | inside before after connective within inner => exact Filter.meets_group_congr inner
  | trans once again first second => exact first.trans second

end Rearranged

end Clauses

structure Query.Rearranged (q r : Query) : Prop where
  clauses : Clauses.Rearranged q.filter r.filter
  rest : r = { q with filter := r.filter }

namespace Query.Rearranged

variable {q r : Query}

theorem refl (q : Query) : q.Rearranged q := ⟨.same q.filter, rfl⟩

theorem trans {s : Query} (once : q.Rearranged r) (again : r.Rearranged s) : q.Rearranged s where
  clauses := once.clauses.trans again.clauses
  rest := by rw [again.rest, once.rest]

/-- Filters may be required of rearranged queries in any order. -/
theorem requireAll (rearranged : q.Rearranged r) {filters others : List Filter} (perm : filters.Perm others) :
    (q.requireAll filters).Rearranged (r.requireAll others) where
  clauses := rearranged.clauses.require perm
  rest := by
    unfold Query.requireAll Query.append
    rw [rearranged.rest]

/-- A change that neither sees nor changes the clauses keeps them rearranged. -/
theorem beside (rearranged : q.Rearranged r) (change : Query → Query)
    (apart : ∀ q clauses, change { q with filter := clauses } = { change q with filter := clauses }) :
    (change q).Rearranged (change r) where
  clauses := by
    have kept (q : Query) : (change q).filter = q.filter := by
      have same := congrArg Query.filter (apart q q.filter)
      exact same
    rw [kept, kept]
    exact rearranged.clauses
  rest := by
    rw [rearranged.rest, apart]

theorem fresh_eq (rearranged : q.Rearranged r) : r.fresh = q.fresh := by
  rw [rearranged.rest]
  rfl

/-- The alternatives of one more group may be in any order. -/
theorem requireAnyOf (rearranged : q.Rearranged r) {filters others : List Filter} (perm : filters.Perm others) :
    (q.requireAll (Searcher.anyOf filters).toList).Rearranged
      (r.requireAll (Searcher.anyOf others).toList) where
  clauses := by
    unfold Searcher.anyOf
    rw [← perm.isEmpty_eq]
    cases filters.isEmpty with
    | true => exact rearranged.clauses.append []
    | false => exact (rearranged.clauses.append _).trans (.alternatives r.filter [] .and perm)
  rest := by
    unfold Query.requireAll Query.append
    rw [rearranged.rest]

theorem filter_eq (rearranged : q.Rearranged r) (documents : List Value) :
    documents.filter ((Filter.group q.filter).meets ·) = documents.filter ((Filter.group r.filter).meets ·) :=
  List.filter_congr fun document _ => rearranged.clauses.meets_eq document

theorem count (rearranged : q.Rearranged r) (c : Collection) : Alike Eq (c.count q) (c.count r) :=
  Alike.of_iff (fun _ => c.count_eq_ok_iff) (fun _ => c.count_eq_ok_iff) rearranged.clauses.compiles_iff
    (congrArg List.length (rearranged.filter_eq c.documents))

/-- A collection gives the same documents in the same order, or gives them for neither. -/
theorem fetch (rearranged : q.Rearranged r) (c : Collection) : Alike Eq (c.fetch q) (c.fetch r) := by
  refine Alike.of_iff (fun _ => c.fetch_eq_ok_iff) (fun _ => c.fetch_eq_ok_iff)
    rearranged.clauses.compiles_iff ?_
  rw [rearranged.filter_eq, rearranged.rest]

end Query.Rearranged

namespace QueryEdit

/-- The edit does not mind how the clauses are arranged that it finds. -/
def Respects (edit : QueryEdit) : Prop :=
  ∀ q r : Query, q.Rearranged r → Alike Query.Rearranged (edit.run q) (edit.run r)

theorem all_respects {edits : List QueryEdit} (each : ∀ edit ∈ edits, edit.Respects) :
    (all edits).Respects := by
  induction edits with
  | nil => exact fun q r rearranged => .done rearranged
  | cons edit rest ih =>
    rw [List.forall_mem_cons] at each
    intro q r rearranged
    rw [run_all_cons, run_all_cons]
    exact (each.1 q r rearranged).bind (ih each.2)

/-- The edit does not look at the clauses that it finds: whatever they are, it does to the rest of the query
what it does where there are none, and appends the clauses that it gives there. -/
def Blind (edit : QueryEdit) : Prop :=
  ∀ (q : Query) (clauses : Clauses), edit { q with filter := clauses } =
    ({ (edit { q with filter := [] }).1 with
        filter := clauses ++ (edit { q with filter := [] }).1.filter },
      (edit { q with filter := [] }).2)

theorem Blind.respects {edit : QueryEdit} (blind : edit.Blind) : edit.Respects := by
  intro q r rearranged
  have here := blind q q.filter
  have there := blind q r.filter
  rw [← rearranged.rest] at there
  unfold run
  rw [here, there]
  rcases edit { q with filter := [] } with ⟨after, _ | e⟩
  · exact .done ⟨rearranged.clauses.append _, rfl⟩
  · exact .failed e e

theorem orderByAll_respects (keys : List SortKey) : Respects (.pure (·.orderByAll keys)) :=
  fun _ _ rearranged => .done (rearranged.beside (·.orderByAll keys) fun _ _ => rfl)

theorem group_blind (connective : Connective) (build : QueryEdit) : (group connective build).Blind := by
  intro q clauses
  have outside (clauses : Clauses) : ({ q with filter := clauses } : Query).fresh = q.fresh := rfl
  simp only [group, outside]
  cases build.run q.fresh with
  | error e => simp only [List.append_nil]
  | ok nested =>
    simp only [Query.nest]
    split
    · simp only [List.append_nil]
    · rfl

end QueryEdit

end TableQuery
