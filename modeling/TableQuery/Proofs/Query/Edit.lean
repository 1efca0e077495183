import Mathlib.Data.List.Basic
import TableQuery.Search.Predicate

set_option autoImplicit false

namespace TableQuery

theorem map_eq_ok_iff {ε α β : Type} {f : α → β} {x : Except ε α} {b : β} :
    x.map f = .ok b ↔ ∃ a, x = .ok a ∧ f a = b := by
  cases x with
  | error e => simp [Except.map]
  | ok a => simp [Except.map]

theorem bind_eq_ok_iff {ε α β : Type} {x : Except ε α} {f : α → Except ε β} {b : β} :
    x >>= f = .ok b ↔ ∃ a, x = .ok a ∧ f a = .ok b := by
  cases x with
  | error e => simp [bind, Except.bind]
  | ok a => simp [bind, Except.bind]

/-- A map over a part that comes to one value under a condition comes to the image of that value. -/
theorem map_eq_ok_iff_of {ε α β : Type} {f : α → β} {x : Except ε α} {succeeds : Prop} {value : α}
    (part : ∀ a, x = .ok a ↔ succeeds ∧ value = a) {b : β} :
    x.map f = .ok b ↔ succeeds ∧ f value = b := by
  rw [map_eq_ok_iff]
  constructor
  · intro found
    obtain ⟨a, comes, same⟩ := found
    obtain ⟨holds, rfl⟩ := (part a).mp comes
    exact ⟨holds, same⟩
  · intro given
    exact ⟨value, (part value).mpr ⟨given.1, rfl⟩, given.2⟩

theorem isOk_iff {ε α : Type} {x : Except ε α} : x.isOk = true ↔ ∃ a, x = .ok a := by
  cases x with
  | error e => simp [Except.isOk, Except.toBool]
  | ok a => simp [Except.isOk, Except.toBool]

def failure? {α : Type} : Except TableError α → Option TableError
  | .ok _ => none
  | .error e => some e

theorem failure?_eq_some_iff {α : Type} {outcome : Except TableError α} {e : TableError} :
    failure? outcome = some e ↔ outcome = .error e := by
  cases outcome with
  | error f => rw [failure?, Option.some.injEq, Except.error.injEq]
  | ok a => exact ⟨nofun, nofun⟩

theorem failure?_eq_none_iff {α : Type} {outcome : Except TableError α} :
    failure? outcome = none ↔ ∃ a, outcome = .ok a := by
  cases outcome with
  | error e => exact ⟨nofun, nofun⟩
  | ok a => exact iff_of_true rfl ⟨a, rfl⟩

theorem failure?_map {α β : Type} (f : α → β) (outcome : Except TableError α) :
    failure? (outcome.map f) = failure? outcome := by
  cases outcome with
  | error e => rfl
  | ok a => rfl

/-- Where all that follows a part is a result, only the part can fail. -/
theorem failure?_bind_pure {α β : Type} (outcome : Except TableError α) (f : α → β) :
    failure? (outcome >>= fun a => pure (f a)) = failure? outcome := by
  cases outcome with
  | error e => rfl
  | ok a => rfl

namespace Query

def append (q : Query) (clauses : Clauses) : Query := { q with filter := q.filter ++ clauses }

def requireAll (q : Query) (filters : List Filter) : Query :=
  q.append (filters.map (Connective.and, ·))

@[simp] theorem append_nil (q : Query) : q.append [] = q := by
  simp only [append, List.append_nil]

theorem append_append (q : Query) (first second : Clauses) :
    (q.append first).append second = q.append (first ++ second) := by
  simp only [append, List.append_assoc]

@[simp] theorem requireAll_nil (q : Query) : q.requireAll [] = q := append_nil q

theorem requireAll_append (q : Query) (first second : List Filter) :
    q.requireAll (first ++ second) = (q.requireAll first).requireAll second := by
  simp only [requireAll, List.map_append, append_append]

@[simp] theorem orderByAll_nil (q : Query) : q.orderByAll [] = q := by
  simp only [orderByAll, List.append_nil]

theorem orderByAll_append (q : Query) (first second : List SortKey) :
    q.orderByAll (first ++ second) = (q.orderByAll first).orderByAll second := by
  simp only [orderByAll, List.append_assoc]

/-- The second query is the first one with clauses and sort keys appended. -/
def Extends (q after : Query) : Prop := ∃ clauses keys, after = (q.append clauses).orderByAll keys

theorem Extends.refl (q : Query) : q.Extends q := ⟨[], [], by rw [append_nil, orderByAll_nil]⟩

theorem Extends.trans {q r s : Query} (once : q.Extends r) (again : r.Extends s) : q.Extends s := by
  obtain ⟨clauses, keys, rfl⟩ := once
  obtain ⟨added, later, rfl⟩ := again
  refine ⟨clauses ++ added, keys ++ later, ?_⟩
  simp only [append, orderByAll, List.append_assoc]

theorem extends_requireAll (q : Query) (filters : List Filter) : q.Extends (q.requireAll filters) :=
  ⟨filters.map (Connective.and, ·), [], (orderByAll_nil _).symm⟩

theorem extends_orderByAll (q : Query) (keys : List SortKey) : q.Extends (q.orderByAll keys) :=
  ⟨[], keys, by rw [append_nil]⟩

theorem Extends.filter {q after : Query} (extension : q.Extends after) :
    ∃ added, after.filter = q.filter ++ added := by
  obtain ⟨clauses, keys, rfl⟩ := extension
  exact ⟨clauses, rfl⟩

/-- What is appended leaves the window as it is. -/
theorem Extends.window {q after : Query} (extension : q.Extends after) :
    after.skip = q.skip ∧ after.limit = q.limit := by
  obtain ⟨clauses, keys, rfl⟩ := extension
  exact ⟨rfl, rfl⟩

end Query

/-- Requiring the filter of a search, if there is one, appends at most one clause. -/
theorem Searcher.require_eq (q : Query) (filter : Option Filter) :
    Searcher.require q filter = q.requireAll filter.toList := by
  cases filter with
  | none => exact (Query.requireAll_nil q).symm
  | some filter => rfl

theorem Searcher.addColumn_eq (s : Searcher) (q : Query) (column keyword : String) (regex : Bool) :
    s.addColumn q column keyword regex = (s.column q column keyword regex).map (require q) := by
  rw [addColumn, QueryStep.run, searchColumn]
  cases s.column q column keyword regex with
  | ok filter => rfl
  | error e => rfl

theorem Searcher.addGlobal_eq (s : Searcher) (q : Query) (columns : List String) (keyword : String) :
    s.addGlobal q columns keyword = (s.global q columns keyword).map (require q) := by
  rw [addGlobal, QueryStep.run, searchColumns]
  cases s.global q columns keyword with
  | ok filter => rfl
  | error e => rfl

namespace QueryEdit

theorem run_eq_ok_iff {edit : QueryEdit} {q after : Query} :
    edit.run q = .ok after ↔ edit q = (after, none) := by
  unfold run
  split
  · rename_i changed same
    simp [same]
  · rename_i changed e same
    simp [same]

theorem run_all_cons (edit : QueryEdit) (rest : List QueryEdit) (q : Query) :
    (all (edit :: rest)).run q = edit.run q >>= (all rest).run := by
  simp only [run, all]
  rcases edit q with ⟨after, _ | e⟩ <;> rfl

/-- Whatever the query, the edit appends these clauses to its filter and stays on its collection. -/
def Appends (edit : QueryEdit) (clauses : Clauses) : Prop :=
  ∀ q, (edit q).1.filter = q.filter ++ clauses ∧ (edit q).1.collection = q.collection

def AppendsClauses (edit : QueryEdit) : Prop := ∀ q, ∃ added, (edit q).1.filter = q.filter ++ added

/-- All that the edit does to a query is to append sort keys. -/
def PushesSorts (edit : QueryEdit) : Prop := ∀ q, ∃ keys, (edit q).1 = q.orderByAll keys

theorem PushesSorts.filter_eq {edit : QueryEdit} (pushes : edit.PushesSorts) (q : Query) :
    (edit q).1.filter = q.filter := by
  obtain ⟨keys, same⟩ := pushes q
  rw [same]
  rfl

theorem PushesSorts.appendsClauses {edit : QueryEdit} (pushes : edit.PushesSorts) :
    edit.AppendsClauses := fun q => ⟨[], by rw [pushes.filter_eq, List.append_nil]⟩

/-- All that the edit does to a query is to append clauses and sort keys. -/
def Extends (edit : QueryEdit) : Prop := ∀ q, Query.Extends q (edit q).1

theorem PushesSorts.extends {edit : QueryEdit} (pushes : edit.PushesSorts) : edit.Extends := by
  intro q
  obtain ⟨keys, same⟩ := pushes q
  rw [same]
  exact q.extends_orderByAll keys

theorem Extends.run {edit : QueryEdit} (appends : edit.Extends) {q after : Query}
    (done : edit.run q = .ok after) : q.Extends after := by
  have step := appends q
  rw [run_eq_ok_iff.mp done] at step
  exact step

theorem pure_pushesSorts {change : Query → Query} (pushes : ∀ q, ∃ keys, change q = q.orderByAll keys) :
    (pure change).PushesSorts := pushes

theorem orderByAll_pushesSorts (keys : List SortKey) : PushesSorts (.pure (·.orderByAll keys)) :=
  pure_pushesSorts fun _ => ⟨keys, rfl⟩

/-- A property that identity has and composition keeps passes from edits to a row of them. -/
theorem all_induction (related : Query → Query → Prop) (same : ∀ q, related q q)
    (chain : ∀ q r s, related q r → related r s → related q s) {edits : List QueryEdit}
    (each : ∀ edit ∈ edits, ∀ q, related q (edit q).1) (q : Query) : related q (all edits q).1 := by
  induction edits generalizing q with
  | nil => exact same q
  | cons edit rest ih =>
    rw [List.forall_mem_cons] at each
    have first := each.1 q
    simp only [all]
    split
    · rename_i after done
      rw [done] at first
      exact chain q after _ first (ih each.2 after)
    · rename_i after e failed
      rw [failed] at first
      exact first

theorem all_appendsClauses {edits : List QueryEdit} (each : ∀ edit ∈ edits, edit.AppendsClauses) :
    (all edits).AppendsClauses := by
  refine all_induction (fun q after => ∃ added, after.filter = q.filter ++ added)
    (fun q => ⟨[], (List.append_nil q.filter).symm⟩) ?_ each
  intro q r s once again
  obtain ⟨first, after⟩ := once
  obtain ⟨second, last⟩ := again
  exact ⟨first ++ second, by rw [last, after, List.append_assoc]⟩

theorem all_extends {edits : List QueryEdit} (each : ∀ edit ∈ edits, edit.Extends) :
    (all edits).Extends :=
  all_induction Query.Extends Query.Extends.refl (fun _ _ _ => Query.Extends.trans) each

theorem all_pushesSorts {edits : List QueryEdit} (each : ∀ edit ∈ edits, edit.PushesSorts) :
    (all edits).PushesSorts := by
  refine all_induction (fun q after => ∃ keys, after = q.orderByAll keys)
    (fun q => ⟨[], (Query.orderByAll_nil q).symm⟩) ?_ each
  intro q r s once again
  obtain ⟨first, after⟩ := once
  obtain ⟨second, last⟩ := again
  exact ⟨first ++ second, by rw [last, after, Query.orderByAll_append]⟩

end QueryEdit

end TableQuery
