import TableQuery.Proofs.Query.Edit

set_option autoImplicit false

namespace TableQuery

def settled {α : Type} (failure : Option TableError) (value : α) : Except TableError α :=
  match failure with
  | some e => .error e
  | none => .ok value

theorem map_settled {α β : Type} (f : α → β) (failure : Option TableError) (value : α) :
    (settled failure value).map f = settled failure (f value) := by
  cases failure with
  | some e => rfl
  | none => rfl

theorem QueryEdit.run_eq_settled (edit : QueryEdit) (q : Query) : edit.run q = settled (edit q).2 (edit q).1 := by
  unfold run
  rcases edit q with ⟨after, _ | e⟩
  · rfl
  · rfl

def Filter.grouped (clauses : Clauses) : Option Filter :=
  if clauses.isEmpty then none else some (.group clauses)

theorem Filter.grouped_eq (q : Query) :
    (if q.hasFilters then some (Filter.group q.filter) else none) = Filter.grouped q.filter := by
  unfold grouped Query.hasFilters
  cases q.filter.isEmpty with
  | true => rfl
  | false => rfl

/--
How a query takes in a part that is built apart. Where building the part fails, or comes to no filter, the query
stays as it was. Otherwise its filter is appended as one clause.
-/
structure Query.TakesIn (q : Query) (connective : Connective) (failure : Option TableError) (part : Option Filter)
    (outcome : Query × Option TableError) : Prop where
  failed : ∀ e, failure = some e → outcome = (q, some e)
  empty : failure = none → part = none → outcome = (q, none)
  filled : ∀ filter, failure = none → part = some filter →
    outcome = ({ q with filter := q.filter ++ [(connective, filter)] }, none)

namespace Query

variable {q nested : Query} {connective : Connective} {failure : Option TableError} {part other : Option Filter}
  {outcome : Query × Option TableError} {filter : Filter}

/-- What a part that fails would have come to makes no difference. -/
theorem TakesIn.of_agree (takes : q.TakesIn connective failure part outcome)
    (agree : failure = none → part = other) : q.TakesIn connective failure other outcome :=
  { failed := takes.failed
    empty := fun works none_found => takes.empty works ((agree works).trans none_found)
    filled := fun filter works found => takes.filled filter works ((agree works).trans found) }

theorem nest_of_grouped_none (empty : Filter.grouped nested.filter = none) : q.nest nested connective = q := by
  unfold Filter.grouped at empty
  split at empty
  · rename_i none_there
    rw [nest, if_pos none_there]
  · cases empty

theorem nest_of_grouped_some (found : Filter.grouped nested.filter = some filter) :
    q.nest nested connective = q.push connective filter := by
  unfold Filter.grouped at found
  split at found
  · cases found
  · rename_i some_there
    cases found
    rw [nest, if_neg some_there]

end Query

namespace QueryEdit

/-- A group is built on an empty query on the same collection, and the outer query takes in its clauses. -/
theorem group_takesIn (connective : Connective) (build : QueryEdit) (q : Query) :
    q.TakesIn connective (build { collection := q.collection }).2
      (Filter.grouped (build { collection := q.collection }).1.filter) (group connective build q) := by
  rw [group, run_eq_settled]
  refine { failed := fun e fails => ?_, empty := fun works empty => ?_, filled := fun filter works found => ?_ }
  · rw [Query.fresh, fails]
    rfl
  · rw [Query.fresh, works]
    exact congrArg (·, none) (Query.nest_of_grouped_none empty)
  · rw [Query.fresh, works]
    exact congrArg (·, none) (Query.nest_of_grouped_some found)

end QueryEdit

namespace Searcher

variable {s : Searcher} {q : Query} {keyword : String}

def failureOn? (s : Searcher) (collection keyword column : String) : Option TableError :=
  (s.rules.searchEdit? column keyword).bind fun search => (search { collection }).2

/-- What a search in a column comes to: the clauses of the search that is registered for it, on an empty query on
the collection, or else the pattern, unless searches pass over the column. -/
def partOn? (s : Searcher) (collection keyword : String) (pattern : SearchPattern) (column : String) :
    Option Filter :=
  match s.rules.searchEdit? column keyword with
  | some search => Filter.grouped (search { collection }).1.filter
  | none => if s.rules.isBarredFromSearch column then none else some (.regex column pattern)

theorem byRule_eq (search : QueryEdit) :
    byRule q search = settled (search { collection := q.collection }).2
      (Filter.grouped (search { collection := q.collection }).1.filter) := by
  rw [byRule, QueryEdit.run_eq_settled, map_settled, Filter.grouped_eq]
  rfl

theorem columnFilter_eq (column : String) (pattern : SearchPattern) :
    s.columnFilter q column keyword pattern =
      settled (s.failureOn? q.collection keyword column) (s.partOn? q.collection keyword pattern column) := by
  unfold columnFilter failureOn? partOn?
  cases s.rules.searchEdit? column keyword with
  | none => rfl
  | some search => exact byRule_eq search

theorem contributions_eq (columns : List String) :
    s.contributions q keyword columns =
      settled (columns.findSome? (s.failureOn? q.collection keyword))
        (columns.filterMap (s.partOn? q.collection keyword (s.settings.patternOf keyword))) := by
  induction columns with
  | nil => rfl
  | cons column rest ih =>
    rw [contributions, columnFilter_eq, ih, List.findSome?_cons, List.filterMap_cons]
    cases s.failureOn? q.collection keyword column with
    | some e => rfl
    | none =>
      cases rest.findSome? (s.failureOn? q.collection keyword) with
      | some e => rfl
      | none =>
        cases s.partOn? q.collection keyword (s.settings.patternOf keyword) column with
        | none => rfl
        | some filter => rfl

theorem global_eq (columns : List String) :
    s.global q columns keyword =
      settled (columns.findSome? (s.failureOn? q.collection keyword))
        (Filter.grouped ((columns.filterMap (s.partOn? q.collection keyword (s.settings.patternOf keyword))).map
          (Connective.or, ·))) := by
  rw [global, contributions_eq, map_settled, Filter.grouped, List.isEmpty_map]

/-- A query takes in what a search comes to, and the answer is whether that is a filter. -/
theorem addFound_takesIn {found : Except TableError (Option Filter)} {failure : Option TableError}
    {part : Option Filter} (same : found = settled failure part) :
    q.TakesIn .and failure part ((addFound q found).1, TableQuery.failure? (addFound q found).2) ∧
      (addFound q found).2 = settled failure part.isSome := by
  subst same
  cases failure with
  | some e =>
    refine ⟨{ failed := fun f same => ?_, empty := nofun, filled := nofun }, rfl⟩
    cases same
    rfl
  | none =>
    refine ⟨{ failed := nofun, empty := fun _ none_found => ?_, filled := fun filter _ found => ?_ }, rfl⟩
    · subst none_found
      rfl
    · subst found
      rfl

end Searcher

/-- An action on a query. The actions of a group are made on a query of their own. -/
inductive QueryAction where
  | clause (connective : Connective) (filter : Filter)
  | order (field : String) (direction : Direction)
  | skip (n : Nat)
  | limit (n : Nat)
  | group (connective : Connective) (actions : List QueryAction)
  | fail (e : TableError)

namespace QueryAction

def perform : QueryAction → QueryEdit
  | clause connective filter => .pure (·.push connective filter)
  | order field direction => .pure (·.orderBy field direction)
  | skip n => .pure (·.skipRows n)
  | limit n => .pure (·.limitRows n)
  | group connective actions => .group connective (.all (performEach actions))
  | fail e => .fail e
where
  /-- What each action does to a query. -/
  performEach : List QueryAction → List QueryEdit
    | [] => []
    | action :: rest => perform action :: performEach rest

/-- Why an action fails, if it does: a group fails as the first of its actions that does. -/
def failure? : QueryAction → Option TableError
  | fail e => some e
  | group _ actions => firstFailure? actions
  | _ => none
where
  /-- Why the first action fails that does. -/
  firstFailure? : List QueryAction → Option TableError
    | [] => none
    | action :: rest => (failure? action).or (firstFailure? rest)

def clause? : QueryAction → Option (Connective × Filter)
  | clause connective filter => some (connective, filter)
  | group connective actions => (Filter.grouped (clauses actions)).map (connective, ·)
  | _ => none
where
  /-- The clauses that actions append. -/
  clauses : List QueryAction → Clauses
    | [] => []
    | action :: rest => (clause? action).toList ++ clauses rest

theorem firstFailure?_eq (actions : List QueryAction) :
    failure?.firstFailure? actions = actions.findSome? failure? := by
  induction actions with
  | nil => rfl
  | cons action rest ih =>
    rw [failure?.firstFailure?, ih, List.findSome?_cons]
    cases action.failure? with
    | none => rfl
    | some e => rfl

theorem clauses_eq (actions : List QueryAction) : clause?.clauses actions = actions.filterMap clause? := by
  induction actions with
  | nil => rfl
  | cons action rest ih =>
    rw [clause?.clauses, ih, List.filterMap_cons]
    cases action.clause? with
    | none => rfl
    | some clause => rfl

end QueryAction

namespace QueryEdit

/-- Whatever the query, the edit fails in this way, or succeeds and appends these clauses to the filter, on the
same collection. -/
def ComesTo (edit : QueryEdit) (failure : Option TableError) (clauses : Clauses) : Prop :=
  ∀ q, (edit q).2 = failure ∧ (failure = none →
    (edit q).1.filter = q.filter ++ clauses ∧ (edit q).1.collection = q.collection)

variable {edit build : QueryEdit} {failure later : Option TableError} {clauses added : Clauses}

theorem pure_comesTo {change : Query → Query} (appends : ∀ q, (change q).filter = q.filter ++ clauses)
    (stays : ∀ q, (change q).collection = q.collection) : (pure change).ComesTo none clauses :=
  fun q => ⟨rfl, fun _ => ⟨appends q, stays q⟩⟩

theorem all_nil_comesTo : (all []).ComesTo none [] := fun q => ⟨rfl, fun _ => ⟨(List.append_nil q.filter).symm, rfl⟩⟩

/-- An edit and then others: the first failure counts, and the clauses are those of all. -/
theorem ComesTo.cons {rest : List QueryEdit} (first : edit.ComesTo failure clauses)
    (others : (all rest).ComesTo later added) :
    (all (edit :: rest)).ComesTo (failure.or later) (clauses ++ added) := by
  intro q
  have step := first q
  unfold all
  generalize edit q = made at step ⊢
  rcases made with ⟨after, _ | e⟩
  · obtain ⟨rfl, appends⟩ := step
    obtain ⟨filter, collection⟩ := appends rfl
    obtain ⟨fails, follow⟩ := others after
    refine ⟨fails, fun works => ?_⟩
    obtain ⟨last, same⟩ := follow works
    exact ⟨by rw [last, filter, List.append_assoc], same.trans collection⟩
  · obtain ⟨rfl, _⟩ := step
    exact ⟨rfl, fun works => absurd works (Option.some_ne_none e)⟩

theorem ComesTo.takesIn (comes : build.ComesTo failure clauses) (connective : Connective) (q : Query) :
    q.TakesIn connective failure (Filter.grouped clauses) (group connective build q) := by
  obtain ⟨fails, appends⟩ := comes { collection := q.collection }
  have takes := group_takesIn connective build q
  rw [fails] at takes
  refine takes.of_agree fun works => ?_
  rw [(appends works).1, List.nil_append]

theorem ComesTo.group (comes : build.ComesTo failure clauses) (connective : Connective) :
    (group connective build).ComesTo failure ((Filter.grouped clauses).map (connective, ·)).toList := by
  intro q
  have takes := comes.takesIn connective q
  cases failure with
  | some e =>
    rw [takes.failed e rfl]
    exact ⟨rfl, nofun⟩
  | none =>
    cases found : Filter.grouped clauses with
    | none =>
      rw [takes.empty rfl found]
      exact ⟨rfl, fun _ => ⟨(List.append_nil q.filter).symm, rfl⟩⟩
    | some filter =>
      rw [takes.filled filter rfl found]
      exact ⟨rfl, fun _ => ⟨rfl, rfl⟩⟩

end QueryEdit

namespace QueryAction

open QueryEdit

mutual

theorem perform_comesTo : ∀ action : QueryAction,
    action.perform.ComesTo action.failure? action.clause?.toList
  | clause _ _ => pure_comesTo (fun _ => rfl) fun _ => rfl
  | order _ _ => pure_comesTo (fun q => (List.append_nil q.filter).symm) fun _ => rfl
  | skip _ => pure_comesTo (fun q => (List.append_nil q.filter).symm) fun _ => rfl
  | limit _ => pure_comesTo (fun q => (List.append_nil q.filter).symm) fun _ => rfl
  | group connective actions => (performEach_comesTo actions).group connective
  | fail _ => fun _ => ⟨rfl, nofun⟩

theorem performEach_comesTo : ∀ actions : List QueryAction,
    (all (perform.performEach actions)).ComesTo (failure?.firstFailure? actions) (clause?.clauses actions)
  | [] => all_nil_comesTo
  | action :: rest => (perform_comesTo action).cons (performEach_comesTo rest)

end

/-- A group takes in the clauses of its actions, and nothing else that they do, at whatever depth. -/
theorem group_takesIn (connective : Connective) (actions : List QueryAction) (q : Query) :
    q.TakesIn connective (actions.findSome? failure?) (Filter.grouped (actions.filterMap clause?))
      ((group connective actions).perform q) := by
  rw [← firstFailure?_eq, ← clauses_eq]
  exact (performEach_comesTo actions).takesIn connective q

/-- The order, the skip and the limit are lost with the queries they were set on. -/
example :
    (group .or [clause .and (.present "name" true), order "age" .desc,
      group .or [limit 3, clause .and (.present "team" false)], group .and [skip 5]]).perform
        { collection := "crew", skip := some 2 } =
      ({ collection := "crew", skip := some 2
         filter := [(.or, .group [(.and, .present "name" true), (.or, .group [(.and, .present "team" false)])])] },
        none) := rfl

end QueryAction

/--
Sub-queries are built apart, and taken in whole or not at all. A group, the search registered for a column, and
each such search among those of several columns start on an empty query on the same collection. Where one fails,
or all of them come to no filter, the outer query stays as it was; otherwise it has one clause more, and a search
answers whether it has. A column without a search of its own contributes its pattern, unless searches pass over it.
Of the actions that make up a group, and of those in the groups inside it, only clauses count.
-/
theorem subqueries_taken_in (s : Searcher) (q : Query) :
    (∀ connective build, q.TakesIn connective (build { collection := q.collection }).2
      (Filter.grouped (build { collection := q.collection }).1.filter) (QueryEdit.group connective build q)) ∧
    (∀ column keyword regex,
      let failure := s.failureOn? q.collection keyword column
      let part := s.partOn? q.collection keyword
        (if regex then s.settings.verbatimPattern keyword else s.settings.patternOf keyword) column
      let outcome := s.searchColumn column keyword regex q
      q.TakesIn .and failure part (outcome.1, failure? outcome.2) ∧ outcome.2 = settled failure part.isSome) ∧
    (∀ columns keyword,
      let failure := columns.findSome? (s.failureOn? q.collection keyword)
      let part := Filter.grouped ((columns.filterMap
        (s.partOn? q.collection keyword (s.settings.patternOf keyword))).map (Connective.or, ·))
      let outcome := s.searchColumns columns keyword q
      q.TakesIn .and failure part (outcome.1, failure? outcome.2) ∧ outcome.2 = settled failure part.isSome) ∧
    ∀ connective actions, q.TakesIn connective (actions.findSome? QueryAction.failure?)
      (Filter.grouped (actions.filterMap QueryAction.clause?)) ((QueryAction.group connective actions).perform q) :=
  ⟨fun connective build => QueryEdit.group_takesIn connective build q,
    fun column _ _ => Searcher.addFound_takesIn (Searcher.columnFilter_eq column _),
    fun columns _ => Searcher.addFound_takesIn (Searcher.global_eq columns),
    fun connective actions => QueryAction.group_takesIn connective actions q⟩

end TableQuery
