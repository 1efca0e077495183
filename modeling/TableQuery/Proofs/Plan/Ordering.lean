import TableQuery.Plan
import TableQuery.Proofs.Query.Edit

set_option autoImplicit false

namespace TableQuery

theorem Log.writeAll_append (log : Log) (first second : List LogEntry) :
    log.writeAll (first ++ second) = (log.writeAll first).writeAll second :=
  List.foldl_append

namespace Rules

/-- Every order that a column has of its own is of one kind. -/
def OrdersBy (r : Rules) (kind : QueryEdit → Prop) : Prop :=
  ∀ column direction edit, r.orderEdit? column direction = some edit → kind edit

theorem OrdersBy.appendsClauses {r : Rules} (pushes : r.OrdersBy QueryEdit.PushesSorts) :
    r.OrdersBy QueryEdit.AppendsClauses := by
  intro column direction edit registered
  exact (pushes column direction edit registered).appendsClauses

theorem ordersBy_of_entries {r : Rules} {kind : QueryEdit → Prop}
    (each : ∀ entry ∈ r.entries, ∀ order ∈ entry.2.order, ∀ direction, kind (order direction)) :
    r.OrdersBy kind := by
  intro column direction edit registered
  obtain ⟨order, found, rfl⟩ := Option.map_eq_some_iff.mp registered
  obtain ⟨rule, ruled, ordered⟩ := Option.bind_eq_some_iff.mp found
  obtain ⟨entry, entered, rfl⟩ := Option.map_eq_some_iff.mp ruled
  exact each entry (List.mem_of_find?_eq_some entered) order ordered direction

/-- No column has an order of its own. -/
def Unordered (r : Rules) : Prop := ∀ column, r.order? column = none

theorem Unordered.ordersBy {r : Rules} (unordered : r.Unordered) (kind : QueryEdit → Prop) :
    r.OrdersBy kind := by
  intro column direction edit registered
  rw [orderEdit?, unordered column] at registered
  cases registered

theorem get?_bind_eq_none {α : Type} {r : Rules} {part : ColumnRule → Option α}
    (each : ∀ entry ∈ r.entries, (part entry.2).isNone = true) (column : String) :
    (r.get? column).bind part = none := by
  rw [Option.bind_eq_none_iff]
  intro rule ruled
  obtain ⟨entry, entered, rfl⟩ := Option.map_eq_some_iff.mp ruled
  exact Option.isNone_iff_eq_none.mp (each entry (List.mem_of_find?_eq_some entered))

theorem withDefaultExclusions_unordered : withDefaultExclusions.Unordered :=
  get?_bind_eq_none (by decide)

def orderStep (r : Rules) (resolve : Nat → Option String) (order : ColumnOrder) : QueryEdit :=
  match resolve order.column with
  | none => .pure id
  | some column =>
    if r.isBarredFromOrder column then .pure id
    else (r.orderEdit? column order.direction).getD (.pure (·.orderBy column order.direction))

def orderSteps (r : Rules) (resolve : Nat → Option String) (orders : List ColumnOrder) : QueryEdit :=
  .all (orders.map (r.orderStep resolve))

/-- Planning makes the steps of the orders; which entries it writes does not depend on the log. -/
theorem planOrders_eq (r : Rules) (resolve : Nat → Option String) (orders : List ColumnOrder)
    (q : Query) :
    ∃ entries, ∀ log, r.planOrders resolve orders log q =
      ⟨log.writeAll entries, (r.orderSteps resolve orders q).1, (r.orderSteps resolve orders q).2⟩ := by
  induction orders generalizing q with
  | nil => exact ⟨[], fun log => rfl⟩
  | cons order rest ih =>
    unfold orderSteps at ih ⊢
    simp only [planOrders, List.map_cons, QueryEdit.all, orderStep]
    cases resolve order.column with
    | none =>
      obtain ⟨entries, planned⟩ := ih q
      exact ⟨unresolvedEntry order.column "order" :: entries, fun log => planned _⟩
    | some column =>
      by_cases barred : r.isBarredFromOrder column = true
      · simp only [barred, ↓reduceIte]
        exact ih q
      · simp only [barred, Bool.false_eq_true, ↓reduceIte]
        cases r.orderEdit? column order.direction with
        | none => exact ih (q.orderBy column order.direction)
        | some edit =>
          simp only [Option.getD_some]
          rcases edit q with ⟨after, _ | e⟩
          · exact ih after
          · exact ⟨[], fun log => rfl⟩

/-- Orders are of one kind where pushing sort keys is, the own orders of columns are, and edits of the kind
are when they are made one after the other. -/
theorem orderSteps_induction {kind : QueryEdit → Prop} (keyed : ∀ keys, kind (.pure (·.orderByAll keys)))
    (row : ∀ edits : List QueryEdit, (∀ edit ∈ edits, kind edit) → kind (.all edits)) {r : Rules}
    (own : r.OrdersBy kind) (resolve : Nat → Option String) (orders : List ColumnOrder) :
    kind (r.orderSteps resolve orders) := by
  have idle : kind (.pure id) := by
    have same : QueryEdit.pure (·.orderByAll []) = .pure id :=
      congrArg QueryEdit.pure (funext Query.orderByAll_nil)
    exact same ▸ keyed []
  refine row _ fun edit member => ?_
  obtain ⟨order, _, rfl⟩ := List.mem_map.mp member
  unfold orderStep
  split
  · exact idle
  · rename_i column named
    split
    · exact idle
    · cases found : r.orderEdit? column order.direction with
      | none => exact keyed [⟨column, order.direction⟩]
      | some edit => exact own column order.direction edit found

/-- Orders that only append clauses and sort keys leave the clauses of the search where they are. -/
theorem orderSteps_appendsClauses {r : Rules} (own : r.OrdersBy QueryEdit.AppendsClauses)
    (resolve : Nat → Option String) (orders : List ColumnOrder) :
    (r.orderSteps resolve orders).AppendsClauses :=
  orderSteps_induction (fun keys => (QueryEdit.orderByAll_pushesSorts keys).appendsClauses)
    (fun _ => QueryEdit.all_appendsClauses) own resolve orders

theorem orderSteps_extends {r : Rules} (own : r.OrdersBy QueryEdit.Extends)
    (resolve : Nat → Option String) (orders : List ColumnOrder) :
    (r.orderSteps resolve orders).Extends :=
  orderSteps_induction (fun keys => (QueryEdit.orderByAll_pushesSorts keys).extends)
    (fun _ => QueryEdit.all_extends) own resolve orders

theorem orderSteps_pushesSorts {r : Rules} (own : r.OrdersBy QueryEdit.PushesSorts)
    (resolve : Nat → Option String) (orders : List ColumnOrder) :
    (r.orderSteps resolve orders).PushesSorts :=
  orderSteps_induction QueryEdit.orderByAll_pushesSorts (fun _ => QueryEdit.all_pushesSorts) own resolve orders

/-- The sort keys that an order adds to a query, or the failure of the column's own order. -/
def orderKeys (r : Rules) (resolve : Nat → Option String) (q : Query) (order : ColumnOrder) :
    Except TableError (List SortKey) :=
  match resolve order.column with
  | none => .ok []
  | some column =>
    if r.isBarredFromOrder column then .ok []
    else
      match r.orderEdit? column order.direction with
      | none => .ok [⟨column, order.direction⟩]
      | some edit => (edit.run q).map fun after => after.sorts.drop q.sorts.length

def plannedKeys (r : Rules) (resolve : Nat → Option String) :
    Query → List ColumnOrder → Except TableError (List SortKey)
  | _, [] => .ok []
  | q, order :: rest => do
    let keys ← r.orderKeys resolve q order
    let later ← r.plannedKeys resolve (q.orderByAll keys) rest
    pure (keys ++ later)

/-- Where own orders only push sort keys, one order amounts to its sort keys. -/
theorem orderStep_run_eq_ok_iff {r : Rules} (own : r.OrdersBy QueryEdit.PushesSorts)
    (resolve : Nat → Option String) (order : ColumnOrder) (q after : Query) :
    (r.orderStep resolve order).run q = .ok after ↔
      ∃ keys, r.orderKeys resolve q order = .ok keys ∧ q.orderByAll keys = after := by
  have idle : (QueryEdit.pure id).run q = .ok after ↔ q.orderByAll [] = after := by
    rw [QueryEdit.run_eq_ok_iff, Query.orderByAll_nil]
    exact ⟨fun same => congrArg Prod.fst same, fun same => congrArg (·, none) same⟩
  unfold orderStep orderKeys
  split
  · simpa only [Except.ok.injEq, exists_eq_left'] using idle
  · rename_i column named
    by_cases barred : r.isBarredFromOrder column = true
    · simpa only [barred, ↓reduceIte, Except.ok.injEq, exists_eq_left'] using idle
    · simp only [barred, Bool.false_eq_true, ↓reduceIte]
      cases found : r.orderEdit? column order.direction with
      | none =>
        simp only [Option.getD_none, QueryEdit.run_eq_ok_iff, Except.ok.injEq, exists_eq_left']
        exact ⟨fun same => congrArg Prod.fst same, fun same => congrArg (·, none) same⟩
      | some edit =>
        simp only [Option.getD_some, map_eq_ok_iff, QueryEdit.run_eq_ok_iff]
        constructor
        · intro done
          obtain ⟨keys, pushed⟩ := own column order.direction edit found q
          rw [done] at pushed
          subst pushed
          refine ⟨keys, ⟨_, done, ?_⟩, rfl⟩
          simp only [Query.orderByAll, List.drop_left']
        · intro given
          obtain ⟨keys, ⟨reached, done, rfl⟩, rfl⟩ := given
          obtain ⟨keys, pushed⟩ := own column order.direction edit found q
          rw [done] at pushed
          subst pushed
          simpa only [Query.orderByAll, List.drop_left'] using done

theorem orderSteps_run_eq_ok_iff {r : Rules} (own : r.OrdersBy QueryEdit.PushesSorts)
    (resolve : Nat → Option String) (orders : List ColumnOrder) (q after : Query) :
    (r.orderSteps resolve orders).run q = .ok after ↔
      ∃ keys, r.plannedKeys resolve q orders = .ok keys ∧ q.orderByAll keys = after := by
  induction orders generalizing q with
  | nil =>
    simp only [plannedKeys, Except.ok.injEq, exists_eq_left', Query.orderByAll_nil]
    rw [QueryEdit.run_eq_ok_iff]
    exact ⟨fun same => congrArg Prod.fst same, fun same => congrArg (·, none) same⟩
  | cons order rest ih =>
    unfold orderSteps at ih ⊢
    rw [List.map_cons, QueryEdit.run_all_cons, bind_eq_ok_iff]
    simp only [orderStep_run_eq_ok_iff own, ih, plannedKeys, bind_eq_ok_iff]
    constructor
    · intro given
      obtain ⟨_, ⟨keys, first, rfl⟩, later, planned, rfl⟩ := given
      exact ⟨keys ++ later, ⟨keys, first, later, planned, rfl⟩, Query.orderByAll_append q keys later⟩
    · intro given
      obtain ⟨_, ⟨keys, first, later, planned, same⟩, rfl⟩ := given
      cases same
      exact ⟨q.orderByAll keys, ⟨keys, first, rfl⟩, later, planned,
        (Query.orderByAll_append q keys later).symm⟩

end Rules

end TableQuery
