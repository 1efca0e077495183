import TableQuery.Proofs.Plan.Ordering
import TableQuery.Proofs.Search.Subquery

set_option autoImplicit false

namespace TableQuery

inductive Registration where
  | search (column : String) (search : String → QueryEdit)
  | order (column : String) (order : Direction → QueryEdit)
  | exclude (columns : List String)

namespace Registration

/-- The search that is registered for a column, if one is. -/
def searchFor? (column : String) : Registration → Option (String → QueryEdit)
  | search name found => if name = column then some found else none
  | order _ _ => none
  | exclude _ => none

/-- The order that is registered for a column, if one is. -/
def orderFor? (column : String) : Registration → Option (Direction → QueryEdit)
  | search _ _ => none
  | order name found => if name = column then some found else none
  | exclude _ => none

def excludes (column : String) : Registration → Bool
  | search _ _ => false
  | order _ _ => false
  | exclude columns => columns.contains column

def lastSearch? (column : String) (given : List Registration) : Option (String → QueryEdit) :=
  (given.filterMap (searchFor? column)).getLast?

def lastOrder? (column : String) (given : List Registration) : Option (Direction → QueryEdit) :=
  (given.filterMap (orderFor? column)).getLast?

def everExcludes (column : String) (given : List Registration) : Bool := given.any (excludes column)

/-- The rule that registrations come to for a column. -/
def merged (column : String) (given : List Registration) : ColumnRule :=
  { search := lastSearch? column given, order := lastOrder? column given
    excluded := everExcludes column given }

theorem getLast?_filterMap_concat {α β : Type} (f : α → Option β) (earlier : List α) (last : α) :
    ((earlier ++ [last]).filterMap f).getLast? = (f last).or (earlier.filterMap f).getLast? := by
  rw [List.filterMap_append, List.getLast?_append]
  cases found : f last with
  | none => rw [List.filterMap_cons_none found]; rfl
  | some b => rw [List.filterMap_cons_some found]; rfl

/-- The last registration counts where it says something of the column, the earlier ones count elsewhere. -/
theorem merged_concat (column : String) (given : List Registration) (last : Registration) :
    merged column (given ++ [last]) =
      { search := (last.searchFor? column).or (merged column given).search
        order := (last.orderFor? column).or (merged column given).order
        excluded := (merged column given).excluded || last.excludes column } := by
  simp only [merged, lastSearch?, lastOrder?, everExcludes, getLast?_filterMap_concat, List.any_append,
    List.any_cons, List.any_nil, Bool.or_false]

end Registration

namespace Rules

/-- How rules came about: from none, or from the default exclusions, by registrations one after the other. The
default exclusions count as registered. -/
inductive BuiltBy : List Registration → Rules → Prop
  | nothing : BuiltBy [] {}
  | byDefault : BuiltBy [.exclude defaultExclusions] withDefaultExclusions
  | search {given : List Registration} {r : Rules} (built : BuiltBy given r) (column : String)
      (search : String → QueryEdit) :
      BuiltBy (given ++ [.search column search]) (r.searchColumnBy column search)
  | order {given : List Registration} {r : Rules} (built : BuiltBy given r) (column : String)
      (order : Direction → QueryEdit) :
      BuiltBy (given ++ [.order column order]) (r.orderColumnBy column order)
  | exclude {given : List Registration} {r : Rules} (built : BuiltBy given r) (columns : List String) :
      BuiltBy (given ++ [.exclude columns]) (r.exclude columns)

/-- The rule of a column; without one, nothing is registered. -/
def ruleOf (r : Rules) (column : String) : ColumnRule := (r.get? column).getD {}

section

variable (r : Rules) (column other : String)

theorem search?_eq : r.search? column = (r.ruleOf column).search := by
  unfold search? ruleOf
  cases r.get? column with
  | none => rfl
  | some rule => rfl

theorem order?_eq : r.order? column = (r.ruleOf column).order := by
  unfold order? ruleOf
  cases r.get? column with
  | none => rfl
  | some rule => rfl

theorem isExcluded_eq : r.isExcluded column = (r.ruleOf column).excluded := by
  unfold isExcluded ruleOf
  cases r.get? column with
  | none => rfl
  | some rule => rfl

/-- A change of one column's rule leaves the rules of the others as they are. -/
theorem ruleOf_update (change : ColumnRule → ColumnRule) :
    (r.update column change).ruleOf other =
      if other = column then change (r.ruleOf column) else r.ruleOf other := by
  obtain ⟨entries⟩ := r
  unfold update ruleOf get?
  induction entries with
  | nil =>
    by_cases same : other = column
    · subst same
      simp [updateEntries]
    · simp [updateEntries, same, Ne.symm same]
  | cons entry rest ih =>
    obtain ⟨name, rule⟩ := entry
    by_cases here : name = column
    · subst here
      by_cases same : other = name
      · subst same
        simp [updateEntries]
      · simp [updateEntries, same, Ne.symm same]
    · by_cases same : name = other
      · subst same
        simp [updateEntries, here]
      · simpa [updateEntries, here, same, List.find?_cons] using ih

/-- Excluding columns bears on these columns, and on nothing else of their rules. -/
theorem ruleOf_exclude (columns : List String) :
    (r.exclude columns).ruleOf column =
      { r.ruleOf column with excluded := (r.ruleOf column).excluded || columns.contains column } := by
  unfold exclude
  induction columns generalizing r with
  | nil => simp
  | cons first rest ih =>
    rw [List.foldl_cons, ih, ruleOf_update]
    by_cases same : column = first
    · subst same
      simp
    · simp [same]

end

/--
What applying an edit that may be absent comes to. The edit is made, and its failure is the failure of the whole.
Without an edit the query stays as it is, and that alone is told as `false`.
-/
structure Applies (edit : Option QueryEdit) (q : Query) (outcome : Query × Except TableError Bool) : Prop where
  made : ∀ change, edit = some change → outcome = ((change q).1, settled (change q).2 true)
  absent : edit = none → outcome = (q, .ok false)
  told : outcome.2 = .ok false ↔ edit = none

theorem applyAny_applies (edit : Option QueryEdit) (q : Query) : Applies edit q (applyAny edit q) := by
  cases edit with
  | none =>
    exact
      { made := fun change made => by cases made
        absent := fun _ => rfl
        told := iff_of_true rfl rfl }
  | some change =>
    have made : applyAny (some change) q = ((change q).1, settled (change q).2 true) := by
      simp only [applyAny]
      rcases change q with ⟨after, _ | e⟩
      · rfl
      · rfl
    refine { made := fun other same => ?_, absent := fun absent => ?_, told := iff_of_false ?_ nofun }
    · cases same
      exact made
    · cases absent
    · rw [made]
      rcases (change q).2 with _ | e
      · exact nofun
      · exact nofun

/-- The rule of a column is what the registrations come to. -/
theorem BuiltBy.ruleOf_eq {given : List Registration} {r : Rules} (built : r.BuiltBy given) (column : String) :
    r.ruleOf column = Registration.merged column given := by
  induction built with
  | nothing => rfl
  | byDefault =>
    have alone := Registration.merged_concat column [] (.exclude defaultExclusions)
    rw [List.nil_append] at alone
    rw [alone, withDefaultExclusions, ruleOf_exclude]
    rfl
  | search built name found ih =>
    rw [Registration.merged_concat, searchColumnBy, ruleOf_update, ← ih]
    by_cases same : column = name
    · subst same
      simp [Registration.searchFor?, Registration.orderFor?, Registration.excludes]
    · simp [Registration.searchFor?, Registration.orderFor?, Registration.excludes, same, Ne.symm same]
  | order built name found ih =>
    rw [Registration.merged_concat, orderColumnBy, ruleOf_update, ← ih]
    by_cases same : column = name
    · subst same
      simp [Registration.searchFor?, Registration.orderFor?, Registration.excludes]
    · simp [Registration.searchFor?, Registration.orderFor?, Registration.excludes, same, Ne.symm same]
  | exclude built columns ih =>
    rw [Registration.merged_concat, ruleOf_exclude, ← ih]
    rfl

section

variable {given : List Registration} {r : Rules} (built : r.BuiltBy given)
include built

theorem BuiltBy.applySearch_applies (column keyword : String) (q : Query) :
    Applies ((Registration.lastSearch? column given).map (· keyword)) q (r.applySearch column keyword q) := by
  have last := applyAny_applies (r.searchEdit? column keyword) q
  rw [searchEdit?, search?_eq, built.ruleOf_eq] at last
  rw [applySearch, searchEdit?, search?_eq, built.ruleOf_eq]
  exact last

theorem BuiltBy.applyOrder_applies (column : String) (direction : Direction) (q : Query) :
    Applies ((Registration.lastOrder? column given).map (· direction)) q (r.applyOrder column direction q) := by
  have last := applyAny_applies (r.orderEdit? column direction) q
  rw [orderEdit?, order?_eq, built.ruleOf_eq] at last
  rw [applyOrder, orderEdit?, order?_eq, built.ruleOf_eq]
  exact last

theorem BuiltBy.isBarredFromSearch_iff (column : String) : r.isBarredFromSearch column = true ↔
    Registration.everExcludes column given = true ∧ Registration.lastSearch? column given = none := by
  rw [isBarredFromSearch, isExcluded_eq, search?_eq, built.ruleOf_eq, Bool.and_eq_true,
    Option.isNone_iff_eq_none]
  rfl

theorem BuiltBy.isBarredFromOrder_iff (column : String) : r.isBarredFromOrder column = true ↔
    Registration.everExcludes column given = true ∧ Registration.lastOrder? column given = none := by
  rw [isBarredFromOrder, isExcluded_eq, order?_eq, built.ruleOf_eq, Bool.and_eq_true,
    Option.isNone_iff_eq_none]
  rfl

end

end Rules

end TableQuery
