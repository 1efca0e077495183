import TableQuery.Rules

set_option autoImplicit false

namespace TableQuery

/-- What searches need to know besides the query. -/
structure Searcher where
  settings : SearchSettings
  rules : Rules

namespace Searcher

/-- What the search of a column adds to a fresh query; nothing where it adds no clause. -/
def byRule (base : Query) (search : QueryEdit) : Except TableError (Option Filter) :=
  (search.run base.fresh).map fun found =>
    if found.hasFilters then some (.group found.filter) else none

/-- The filter of one column, with the pattern of a column that has no search of its own. -/
def columnFilter (s : Searcher) (base : Query) (column keyword : String) (pattern : SearchPattern) :
    Except TableError (Option Filter) :=
  match s.rules.searchEdit? column keyword with
  | some search => byRule base search
  | none => .ok (if s.rules.isBarredFromSearch column then none else some (.regex column pattern))

/-- The filter of a search in one column; under `regex` the keyword is itself the pattern. -/
def column (s : Searcher) (base : Query) (column keyword : String) (regex : Bool) :
    Except TableError (Option Filter) :=
  s.columnFilter base column keyword
    (if regex then s.settings.verbatimPattern keyword else s.settings.patternOf keyword)

def contributions (s : Searcher) (base : Query) (keyword : String) :
    List String → Except TableError (List Filter)
  | [] => .ok []
  | column :: rest => do
    let filter ← s.columnFilter base column keyword (s.settings.patternOf keyword)
    let filters ← s.contributions base keyword rest
    pure (filter.toList ++ filters)

/-- The filter of a search over several columns; nothing where no column contributes. -/
def global (s : Searcher) (base : Query) (columns : List String) (keyword : String) :
    Except TableError (Option Filter) :=
  (s.contributions base keyword columns).map fun filters =>
    if filters.isEmpty then none else some (.group (filters.map fun f => (Connective.or, f)))

def require (q : Query) : Option Filter → Query
  | some filter => q.push .and filter
  | none => q

/-- Requires what a search comes to, and answers whether that is a filter. -/
def addFound (q : Query) : Except TableError (Option Filter) → Query × Except TableError Bool
  | .ok filter => (require q filter, .ok filter.isSome)
  | .error e => (q, .error e)

def searchColumn (s : Searcher) (column keyword : String) (regex : Bool) : QueryStep := fun q =>
  addFound q (s.column q column keyword regex)

def searchColumns (s : Searcher) (columns : List String) (keyword : String) : QueryStep := fun q =>
  addFound q (s.global q columns keyword)

def addColumn (s : Searcher) (q : Query) (column keyword : String) (regex : Bool) : Except TableError Query :=
  (s.searchColumn column keyword regex).run q

def addGlobal (s : Searcher) (q : Query) (columns : List String) (keyword : String) : Except TableError Query :=
  (s.searchColumns columns keyword).run q

end Searcher

end TableQuery
