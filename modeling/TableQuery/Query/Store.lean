import TableQuery.Query.Basic

set_option autoImplicit false

namespace TableQuery

open Json (Value)

/-- A call that a store received. -/
inductive StoreCall where
  | count (query : Query)
  | fetch (query : Query)
  deriving Repr, Inhabited

/-- A store: its answer to a call, given the calls before it. -/
structure Store where
  /-- How many documents match the filter of a query. -/
  count : List StoreCall → Query → Except TableError Nat
  /-- The documents that a query selects. -/
  fetch : List StoreCall → Query → Except TableError (List Value)

/-- A named collection of documents in the order of insertion. -/
structure Collection where
  name : String
  documents : List Value := []
  deriving Repr, Inhabited

namespace Collection

def insert (c : Collection) (document : Value) : Collection :=
  { c with documents := c.documents ++ [document] }

def size (c : Collection) : Nat := c.documents.length

/-- Whether there are no documents. -/
def isEmpty (c : Collection) : Bool := c.documents.isEmpty

def query (c : Collection) : Query := { collection := c.name }

def matching (c : Collection) (clauses : Clauses) : Except TableError (List Value) :=
  (Filter.group clauses).compile.map fun test => c.documents.filter (test.holds ·)

/-- How many documents match the filter of a query; its sorts and window do not count. -/
def count (c : Collection) (q : Query) : Except TableError Nat :=
  (c.matching q.filter).map List.length

def window (skip limit : Option Nat) (rows : List Value) : List Value :=
  let rest := rows.drop (skip.getD 0)
  match limit with
  | some n => rest.take n
  | none => rest

/-- The documents that a query selects: filtered, sorted, and cut to its window. -/
def fetch (c : Collection) (q : Query) : Except TableError (List Value) :=
  (c.matching q.filter).map fun rows => window q.skip q.limit (sortDocuments q.sorts rows)

/-- Whether the sort of a fetch comes to an end; a fetch that fails does not sort. -/
def settles (c : Collection) (q : Query) : Bool :=
  match c.matching q.filter with
  | .ok rows => TableQuery.settles (orderDocuments q.sorts) rows
  | .error _ => true

def store (c : Collection) : Store := ⟨fun _ q => c.count q, fun _ q => c.fetch q⟩

end Collection

end TableQuery
