import TableQuery.Query.Sort
import TableQuery.Search.Pattern

set_option autoImplicit false

namespace TableQuery

open Json (Value Number)

/-- How a clause is joined to the one before it. -/
inductive Connective where
  | and
  | or
  deriving DecidableEq, Repr, Inhabited

/-- The order of a field and a bound that a filter asks for. -/
inductive Comparison where
  | eq
  | ne
  | gt
  | gte
  | lt
  | lte
  deriving DecidableEq, Repr, Inhabited

def Comparison.operator : Comparison → String
  | eq => "$eq"
  | ne => "$ne"
  | gt => "$gt"
  | gte => "$gte"
  | lt => "$lt"
  | lte => "$lte"

inductive Filter where
  /-- The field is a string that the pattern matches, or an array with such a string. -/
  | regex (field : String) (pattern : SearchPattern)
  | compare (field : String) (op : Comparison) (value : Value)
  /-- The field equals one of the values. -/
  | oneOf (field : String) (values : List Value)
  /-- The field is there, or is not. -/
  | present (field : String) (expected : Bool)
  | group (clauses : List (Connective × Filter))
  deriving Repr, Inhabited

/-- The clauses of a group, each with its connective; that of the first does not count. -/
abbrev Clauses := List (Connective × Filter)

/--
The runs of a list, given the run that is open: each later item joins the run or, after an "or",
starts the next one.
-/
def runsFrom {α : Type} (opened : List α) : List (Connective × α) → List (List α)
  | [] => [opened]
  | (.and, a) :: rest => runsFrom (opened ++ [a]) rest
  | (.or, a) :: rest => opened :: runsFrom [a] rest

def runs {α : Type} : List (Connective × α) → List (List α)
  | [] => []
  | (_, a) :: rest => runsFrom [a] rest

inductive Test where
  | regex (field : String) (expression : Regex Regex.Atom)
  | compare (field : String) (op : Comparison) (value : Value)
  | oneOf (field : String) (values : List Value)
  | present (field : String) (expected : Bool)
  | group (runs : List (List Test))
  deriving Repr, Inhabited

/-- The order of two numbers or of two strings; other values have none. -/
def orderOf? : Value → Value → Option Ordering
  | .number a, .number b => some (a.order b)
  | .string a, .string b => some (Ord.compare a b)
  | _, _ => none

/--
Whether a field meets a comparison. A missing field differs from every value and equals `null`.
-/
def Comparison.holds (op : Comparison) (actual : Option Value) (expected : Value) : Bool :=
  match actual with
  | none => op == .ne || (op == .eq && expected.equals .null)
  | some v =>
    match op with
    | eq => v.equals expected
    | ne => !v.equals expected
    | gt => orderOf? v expected == some .gt
    | gte => orderOf? v expected == some .gt || orderOf? v expected == some .eq
    | lt => orderOf? v expected == some .lt
    | lte => orderOf? v expected == some .lt || orderOf? v expected == some .eq

def occursInField (expression : Regex Regex.Atom) : Option Value → Bool
  | some (.string s) => expression.occursIn s.toList
  | some (.array items) => items.any fun item => item.string?.any (expression.occursIn ·.toList)
  | _ => false

namespace Test

def holds (document : Value) : Test → Bool
  | regex field expression => occursInField expression (lookup document field)
  | compare field op value => op.holds (lookup document field) value
  | oneOf field values => (lookup document field).any fun actual => values.any actual.equals
  | present field expected => (lookup document field).isSome == expected
  | group runs => runs.isEmpty || anyRun document runs
where
  /-- Whether a document passes every test of some run. -/
  anyRun (document : Value) : List (List Test) → Bool
    | [] => false
    | run :: rest => everyTest document run || anyRun document rest
  /-- Whether a document passes every test of a run. -/
  everyTest (document : Value) : List Test → Bool
    | [] => true
    | test :: rest => holds document test && everyTest document rest

end Test

namespace Filter

/-- Compiles the patterns of a filter; the first that cannot be read is the error. -/
def compile : Filter → Except TableError Test
  | regex field pattern => pattern.compile.map (.regex field ·)
  | compare field op value => .ok (.compare field op value)
  | oneOf field values => .ok (.oneOf field values)
  | present field expected => .ok (.present field expected)
  | group clauses => (compileClauses clauses).map fun tests => .group (runs tests)
where
  /-- Compiles clauses from the first to the last. -/
  compileClauses : List (Connective × Filter) → Except TableError (List (Connective × Test))
    | [] => .ok []
    | (connective, filter) :: rest => do
      let test ← compile filter
      let tests ← compileClauses rest
      pure ((connective, test) :: tests)

def equals : Filter → Filter → Bool
  | regex f p, regex g q => f == g && p == q
  | compare f o v, compare g p w => f == g && o == p && v.equals w
  | oneOf f vs, oneOf g ws => f == g && (Value.array vs).equals (.array ws)
  | present f e, present g d => f == g && e == d
  | group xs, group ys => equalClauses xs ys
  | _, _ => false
where
  /-- Equality of clauses, one by one. -/
  equalClauses : List (Connective × Filter) → List (Connective × Filter) → Bool
    | [], [] => true
    | (c, x) :: xs, (d, y) :: ys => c == d && equals x y && equalClauses xs ys
    | _, _ => false

/-- A list of rendered parts under an operator; a single part stands for itself. -/
def underOperator (operator : String) : List Value → Value
  | [only] => only
  | parts => .object [(operator, .array parts)]

/-- The rendering of runs: alternatives under `$or`, each with its parts under `$and`. -/
def renderRuns (parts : List (List Value)) : Value :=
  match parts with
  | [] => .object []
  | parts => underOperator "$or" (parts.map (underOperator "$and"))

def onField (field operator : String) (value : Value) : Value :=
  .object [(field, .object [(operator, value)])]

def toDocument : Filter → Value
  | regex field pattern => .object [(field, pattern.toDocument)]
  | compare field op value => onField field op.operator value
  | oneOf field values => onField field "$in" (.array values)
  | present field expected => onField field "$exists" (.bool expected)
  | group clauses => renderRuns (runs (renderClauses clauses))
where
  /-- The rendering of each clause, with its connective. -/
  renderClauses : List (Connective × Filter) → List (Connective × Value)
    | [] => []
    | (connective, filter) :: rest => (connective, toDocument filter) :: renderClauses rest

end Filter

end TableQuery
