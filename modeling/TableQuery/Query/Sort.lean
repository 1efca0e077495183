import TableQuery.Json.Value
import TableQuery.Text.Basic

set_option autoImplicit false

namespace TableQuery

open Json (Value Members)

section Lookup

/-- The part of a value that a segment names: a member of an object or an item of an array. -/
def step? (segment : List Char) : Value → Option Value
  | .object members => Members.get? (String.ofList segment) members
  | .array items => (Text.index? segment).bind (items[·]?)
  | _ => none

def descend? : List (List Char) → Value → Option Value
  | [], v => some v
  | segment :: rest, v => (step? segment v).bind (descend? rest)

/-- The field of a document at a path, which is taken as a key first and only then as segments between dots. -/
def lookup (document : Value) (path : String) : Option Value :=
  match document.member? path with
  | some v => some v
  | none =>
    if path.toList.contains '.' then descend? (Text.split '.' path.toList) document else none

end Lookup

inductive Direction where
  | asc
  | desc
  deriving DecidableEq, Repr, Inhabited

namespace Direction

def name : Direction → String
  | asc => "asc"
  | desc => "desc"

/-- The number that stands for a direction in a rendered query. -/
def sign : Direction → Int
  | asc => 1
  | desc => -1

/-- `asc` in any case, blanks around it aside, is ascending; any other text is descending. -/
def ofText (text : String) : Direction :=
  if (Text.trimChars text.toList).map Char.toLower = ['a', 's', 'c'] then asc else desc

def apply : Direction → Ordering → Ordering
  | asc, o => o
  | desc, o => o.swap

end Direction

structure SortKey where
  field : String
  direction : Direction
  deriving DecidableEq, Repr, Inhabited

namespace Json.Value

/-- The rank of a kind of value: null, truth values, numbers, strings, arrays, objects. -/
def rank : Value → Nat
  | .null => 0
  | .bool _ => 1
  | .number _ => 2
  | .string _ => 3
  | .array _ => 4
  | .object _ => 5

/-- The order of values: by kind, then by content; objects tie, and arrays are ordered by their items. -/
def order : Value → Value → Ordering
  | .bool a, .bool b => compare a b
  | .number a, .number b => a.order b
  | .string a, .string b => compare a b
  | .array xs, .array ys => orderItems xs ys
  | a, b => compare a.rank b.rank
where
  /-- The order of the first items that differ; a list that ends early comes first. -/
  orderItems : List Value → List Value → Ordering
    | [], [] => .eq
    | [], _ :: _ => .lt
    | _ :: _, [] => .gt
    | x :: xs, y :: ys => (order x y).then (orderItems xs ys)

end Json.Value

/-- The order of two fields; a missing one comes first. -/
def orderFields : Option Value → Option Value → Ordering
  | none, none => .eq
  | none, some _ => .lt
  | some _, none => .gt
  | some a, some b => a.order b

/-- The order of two documents by the first key on which they differ. -/
def orderDocuments (keys : List SortKey) (a b : Value) : Ordering :=
  match keys with
  | [] => .eq
  | key :: rest =>
    (key.direction.apply (orderFields (lookup a key.field) (lookup b key.field))).then
      (orderDocuments rest a b)

/-- Puts an item behind the last of the sorted ones that it does not come before. The sorted ones stand in
reverse. -/
def insertBehind {α : Type} (order : α → α → Ordering) (item : α) : List α → List α
  | [] => [item]
  | last :: others =>
    if order item last = .lt then last :: insertBehind order item others else item :: last :: others

def insertionSort {α : Type} (order : α → α → Ordering) (items : List α) : List α :=
  (items.foldl (fun sorted item => insertBehind order item sorted) []).reverse

/-- How many items are put in one by one; more of them are merged. -/
def maxInserted : Nat := 20

@[irreducible]
def stableSort {α : Type} (order : α → α → Ordering) (items : List α) : List α :=
  if items.length ≤ maxInserted then insertionSort order items
  else items.mergeSort fun a b => order a b != .gt

/-- How many of the items come before one. -/
def rankAmong {α : Type} (order : α → α → Ordering) (items : List α) (item : α) : Nat :=
  items.countP fun other => order other item == .lt

def isRanked {α : Type} (order : α → α → Ordering) (items : List α) : Bool :=
  let ranked := items.map fun item => (item, rankAmong order items item)
  ranked.all fun a => ranked.all fun b => order a.1 b.1 == compare a.2 b.2

/--
Whether a sort comes to an end. Merging takes the order of the items for a total preorder, and may panic
where it is none: what `stableSort` gives then is not relied on.
-/
def settles {α : Type} (order : α → α → Ordering) (items : List α) : Bool :=
  items.length ≤ maxInserted || isRanked order items

/-- Documents sorted by a list of keys, the first of which weighs most. -/
def sortDocuments (keys : List SortKey) (documents : List Value) : List Value :=
  stableSort (orderDocuments keys) documents

end TableQuery
