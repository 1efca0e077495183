import TableQuery.Json.Number

set_option autoImplicit false

namespace TableQuery.Json

inductive Value where
  | null
  | bool (value : Bool)
  | number (value : Number)
  | string (value : String)
  | array (items : List Value)
  | object (members : List (String × Value))
  deriving Repr, Inhabited

/-- The members of an object. -/
abbrev Members := List (String × Value)

namespace Members

def get? (key : String) : Members → Option Value
  | [] => none
  | (k, v) :: rest => if k = key then some v else get? key rest

/-- Puts a value under a key, in place of an earlier one. -/
def insert (key : String) (value : Value) : Members → Members
  | [] => [(key, value)]
  | (k, v) :: rest =>
    if k = key then (key, value) :: rest
    else if key < k then (key, value) :: (k, v) :: rest
    else (k, v) :: insert key value rest

def erase (key : String) (members : Members) : Members := members.filter (·.1 ≠ key)

/-- The members of a list of pairs; of two pairs with one key the later stands. -/
def ofList (pairs : List (String × Value)) : Members :=
  pairs.foldl (fun members pair => insert pair.1 pair.2 members) []

/-- Every key comes before the keys after it. -/
def Sorted (members : Members) : Prop := members.Pairwise (fun a b => a.1 < b.1)

end Members

namespace Value

def int (n : Int) : Value := .number (.integer n)

def nat (n : Nat) : Value := int n

/-- An optional value, absence being `null`. -/
def orNull {α : Type} (write : α → Value) : Option α → Value
  | some a => write a
  | none => .null

/-- An object from its members in any order. -/
def ofMembers (pairs : List (String × Value)) : Value := .object (Members.ofList pairs)

/-- The member of an object; no other value has one. -/
def member? (key : String) : Value → Option Value
  | .object members => Members.get? key members
  | _ => none

def string? : Value → Option String
  | .string s => some s
  | _ => none

def equals : Value → Value → Bool
  | .null, .null => true
  | .bool a, .bool b => a == b
  | .number a, .number b => a.equals b
  | .string a, .string b => a == b
  | .array xs, .array ys => equalItems xs ys
  | .object xs, .object ys => equalMembers xs ys
  | _, _ => false
where
  /-- Equality of arrays, item by item. -/
  equalItems : List Value → List Value → Bool
    | [], [] => true
    | x :: xs, y :: ys => equals x y && equalItems xs ys
    | _, _ => false
  /-- Equality of objects, member by member in key order. -/
  equalMembers : List (String × Value) → List (String × Value) → Bool
    | [], [] => true
    | (k, x) :: xs, (l, y) :: ys => k == l && equals x y && equalMembers xs ys
    | _, _ => false

end Value

end TableQuery.Json
