import TableQuery.Json.Fields
import TableQuery.Json.Reader
import TableQuery.Response.Basic

set_option autoImplicit false

namespace TableQuery

open Json (Value Members Reader Error ShapeError Found Number)

/-- The members of an answer that were read so far. -/
structure ResponseDraft where
  draw : Option Nat := none
  recordsTotal : Option Nat := none
  recordsFiltered : Option Nat := none
  data : Option (List Value) := none
  error : Option (Option String) := none
  queries : Option (Option (List Value)) := none
  input : Option (Option Value) := none
  payload : Members := []
  deriving Repr, Inhabited

/--
How the parts of an answer are decoded from a source, which may run from one to the next: each
decoder takes the source and answers the part and what is left of the source.
-/
structure PartDecoder (σ : Type) where
  nat : σ → Except Error (Nat × σ)
  sequence : σ → Except Error (List Value × σ)
  text? : σ → Except Error (Option String × σ)
  sequence? : σ → Except Error (Option (List Value) × σ)
  value? : σ → Except Error (Option Value × σ)
  value : σ → Except Error (Value × σ)

namespace ResponseDraft

/-- Decodes a part that must not have been decoded before. -/
def once {α σ : Type} (key : String) (earlier : Option α) (decode : σ → Except Error (α × σ))
    (put : α → ResponseDraft) (source : σ) : Except Error (ResponseDraft × σ) :=
  match earlier with
  | some _ => .error (.shape (.duplicateField key))
  | none => (decode source).map fun (a, rest) => (put a, rest)

def member {σ : Type} (parts : PartDecoder σ) (d : ResponseDraft) (key : String) (source : σ) :
    Except Error (ResponseDraft × σ) :=
  match key with
  | "draw" => once key d.draw parts.nat (fun n => { d with draw := some n }) source
  | "recordsTotal" =>
    once key d.recordsTotal parts.nat (fun n => { d with recordsTotal := some n }) source
  | "recordsFiltered" =>
    once key d.recordsFiltered parts.nat (fun n => { d with recordsFiltered := some n }) source
  | "data" => once key d.data parts.sequence (fun vs => { d with data := some vs }) source
  | "error" => once key d.error parts.text? (fun s => { d with error := some s }) source
  | "queries" => once key d.queries parts.sequence? (fun vs => { d with queries := some vs }) source
  | "input" => once key d.input parts.value? (fun v => { d with input := some v }) source
  | key =>
    (parts.value source).map fun (v, rest) =>
      ({ d with payload := Members.insert key v d.payload }, rest)

/-- A part that an answer cannot do without. -/
def required {α : Type} (name : String) : Option α → Except Error α
  | some a => .ok a
  | none => .error (.shape (.missingField name))

/-- The answer, once all members are read. -/
def finish (d : ResponseDraft) : Except Error Response := do
  let draw ← required "draw" d.draw
  let recordsTotal ← required "recordsTotal" d.recordsTotal
  let recordsFiltered ← required "recordsFiltered" d.recordsFiltered
  let data ← required "data" d.data
  pure
    { draw, recordsTotal, recordsFiltered, data
      error := d.error.join
      queries := d.queries.join
      input := d.input.join
      payload := d.payload }

end ResponseDraft

namespace Response

/-- Runs a reader on what follows a colon. -/
def afterColon {α : Type} (reader : Reader α) : Reader α := fun cs => do
  reader (← Reader.colon cs)

/-- Decodes parts from a text, `depth` levels of which are left. -/
def textParts (depth : Nat) : PartDecoder (List Char) where
  nat := afterColon Reader.nat
  sequence := afterColon (Reader.sequence depth)
  text? := afterColon (Reader.optional Reader.string)
  sequence? := afterColon (Reader.optional (Reader.sequence depth))
  value? := afterColon (Reader.optional (Reader.value depth))
  value := afterColon (Reader.value depth)

def reader : Reader Response := fun cs =>
  match Reader.skipBlanks cs with
  | [] => Reader.refuse .endInValue
  | '\x7b' :: rest => do
    let (draft, rest) ← Reader.members (ResponseDraft.member (textParts (Json.maxDepth - 1)))
      (rest.length + 1) true {} rest
    pure (← draft.finish, rest)
  | cs => .error (Reader.mismatch "struct TableResponse" cs)

def ofText (text : String) : Except Error Response := Reader.whole reader text

/-- Refuses a value of another shape. -/
def mismatch {α : Type} (expected : String) (v : Value) : Except Error α :=
  .error (.shape (.invalidType (Found.ofValue v) expected))

/-- Nothing for `null`, or else a decoded value. -/
def unlessNull {α : Type} (decode : Value → Except Error α) : Value → Except Error (Option α)
  | .null => .ok none
  | v => (decode v).map some

def natOf : Value → Except Error Nat
  | .number n => Reader.natOfNumber n
  | v => mismatch "u64" v

def itemsOf : Value → Except Error (List Value)
  | .array items => .ok items
  | v => mismatch "a sequence" v

def stringOf : Value → Except Error String
  | .string s => .ok s
  | v => mismatch "a string" v

def valueParts : PartDecoder Value where
  nat := fun v => (natOf v).map (·, v)
  sequence := fun v => (itemsOf v).map (·, v)
  text? := fun v => (unlessNull stringOf v).map (·, v)
  sequence? := fun v => (unlessNull itemsOf v).map (·, v)
  value? := fun v => (unlessNull (.ok ·) v).map (·, v)
  value := fun v => .ok (v, v)

def decodeMembers : List (String × Value) → ResponseDraft → Except Error ResponseDraft
  | [], d => .ok d
  | (key, v) :: rest, d => do
    let (d, _) ← d.member valueParts key v
    decodeMembers rest d

def ofValue : Value → Except Error Response
  | .object members => do (← decodeMembers members {}).finish
  | v => mismatch "struct TableResponse" v

end Response

end TableQuery
