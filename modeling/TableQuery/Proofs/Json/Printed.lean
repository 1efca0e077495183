import Mathlib.Tactic.Common
import TableQuery.Json.Printer
import TableQuery.Proofs.Json.Grammar
import TableQuery.Proofs.Text.Decimal

set_option autoImplicit false

namespace TableQuery.Json

open Reader

def IsNumeral (text : List Char) : Prop := ∃ m : Numeral, m.WellFormed ∧ text = m.text

section Digits

end Digits

namespace Decimal

def power (d : Decimal) : Exponent :=
  ⟨'e', [if d.exponent < 0 then '-' else '+'], Nat.toDigits 10 d.exponent.natAbs⟩

end Decimal

namespace Interval

def holds (i : Interval) (up down coefficient : Nat) : Bool :=
  let point := coefficient * down
  if i.closed then i.lower * up ≤ point ∧ point ≤ i.upper * up
  else i.lower * up < point ∧ point < i.upper * up

end Interval

section Strings

end Strings

/-- The texts of values whose numerals may be read as any number. -/
abbrev WritesAny : Nat → List Char → Value → Prop := Writes fun numeral _ => IsNumeral numeral

/-- A text belongs to a grammar at every depth from some on. -/
def Deep {α : Type} (part : Nat → List Char → α → Prop) (text : List Char) : Prop :=
  ∃ least, ∀ depth, least ≤ depth → ∃ a, part depth text a

section Lists

variable {α : Type} {part : Nat → List Char → α → Prop} {close : Char}

end Lists

/-- The text of a value; that of an object is the text of an object. -/
def WritesKind (v : Value) (depth : Nat) (text : List Char) (written : Value) : Prop :=
  WritesAny depth text written ∧ ∀ members, v = .object members → ∃ others, written = .object others

theorem Deep.writes {v : Value} {text : List Char} (deep : Deep (WritesKind v) text) : Deep WritesAny text := by
  obtain ⟨least, writes⟩ := deep
  refine ⟨least, fun depth enough => ?_⟩
  obtain ⟨written, inside, -⟩ := writes depth enough
  exact ⟨written, inside⟩

section Lines

theorem newline_not_mem_hex4 (code : Nat) : '\n' ∉ hex4 code := by
  have digit : ∀ n < 16, '\n' ≠ n.digitChar := by decide
  have each (n : Nat) : '\n' ≠ (n % 16).digitChar := digit _ (Nat.mod_lt n (by decide))
  simp [hex4, each]

end Lines

end TableQuery.Json
