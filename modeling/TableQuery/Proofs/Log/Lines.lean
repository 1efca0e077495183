import Mathlib.Data.List.Nodup
import TableQuery.Log
import TableQuery.Proofs.Json.Members
import TableQuery.Proofs.Json.Printed

set_option autoImplicit false

namespace TableQuery.LogEntry

open Json (Spells Listing WritesMember Writes Numeral Value)

theorem spells_escapeChar (c : Char) : Spells (escapeChar c) c := by
  unfold escapeChar
  split_ifs with quote backslash line carriage tab control
  · rw [quote]
    exact .escape rfl
  · rw [backslash]
    exact .escape rfl
  · rw [line]
    exact .escape rfl
  · rw [carriage]
    exact .escape rfl
  · rw [tab]
    exact .escape rfl
  · have below : c.toNat < 0xd800 := by
      simp only [isControl, Bool.or_eq_true, Bool.and_eq_true, decide_eq_true_eq] at control
      omega
    exact Json.spells_hex4 below
  · have printable : 0x20 ≤ c.toNat := by
      simp only [isControl, Bool.or_eq_true, Bool.and_eq_true, decide_eq_true_eq] at control
      omega
    exact .plain printable quote backslash

theorem newline_not_mem_escapeChar (c : Char) : '\n' ∉ escapeChar c := by
  unfold escapeChar
  split_ifs with quote backslash line carriage tab control
  · decide
  · decide
  · decide
  · decide
  · decide
  · simp [Json.newline_not_mem_hex4]
  · simpa using Ne.symm line

theorem newline_not_mem_quoted (s : String) : '\n' ∉ quoted s := by
  simp [quoted, newline_not_mem_escapeChar]

theorem newline_not_mem_member (field : LogField) : '\n' ∉ member field := by
  simp [member, newline_not_mem_quoted]

/-- A member of a log line, as a member of an object. -/
def asMember (field : LogField) : String × Value := (field.1, .string field.2)

theorem writesMember_member (depth : Nat) (field : LogField) :
    WritesMember (Writes Numeral.Reads depth) (member field) (asMember field) := by
  have key := Json.spellsAll_flatMap fun c (_ : c ∈ field.1.toList) => spells_escapeChar c
  have value := Json.spellsAll_flatMap fun c (_ : c ∈ field.2.toList) => spells_escapeChar c
  have written : Writes Numeral.Reads depth (quoted field.2) (.string field.2) :=
    Json.writes_of_scalar (.string value) depth
  have whole := WritesMember.mk key Json.areBlanks_nil (.bare written)
  unfold member quoted
  simpa [quoted, asMember] using whole

theorem listing_intercalate {α β : Type} {part : List Char → β → Prop} {write : α → List Char} {value : α → β}
    (writes : ∀ a, part (write a) (value a)) (close : Char) (a : α) (rest : List α) :
    Listing part close (List.intercalate [','] ((a :: rest).map write) ++ [close])
      (value a :: rest.map value) := by
  induction rest generalizing a with
  | nil =>
    have text : List.intercalate [','] ([a].map write) = write a := by simp
    rw [text]
    exact .parts (.bare (writes a)) .last
  | cons b rest ih =>
    have text : List.intercalate [','] ((a :: b :: rest).map write) ++ [close] =
        write a ++ ',' :: (List.intercalate [','] ((b :: rest).map write) ++ [close]) := by
      simp [List.intercalate]
    rw [text]
    exact .parts (.bare (writes a)) (ih b).afterComma

theorem line_toList (e : LogEntry) : e.line.toList =
    '\x7b' :: (List.intercalate [','] (e.members.map member) ++ ['\x7d']) ++ ['\n'] := by
  simp [line, text]

/-- A log line ends with its only line feed. -/
theorem exists_line_eq (e : LogEntry) : ∃ text, e.line.toList = text ++ ['\n'] ∧ '\n' ∉ text := by
  refine ⟨_, e.line_toList, ?_⟩
  have members : '\n' ∉ List.intercalate [','] (e.members.map member) := by
    induction e.members with
    | nil => exact List.not_mem_nil
    | cons first rest ih =>
      cases rest with
      | nil => simpa using newline_not_mem_member first
      | cons second rest =>
        rw [List.map_cons, List.map_cons, List.intercalate_cons_cons]
        simpa [newline_not_mem_member] using ih
  simp [members]

theorem parse_line (e : LogEntry) : Json.parse e.line = .ok (.ofMembers (e.members.map asMember)) := by
  have listing : Listing (WritesMember (Writes Numeral.Reads 126)) '\x7d'
      (List.intercalate [','] (e.members.map member) ++ ['\x7d']) (e.members.map asMember) :=
    listing_intercalate (writesMember_member 126) '\x7d' _ _
  have blank : Json.AreBlanks ['\n'] := by
    rintro c inside
    rw [List.mem_singleton.mp inside]
    rfl
  have written : Writes Numeral.Reads Json.maxDepth _ (.ofMembers (e.members.map asMember)) := .inr (.object listing)
  exact Json.parse_eq_ok_iff.mpr ⟨_, _, .bare written, blank, e.line_toList⟩

theorem sortedFields_perm (e : LogEntry) : e.sortedFields.Perm e.fields := List.mergeSort_perm _ _

theorem sortedFields_congr {e other : LogEntry} (distinct : (e.fields.map Prod.fst).Nodup)
    (perm : other.fields.Perm e.fields) : other.sortedFields = e.sortedFields := by
  have sorted (e : LogEntry) : e.sortedFields.Pairwise fun a b => a.1 ≤ b.1 := by
    refine (List.pairwise_mergeSort ?_ ?_ e.fields).imp of_decide_eq_true
    · simp only [decide_eq_true_iff]
      exact fun a b c first second => le_trans first second
    · simp only [Bool.or_eq_true, decide_eq_true_iff]
      exact fun a b => le_total a.1 b.1
  have same : other.sortedFields.Perm e.sortedFields :=
    other.sortedFields_perm.trans (perm.trans e.sortedFields_perm.symm)
  have apart : (e.sortedFields.map Prod.fst).Nodup := (e.sortedFields_perm.map Prod.fst).nodup_iff.mpr distinct
  refine same.eq_of_pairwise (fun a b inOther inside up down => ?_) (sorted other) (sorted e)
  have key : a.1 = b.1 := le_antisymm up down
  exact List.inj_on_of_nodup_map apart (same.subset inOther) inside key

/-- The members of a log line are as its fields are: their keys differ from each other and from its own two. -/
theorem pairwise_members {e : LogEntry} (distinct : (e.fields.map Prod.fst).Nodup)
    (own : ∀ field ∈ e.fields, field.1 ≠ "event" ∧ field.1 ≠ "severity") :
    (e.members.map asMember).Pairwise fun a b => a.1 ≠ b.1 := by
  have apart : (e.sortedFields.map Prod.fst).Nodup := (e.sortedFields_perm.map Prod.fst).nodup_iff.mpr distinct
  have others (field : LogField) (inside : field ∈ e.sortedFields) : field.1 ≠ "event" ∧ field.1 ≠ "severity" :=
    own field (e.sortedFields_perm.subset inside)
  rw [List.pairwise_map]
  refine .cons ?_ (.cons ?_ (List.pairwise_map.mp apart))
  · intro field inside
    rcases List.mem_cons.mp inside with rfl | inside
    · show "event" ≠ "severity"
      decide
    · exact Ne.symm (others field inside).1
  · intro field inside
    exact Ne.symm (others field inside).2

/--
A log line says what its entry holds and nothing else, where the keys of the fields differ from each other and
from the two of its own. The line ends with its only line feed. Read as a text it is an object whose members are
the event, the severity and the fields, each with its exact text. The order of the fields makes no difference.
-/
theorem line_faithful (e : LogEntry) (distinct : (e.fields.map Prod.fst).Nodup)
    (own : ∀ field ∈ e.fields, field.1 ≠ "event" ∧ field.1 ≠ "severity") :
    (∃ text, e.line.toList = text ++ ['\n'] ∧ '\n' ∉ text) ∧
    (∃ members, Json.parse e.line = .ok (.object members) ∧
      members.Perm (("event", .string e.event) :: ("severity", .string e.severity.name) ::
        e.fields.map fun field => (field.1, .string field.2))) ∧
    ∀ fields : List LogField, fields.Perm e.fields → ({ e with fields } : LogEntry).line = e.line := by
  refine ⟨e.exists_line_eq, ⟨_, e.parse_line, ?_⟩, fun fields perm => ?_⟩
  · have made := Json.Members.ofList_perm (pairwise_members distinct own)
    exact made.trans (((e.sortedFields_perm.map asMember).cons _).cons _)
  · have sorted : ({ e with fields } : LogEntry).sortedFields = e.sortedFields := sortedFields_congr distinct perm
    have members : ({ e with fields } : LogEntry).members = e.members := by
      unfold members
      rw [sorted]
    unfold line text
    rw [members]

/-- Texts that look like the end of a string, like an escape or like another line are read back as they are. -/
theorem line_faithful_of_awkward_texts :
    let e : LogEntry := ⟨.warn, "BAD\nINPUT", [("reason\"", "\\u000a\x7f"), ("code", "\",\"event\":\"x")]⟩
    ∃ members, Json.parse e.line = .ok (.object members) ∧ members.Perm
      [("event", .string "BAD\nINPUT"), ("severity", .string "WARN"), ("reason\"", .string "\\u000a\x7f"),
        ("code", .string "\",\"event\":\"x")] := by
  intro e
  have faithful := line_faithful e (by decide) (by decide)
  exact faithful.2.1

end TableQuery.LogEntry
