import TableQuery.Proofs.Command.Agreement
import TableQuery.Proofs.Json.Printed

set_option autoImplicit false

namespace TableQuery

open Json (Value IsTextOf Writes WritesAny Numeral)

section Texts

end Texts

namespace Command

/-- The configuration of a command: the defaults, or what the text of a file is decoded as. -/
inductive Configures (files : String → Except FileError ByteArray) : Option String → SearchSettings → Prop
  | default : Configures files none {}
  | file {path text : String} {config : SearchSettings} (found : files path = .ok text.toUTF8)
      (decodes : SearchSettings.ofText text = .ok config) : Configures files (some path) config

/-- The documents of a command: the bytes of a file are the text of an array. -/
def Documents (files : String → Except FileError ByteArray) (path : String) (documents : List Value) : Prop :=
  ∃ text : String, files path = .ok text.toUTF8 ∧
    IsTextOf (Writes Numeral.Reads Json.maxDepth) text (.array documents)

/-- The request of a command: the bytes of its input are the text of a value, and not all blank. -/
def Requests (input : ByteArray) (request : Value) : Prop :=
  ∃ text : String, input = text.toUTF8 ∧ Text.isAllBlank text = false ∧
    IsTextOf (Writes Numeral.Reads Json.maxDepth) text request

/-- The documents of a command as a collection, which is named after their file. -/
def collectionOf (c : Command) (documents : List Value) : Collection := ⟨collectionName c.data, documents⟩

section Parts

variable {files : String → Except FileError ByteArray}

end Parts

section Answers

variable {config : SearchSettings} {collection : Collection} {request : Value}

/-- A request can be planned: it is decoded, and its table can be prepared. -/
def Plans (config : SearchSettings) (collection : Collection) (request : Value) : Prop :=
  ∃ r prepared, Request.ofValue request = .ok r ∧
    (tableOf config collection r).prepare.run.run (initialState (tableOf config collection r) {}) = (.ok (), prepared)

end Answers

section Steps

variable {α β : Type}

end Steps

/-- A command succeeds where it reads a configuration, documents and a request, and can plan what it is to
explain. -/
def Succeeds (c : Command) (files : String → Except FileError ByteArray) (input : ByteArray) : Prop :=
  ∃ config documents request, Configures files c.config config ∧ Documents files c.data documents ∧
    Requests input request ∧ (c.action = .explain → Plans config (c.collectionOf documents) request)

/-- A query of more rows than the sort puts in one by one, with no order that it can settle. -/
def MayPanic (c : Command) (files : String → Except FileError ByteArray) (input : ByteArray) : Prop :=
  c.action = .query ∧ ∃ config documents request, Configures files c.config config ∧
    Documents files c.data documents ∧ Requests input request ∧
    mayPanic config (c.collectionOf documents) request = true

theorem MayPanic.succeeds {c : Command} {files : String → Except FileError ByteArray} {input : ByteArray}
    (panics : c.MayPanic files input) : c.Succeeds files input := by
  obtain ⟨action, config, documents, request, configures, holds, requests, -⟩ := panics
  refine ⟨config, documents, request, configures, holds, requests, ?_⟩
  rw [action]
  nofun

end Command

namespace Outcome

end Outcome

end TableQuery
