import TableQuery.Json.Printer
import TableQuery.Error

set_option autoImplicit false

namespace TableQuery

/-- How severe an event is. -/
inductive Severity where
  | trace
  | info
  | warn
  | error
  | fatal
  deriving DecidableEq, Repr, Inhabited

namespace Severity

def name : Severity → String
  | trace => "TRACE"
  | info => "INFO"
  | warn => "WARN"
  | error => "ERROR"
  | fatal => "FATAL"

/-- The place of a severity among all, the least severe first. -/
def rank : Severity → Nat
  | trace => 0
  | info => 1
  | warn => 2
  | error => 3
  | fatal => 4

def all : List Severity := [trace, info, warn, error, fatal]

end Severity

/-- A field of a log line. -/
abbrev LogField := String × String

/-- What a log line says. -/
structure LogEntry where
  severity : Severity
  event : String
  fields : List LogField := []
  deriving DecidableEq, Repr, Inhabited

namespace LogEntry

/-- Control characters: those below the space, the delete character, and the 32 after it. -/
def isControl (c : Char) : Bool := c.toNat < 0x20 || (0x7f ≤ c.toNat && c.toNat < 0xa0)

/-- A character inside a quoted string of a log line. -/
def escapeChar (c : Char) : List Char :=
  if c = '"' then ['\\', '"']
  else if c = '\\' then ['\\', '\\']
  else if c = '\n' then ['\\', 'n']
  else if c = '\r' then ['\\', 'r']
  else if c = '\t' then ['\\', 't']
  else if isControl c then '\\' :: 'u' :: Json.hex4 c.toNat
  else [c]

def quoted (s : String) : List Char := '"' :: s.toList.flatMap escapeChar ++ ['"']

def member (field : LogField) : List Char := quoted field.1 ++ ':' :: quoted field.2

/-- The fields in the order of their keys; those of one key keep their order. -/
def sortedFields (e : LogEntry) : List LogField := e.fields.mergeSort fun a b => a.1 ≤ b.1

def members (e : LogEntry) : List LogField :=
  ("event", e.event) :: ("severity", e.severity.name) :: e.sortedFields

/-- The text of a log line, without the line feed that ends it. -/
def text (e : LogEntry) : String :=
  String.ofList ('\x7b' :: List.intercalate [','] (e.members.map member) ++ ['\x7d'])

def line (e : LogEntry) : String := e.text ++ "\n"

end LogEntry

/-- A log: its minimum severity and what was written to it. -/
structure Log where
  minimum : Severity := .info
  entries : List LogEntry := []
  deriving DecidableEq, Repr, Inhabited

namespace Log

/-- Whether entries of a severity are written. -/
def enabled (log : Log) (severity : Severity) : Bool := log.minimum.rank ≤ severity.rank

def write (log : Log) (entry : LogEntry) : Log :=
  if log.enabled entry.severity then { log with entries := log.entries ++ [entry] } else log

def writeAll (log : Log) (entries : List LogEntry) : Log := entries.foldl write log

end Log

/-- The events of the table pipeline. -/
inductive Event where
  /-- A sort or a search named a column without a name. -/
  | columnUnresolved
  /-- A feature that stores lack was asked for and ignored. -/
  | unsupportedIgnored
  /-- The plan of a query is complete. -/
  | queryPrepared
  /-- A search configuration was loaded. -/
  | configLoaded
  deriving DecidableEq, Repr, Inhabited

namespace Event

def name : Event → String
  | columnUnresolved => "TABLE_COLUMN_UNRESOLVED"
  | unsupportedIgnored => "TABLE_UNSUPPORTED_FEATURE_IGNORED"
  | queryPrepared => "TABLE_QUERY_PREPARED"
  | configLoaded => "TABLE_CONFIG_LOADED"

def severity : Event → Severity
  | columnUnresolved => .warn
  | unsupportedIgnored => .trace
  | queryPrepared => .trace
  | configLoaded => .info

def all : List Event := [columnUnresolved, unsupportedIgnored, queryPrepared, configLoaded]

def entry (e : Event) (fields : List LogField) : LogEntry := ⟨e.severity, e.name, fields⟩

end Event

/-- A piece of work that is logged as it begins and as it ends. -/
structure Scope where
  name : String
  fields : List LogField := []
  deriving DecidableEq, Repr, Inhabited

namespace Scope

/-- Milliseconds since the work began; time is not modelled. -/
def elapsed : LogField := ("elapsed_ms", "0")

def begun (s : Scope) : LogEntry := ⟨.info, s.name ++ "_BEGIN", s.fields⟩

/-- The entry at a successful end, with further fields. -/
def completed (s : Scope) (extra : List LogField) : LogEntry :=
  ⟨.info, s.name ++ "_COMPLETE", s.fields ++ extra ++ [elapsed]⟩

def failed (s : Scope) (code reason : String) : LogEntry :=
  ⟨.error, s.name ++ "_FAILED", s.fields ++ [("code", code), ("reason", reason)]⟩

/-- The entry where the work is given up without an end. -/
def abandoned (s : Scope) : LogEntry :=
  ⟨.warn, s.name ++ "_INCOMPLETE", [("reason", "scope dropped without completion")]⟩

end Scope

end TableQuery
