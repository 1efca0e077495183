import TableQuery.Command.Arguments
import TableQuery.Command.Error
import TableQuery.Request.Decode
import TableQuery.Table.Draw

set_option autoImplicit false

namespace TableQuery

open Json (Value Reader)

/-- A step of a command, which may fail and keeps what it logged. -/
abbrev CommandM := ExceptT CommandError (StateM Log)

namespace Command

def flag (b : Bool) : String := if b then "true" else "false"

def configEntry (path : String) (config : SearchSettings) : LogEntry :=
  Event.configLoaded.entry
    [("case_insensitive", flag config.ignoreCase), ("path", path),
      ("smart_search", flag config.smartSearch), ("wildcard", flag config.wildcard)]

/-- The configuration at a path, or the defaults where there is no path. -/
def loadSettings (files : FileReader) : Option String → CommandM SearchSettings
  | none => pure {}
  | some path =>
    match files path with
    | .error e => throw (.configFile path e)
    | .ok text =>
      match SearchSettings.ofText text with
      | .error e => throw (.configText path e)
      | .ok config => do
        modify (·.write (configEntry path config))
        pure config

def documentsOfText (text : String) : Except Json.Error (List Value) :=
  Reader.whole (Reader.sequence Json.maxDepth) text

/-- The name of the collection in a file: the name of the file without its extension. -/
def collectionName (path : String) : String := (Path.stem? path).getD "collection"

def loadDocuments (files : FileReader) (path : String) : Except CommandError Collection :=
  match files path with
  | .error e => .error (.dataFile path e)
  | .ok text =>
    match documentsOfText text with
    | .error e => .error (.dataText path e)
    | .ok documents => .ok ⟨collectionName path, documents⟩

def requestIn (input : Except FileError String) : Except CommandError Value :=
  match input with
  | .error e => .error (.input e)
  | .ok text =>
    if Text.isAllBlank text then .error .blankInput
    else (Json.parse text).mapError .inputText

/-- The number of the draw of a request that cannot be decoded. -/
def drawOf (request : Value) : Nat :=
  match request.member? "draw" with
  | some (.number n) => n.nat?.getD 0
  | _ => 0

def initialState (t : Table) (log : Log) : TableState := { plan := t.initialPlan, log }

/-- The answer to a request; one that cannot be decoded is answered by an error. -/
def answerRequest (config : SearchSettings) (collection : Collection) (request : Value) :
    StateM Log Response := fun log =>
  match Request.ofValue request with
  | .error e => (.failure (drawOf request) e, log)
  | .ok request =>
    let table := (Table.ofCollection collection request).withSettings config
    let (response, state) := (table.run true).run (initialState table log)
    (response, state.log)

/-- Whether no answer to a request is promised: it has a plan, but the sort of its rows does not settle and
may panic. -/
def mayPanic (config : SearchSettings) (collection : Collection) (request : Value) : Bool :=
  match Request.ofValue request with
  | .error _ => false
  | .ok request =>
    let table := (Table.ofCollection collection request).withSettings config
    match table.prepare.run.run (initialState table {}) with
    | (.ok _, prepared) => !collection.settles prepared.plan.query
    | _ => false

/-- The log that a panic leaves behind. -/
def brokenOff (config : SearchSettings) (collection : Collection) (request : Value) (log : Log) : Log :=
  match Request.ofValue request with
  | .error _ => log
  | .ok request =>
    let table := (Table.ofCollection collection request).withSettings config
    (table.breakOff.run (initialState table log)).2.log

/-- The answer to a request, unless it may panic. -/
def queryResponse (config : SearchSettings) (collection : Collection) (request : Value) :
    StateM Log (Option Response) := fun log =>
  if mayPanic config collection request then (none, brokenOff config collection request log)
  else
    let (response, log) := (answerRequest config collection request).run log
    (some response, log)

def planRequest (config : SearchSettings) (collection : Collection) (request : Value) :
    CommandM Value := fun log =>
  match Request.ofValue request with
  | .error e => (.error (.request e), log)
  | .ok request =>
    let table := (Table.ofCollection collection request).withSettings config
    let (result, state) := table.explain.run.run (initialState table log)
    (result.mapError .request, state.log)

/-- Loads the configuration and then the documents. -/
def load (c : Command) (files : FileReader) : CommandM (SearchSettings × Collection) := do
  let config ← loadSettings files c.config
  let collection ← ExceptT.mk (pure (loadDocuments files c.data))
  pure (config, collection)

/-- What a command prints for the request in the input, unless it may panic. -/
def answer (c : Command) (config : SearchSettings) (collection : Collection)
    (input : Except FileError String) : CommandM (Option Value) := do
  let request ← ExceptT.mk (pure (requestIn input))
  match c.action with
  | .query => pure ((← queryResponse config collection request).map Response.toValue)
  | .explain => some <$> planRequest config collection request

end Command

/-- How a program ends. -/
structure Outcome where
  exitCode : UInt8 := 0
  output : String := ""
  errors : String := ""
  deriving DecidableEq, Repr, Inhabited

namespace Outcome

def version : String := "aerotables 0.1.0\n"

def usage : String :=
  "Usage: aerotables [--verbose] <query|explain> [--config <CONFIG>] --data <DATA>\n"

/-- The end of a command: its log and its result, or its failure. A command that may panic is taken to; what
the system tells of that is left out. -/
def ofResult (result : Except CommandError (Option Value)) (log : Log) : Outcome :=
  let lines := String.join (log.entries.map LogEntry.line)
  match result with
  | .ok (some v) => { output := v.render ++ "\n", errors := lines }
  | .ok none => { exitCode := 101, errors := lines }
  | .error e => { exitCode := 1, errors := lines ++ e.text ++ "\n" }

def initialLog (verbose : Bool) : Log := { minimum := if verbose then .trace else .info }

/-- The end of a program that was told what to do, on files and an input. -/
def of (invocation : Invocation) (files : FileReader) (input : Except FileError String) : Outcome :=
  match invocation with
  | .version => { output := version }
  | .help => { output := usage }
  | .misuse => { exitCode := 2, errors := usage }
  | .run verbose command =>
    let steps : CommandM (Option Value) := do
      let (config, collection) ← command.load files
      command.answer config collection input
    let (result, log) := steps.run.run (initialLog verbose)
    ofResult result log

end Outcome

end TableQuery
