import TableQuery.Command.File
import TableQuery.Error

set_option autoImplicit false

namespace TableQuery

/-- What a command was busy with when it failed. -/
inductive CommandStage where
  | config
  | data
  | io
  | request
  deriving DecidableEq, Repr, Inhabited

namespace CommandStage

/-- The stable code of the failures of a stage. -/
def code : CommandStage → String
  | config => "TABLE_CLI_CONFIG_ERROR"
  | data => "TABLE_CLI_DATA_ERROR"
  | io => "TABLE_CLI_IO_ERROR"
  | request => "TABLE_CLI_REQUEST_ERROR"

def all : List CommandStage := [config, data, io, request]

end CommandStage

/-- Why a command fails. -/
inductive CommandError where
  /-- A configuration cannot be read. -/
  | configFile (path : String) (cause : FileError)
  /-- A configuration is malformed. -/
  | configText (path : String) (cause : Json.Error)
  /-- Documents cannot be read. -/
  | dataFile (path : String) (cause : FileError)
  /-- Documents are no array of values. -/
  | dataText (path : String) (cause : Json.Error)
  /-- The input cannot be read. -/
  | input (cause : FileError)
  /-- The input is blank. -/
  | blankInput
  /-- The input is malformed. -/
  | inputText (cause : Json.Error)
  /-- The request cannot be decoded or prepared. -/
  | request (cause : TableError)
  deriving Repr, Inhabited

namespace CommandError

/-- The stage in which a failure arises. -/
def stage : CommandError → CommandStage
  | configFile _ _ => .config
  | configText _ _ => .config
  | dataFile _ _ => .data
  | dataText _ _ => .data
  | input _ => .io
  | blankInput => .io
  | inputText _ => .io
  | request _ => .request

def code (e : CommandError) : String := e.stage.code

def message : CommandError → String
  | configFile path cause => "Failed to load " ++ path ++ ": " ++ cause.message
  | configText path cause => "Failed to load " ++ path ++ ": " ++ cause.message
  | dataFile path cause => "Failed to read " ++ path ++ ": " ++ cause.message
  | dataText path cause => path ++ " must hold a JSON array of documents: " ++ cause.message
  | input cause => cause.message
  | blankInput => "Empty input"
  | inputText cause => "JSON error: " ++ cause.message
  | request cause => cause.message

def text (e : CommandError) : String := e.code ++ ": " ++ e.message

end CommandError

end TableQuery
