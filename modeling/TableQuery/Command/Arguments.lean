set_option autoImplicit false

namespace TableQuery

/-- What to do with a request. -/
inductive Action where
  /-- Run it and print the answer. -/
  | query
  /-- Prepare it and print the plan. -/
  | explain
  deriving DecidableEq, Repr, Inhabited

namespace Action

def ofName? (name : String) : Option Action :=
  if name = "query" then some query
  else if name = "explain" then some explain
  else none

end Action

/-- A command with its files. -/
structure Command where
  action : Action
  /-- The path of the configuration; defaults apply without one. -/
  config : Option String := none
  /-- The path of the documents. -/
  data : String
  deriving DecidableEq, Repr, Inhabited

/-- What a command line asks for. -/
inductive Invocation where
  | run (verbose : Bool) (command : Command)
  | version
  | help
  /-- The command line is not understood. -/
  | misuse
  deriving DecidableEq, Repr, Inhabited

namespace Invocation

inductive Form where
  /-- The mark after which no argument is an option. -/
  | mark
  /-- An option by its name, and its value if there is one after an equals sign. -/
  | long (name : String) (value : Option String)
  /-- Options of one letter each. -/
  | short (letters : List Char)
  | plain (text : String)
  deriving DecidableEq, Repr, Inhabited

/-- The form of an argument; a mere hyphen is plain. -/
def form (argument : String) : Form :=
  match argument.toList with
  | ['-', '-'] => .mark
  | '-' :: '-' :: rest =>
    let name := String.ofList (rest.takeWhile (· != '='))
    match rest.dropWhile (· != '=') with
    | [] => .long name none
    | _ :: value => .long name (some (.ofList value))
  | '-' :: c :: rest => .short (c :: rest)
  | _ => .plain argument

/-- The options of a command that were read so far. -/
structure Draft where
  verbose : Bool := false
  config : Option String := none
  data : Option String := none
  deriving DecidableEq, Repr, Inhabited

namespace Draft

/-- Takes the value of an option, which must not be empty and not be given twice. -/
def put? (d : Draft) (name value : String) : Option Draft :=
  if value.isEmpty then none
  else if name = "data" && d.data.isNone then some { d with data := some value }
  else if name = "config" && d.config.isNone then some { d with config := some value }
  else none

end Draft

def finish (verbose : Bool) (action : Action) (d : Draft) : Invocation :=
  match d.data with
  | some data => .run (verbose || d.verbose) ⟨action, d.config, data⟩
  | none => .misuse

def options (verbose : Bool) (action : Action) : Draft → List String → Invocation
  | d, [] => finish verbose action d
  | d, argument :: rest =>
    match form argument with
    | .mark => if rest.isEmpty then finish verbose action d else .misuse
    | .short letters => if letters.head? = some 'h' then .help else .misuse
    | .plain _ => .misuse
    | .long name (some value) =>
      match d.put? name value with
      | some d => options verbose action d rest
      | none => .misuse
    | .long name none =>
      if name = "help" then .help
      else if name = "verbose" then
        if d.verbose then .misuse else options verbose action { d with verbose := true } rest
      else
        match rest with
        | [] => .misuse
        | value :: rest =>
          match form value with
          | .plain value =>
            match d.put? name value with
            | some d => options verbose action d rest
            | none => .misuse
          | _ => .misuse

def helpOn : List String → Invocation
  | [] => .help
  | [name] => if name = "help" || (Action.ofName? name).isSome then .help else .misuse
  | _ => .misuse

/-- Reads the arguments up to the command, and then its options. -/
def read (verbose : Bool) : List String → Invocation
  | [] => .misuse
  | argument :: rest =>
    match form argument with
    | .mark => .misuse
    | .short letters =>
      if letters.head? = some 'V' then .version
      else if letters.head? = some 'h' then .help
      else .misuse
    | .long "version" none => .version
    | .long "help" none => .help
    | .long "verbose" none => if verbose then .misuse else read true rest
    | .long _ _ => .misuse
    | .plain name =>
      match Action.ofName? name with
      | some action => options verbose action {} rest
      | none => if name = "help" then helpOn rest else .misuse

def ofArguments (arguments : List String) : Invocation := read false arguments

end Invocation

end TableQuery
