import TableQuery.Text.Basic

set_option autoImplicit false

namespace TableQuery.Path

/-- The segments of a path between its slashes; there is always at least one. -/
def segments (path : List Char) : List (List Char) := Text.split '/' path

/-- A segment that stays where it is. -/
def isIdle (segment : List Char) : Bool := segment == [] || segment == ['.']

/-- The name that a path ends in; a path that ends at a directory above has none. -/
def fileName? (path : String) : Option (List Char) :=
  match ((segments path.toList).filter (!isIdle ·)).getLast? with
  | some ['.', '.'] => none
  | last => last

/-- A name up to its last point; a point at the beginning of a name does not count. -/
def stemOf (name : List Char) : List Char :=
  match name.reverse.dropWhile (· != '.') with
  | [] | [_] => name
  | _ :: stem => stem.reverse

def stem? (path : String) : Option String := (fileName? path).map fun name => .ofList (stemOf name)

end TableQuery.Path

namespace TableQuery

/-- Why a text cannot be read from a file. -/
inductive FileError where
  | notFound
  /-- A path goes on after the name of a file. -/
  | notDirectory
  | isDirectory
  | nameTooLong
  /-- A path has a character that no path can have. -/
  | nulInName
  /-- The bytes are no text in UTF-8. -/
  | notText
  /-- Another refusal of the system, with its number. -/
  | other (reason : String) (number : Nat)
  deriving DecidableEq, Repr, Inhabited

namespace FileError

def systemMessage (reason : String) (number : Nat) : String :=
  reason ++ " (os error " ++ toString number ++ ")"

def message : FileError → String
  | notFound => systemMessage "No such file or directory" 2
  | notDirectory => systemMessage "Not a directory" 20
  | isDirectory => systemMessage "Is a directory" 21
  | nameTooLong => systemMessage "File name too long" 36
  | nulInName => "file name contained an unexpected NUL byte"
  | notText => "stream did not contain valid UTF-8"
  | other reason number => systemMessage reason number

end FileError

def decodeText (bytes : ByteArray) : Except FileError String :=
  match String.fromUTF8? bytes with
  | some text => .ok text
  | none => .error .notText

/-- How texts are read from files. -/
abbrev FileReader := String → Except FileError String

/-- A tree of files: their bytes by the segments of their paths from its root. -/
structure FileTree where
  files : List (List (List Char) × ByteArray) := []

namespace FileTree

def ofList (files : List (String × ByteArray)) : FileTree :=
  ⟨files.map fun (path, bytes) => ((Path.segments path.toList).filter (!Path.isIdle ·), bytes)⟩

/-- A place that a path leads to. -/
inductive Place where
  /-- A directory of the tree, by the segments of its path, the last one first. -/
  | directory (way : List (List Char))
  | file (bytes : ByteArray)
  /-- A directory that has the root of the tree somewhere below it. -/
  | above

/-- The longest name that a file may have, in bytes. -/
def maxNameSize : Nat := 255

def pathSizeLimit : Nat := 4096

def enter (t : FileTree) (way : List (List Char)) (name : List Char) : Except FileError Place :=
  let way := name :: way
  if maxNameSize < (String.ofList name).utf8ByteSize then .error .nameTooLong
  else
    match t.files.find? fun file => file.1 == way.reverse with
    | some file => .ok (.file file.2)
    | none =>
      if t.files.any fun file => way.reverse.isPrefixOf file.1 then .ok (.directory way)
      else .error .notFound

def step (t : FileTree) (place : Place) (segment : List Char) : Except FileError Place :=
  match place with
  | .file _ => .error .notDirectory
  | .above =>
    if Path.isIdle segment || segment == ['.', '.'] then .ok .above else .error .notFound
  | .directory way =>
    if Path.isIdle segment then .ok place
    else if segment == ['.', '.'] then
      match way with
      | [] => .ok .above
      | _ :: way => .ok (.directory way)
    else t.enter way segment

/-- The place that a path leads to from the root of the tree. -/
def resolve (t : FileTree) (path : String) : Except FileError Place :=
  match path.toList with
  | [] => .error .notFound
  | '/' :: rest => (Path.segments rest).foldlM t.step .above
  | cs => (Path.segments cs).foldlM t.step (.directory [])

def read (t : FileTree) : FileReader := fun path =>
  if path.toList.contains '\x00' then .error .nulInName
  else if pathSizeLimit ≤ path.utf8ByteSize then .error .nameTooLong
  else
    match t.resolve path with
    | .ok (.file bytes) => decodeText bytes
    | .ok _ => .error .isDirectory
    | .error e => .error e

end FileTree

end TableQuery
