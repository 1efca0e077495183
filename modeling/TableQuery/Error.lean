import TableQuery.Json.Error

set_option autoImplicit false

namespace TableQuery

/-- Why a table query fails. -/
inductive TableError where
  /-- A column has no name to look it up by. -/
  | unnamedColumn (index : Nat)
  | store (reason : String)
  | pattern (source reason : String)
  | callback (target reason : String)
  | request (reason : String)
  | unsupported (feature : String)
  deriving DecidableEq, Repr, Inhabited

namespace TableError

def code : TableError → String
  | unnamedColumn _ => "TABLE_CONFIGURATION"
  | store _ => "TABLE_STORE_EXECUTION_FAILED"
  | pattern _ _ => "TABLE_INVALID_PATTERN"
  | callback _ _ => "TABLE_CALLBACK_FAILED"
  | request _ => "TABLE_INVALID_REQUEST"
  | unsupported _ => "TABLE_UNSUPPORTED_FEATURE"

def message : TableError → String
  | unnamedColumn index => "Column at index " ++ toString index ++ " has no resolvable name"
  | store reason => "Store execution failed: " ++ reason
  | pattern source reason => "Invalid pattern '" ++ source ++ "': " ++ reason
  | callback target reason => "Callback for '" ++ target ++ "' failed: " ++ reason
  | request reason => "Invalid request: " ++ reason
  | unsupported feature => "Unsupported feature: " ++ feature

/-- Whether the failure arose in the store. -/
def isFromStore : TableError → Bool
  | store _ => true
  | pattern _ _ => true
  | _ => false

/-- JSON that is no request. -/
def ofJson (e : Json.Error) : TableError := .request e.message

end TableError

end TableQuery
