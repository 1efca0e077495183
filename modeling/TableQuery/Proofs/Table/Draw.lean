import TableQuery.Proofs.Table.Preparation
import TableQuery.Proofs.Table.Search

set_option autoImplicit false

namespace TableQuery

open Json (Value)

namespace Table

def plain (c : Collection) (r : Request) (settings : SearchSettings) (rules : Rules) : Table :=
  ((Table.ofCollection c r).withSettings settings).withRules rules

section Plain

variable {c : Collection} {r : Request} {settings : SearchSettings} {rules : Rules}

end Plain

end Table

end TableQuery
