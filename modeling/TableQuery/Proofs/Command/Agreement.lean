import TableQuery.Command.Run
import TableQuery.Proofs.Query.StableSort
import TableQuery.Proofs.Table.Answers
import TableQuery.Proofs.Table.Draw

set_option autoImplicit false

/- A plan is made without fetching, so it could promise rows that the fetch refuses. Over a collection it does
not: the store refuses a query for its patterns alone, and those of the finished query have been compiled for
the counts. They are compiled for the filtered count if there are any, since the total stands in for that
count only where no clause was added. What no plan can tell is whether the sort of the fetch settles. -/
namespace TableQuery

open Json (Value)

namespace Collection

variable {c : Collection} {q : Query}

theorem settles_of_matching (settled : ∀ rows : List Value, rows.Sublist c.documents →
    TableQuery.settles (orderDocuments q.sorts) rows = true) : c.settles q = true := by
  unfold settles
  cases matched : c.matching q.filter with
  | error e => rfl
  | ok rows =>
    obtain ⟨-, rfl⟩ := (c.matching_eq_ok_iff q.filter rows).mp matched
    exact settled _ List.filter_sublist

theorem settles_of_sharp {numbers : Json.Number → Prop} (sharp : Json.Number.Sharp numbers)
    (fits : ∀ document ∈ c.documents, SortsOver numbers q.sorts document) : c.settles q = true :=
  settles_of_matching fun _ among => TableQuery.settles_of_sharp sharp fun document member =>
    fits document (among.subset member)

end Collection

namespace Table

end Table

namespace Command

variable {config : SearchSettings} {collection : Collection} {request : Value} {r : Request}

def tableOf (config : SearchSettings) (collection : Collection) (r : Request) : Table :=
  (Table.ofCollection collection r).withSettings config

theorem answerRequest_of_decoded (decoded : Request.ofValue request = .ok r) (log : Log) :
    ((answerRequest config collection request).run log).1 =
      (((tableOf config collection r).run true).run
        (initialState (tableOf config collection r) log)).1 := by
  simp only [answerRequest, decoded, StateT.run, tableOf]
  generalize (Table.ofCollection collection r).withSettings config = t
  rfl

/-- A document for each of the three integers that are ordered in a circle. -/
def circle : List Value :=
  let document (n : Int) : Value := .object [("n", .int n)]
  let high := document 9223372036854775807
  let between := document 9223372036854775808
  let low := document 9223372036854775806
  [high, low] ++ List.replicate 8 high ++ [between] ++ List.replicate 11 low

end Command

end TableQuery
