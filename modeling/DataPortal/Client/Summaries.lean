import DataPortal.Client.Basic
/-!
# Summaries

How the values of a field of a model are distributed, as the service counts them.
-/
namespace DataPortal.Client

variable {σ : Type}

/-- The bins of a summary. -/
def binsIn (page : Value) : Except Failure (List SummaryBin) := do
  let records ← pageRecords page
  records.mapM SummaryBin.ofValue

/-- The summary of a field. -/
def summary (c : Client σ) (model name : String) : Action σ (List SummaryBin) := do
  let page ← c.fetch (modelPath model ++ "/:summary/" ++ name) []
  Action.settle (binsIn page)

end DataPortal.Client
