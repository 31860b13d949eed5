import DataPortal.Client.Basic
import DataPortal.Client.Walk
/-!
# The change log of a model

Changes are numbered in ascending order. A walk asks for the changes after the last one
that it has seen, and ends at a page that is not full.
-/
namespace DataPortal
namespace Client

variable {σ : Type}

/-- The newest change of a model; none where there is no history. -/
def latestChange (c : Client σ) (model : String) : Action σ (Option Change) := do
  match ← (c.fetch (modelPath model ++ "/:changes/-1") []).outcome with
  | .error (.reported (.service .notFound ..)) => return none
  | .error f => Action.settle (.error f)
  | .ok page =>
    let data ← Action.settle (member "_data" .null page)
    if data.isTruthy then
      let newest ← Action.settle (first data)
      let change ← Action.settle (Change.ofValue newest)
      return some change
    else return none

/-- When a model was changed last. -/
def lastUpdatedAt (c : Client σ) (model : String) : Action σ (Option DateTime) := do
  let change ← c.latestChange model
  return change.bind (·.created)

/-- The path of the changes after a number. -/
def changesPath (model : String) (since : Value) : String :=
  modelPath model ++ "/:changes/" ++ String.ofList since.display

/-- The query text of a page of changes. -/
def changesQuery (limit : Value) : List Char :=
  '?' :: Query.clause "limit" limit.display

/-- The entries of a page of changes. -/
def changesIn (page : Value) : Except Failure (List Change) := do
  let records ← pageRecords page
  records.mapM Change.ofValue

/-- The changes after a number, oldest first. -/
def changes (c : Client σ) (model : String) (since limit : Value) : Action σ (List Change) := do
  let page ← c.fetch (changesPath model since) (changesQuery limit)
  Action.settle (changesIn page)

end Client

/-- A walk over the changes of a model. -/
structure ChangeWalk where
  model : String
  pageSize : Value

namespace ChangeWalk

/-- Where a walk stands: before the page after a number, or with changes of a page left. -/
inductive Place where
  | request (since : Value)
  | deliver (left page : List Change)

/-- Whether a page with some number of changes is not full. -/
def isShort (w : ChangeWalk) (count : Nat) : Except Failure Bool := do
  let size ← Quantity.ofValue w.pageSize
  (Quantity.whole count).isLess size

variable {σ : Type}

/-- One step of a walk. A page of changes is read as a whole. -/
def step (c : Client σ) (w : ChangeWalk) : Place → Action σ (Progress Place Change)
  | .request since => do
    let page ← c.changes w.model since w.pageSize
    return .moved (.deliver page page)
  | .deliver (change :: left) page => return .item change (.deliver left page)
  | .deliver [] page => do
    if ← Action.settle (w.isShort page.length) then return .ended
    else
      match page.getLast? with
      | some last => return .moved (.request (.int last.cid))
      | none => Action.settle (.error .outOfRange)

end ChangeWalk
end DataPortal
