import DataPortal.Client.Basic
import DataPortal.Throttle
/-!
# Namespaces

Models lie in a tree of namespaces. A walk over the tree lists the namespaces in the
order in which they were found, some of them at a time, and spaces the requests.
-/
namespace DataPortal

/-- What a namespace holds: a namespace or a model. -/
structure NamespaceItem where
  id : String
  isNamespace : Bool
  title : Value

/-- A model, the namespace in which it was found, and its title. -/
structure DiscoveredModel where
  path : String
  parent : String
  title : Value

namespace NamespaceItem

/-- What the path of a namespace ends in. -/
def suffix : List Char :=
  "/:ns".toList

/-- The item that a name stands for. The names of namespaces end in the suffix. -/
def ofName (name : String) (title : Value) : NamespaceItem :=
  let cs := name.toList
  if suffix.isSuffixOf cs then ⟨String.ofList (cs.take (cs.length - suffix.length)), true, title⟩
  else ⟨name, false, title⟩

/-- An entry of a listing. -/
def ofValue (v : Value) : Except Failure NamespaceItem := do
  let name ← Client.field "name" v
  match name.text?, v with
  | some name, .dict entries => return ofName name.shown (Value.entry "title" entries)
  | _, _ => throw .noSuchMember

/-- The name of what an item is. -/
def typeName (i : NamespaceItem) : String :=
  if i.isNamespace then "ns" else "model"

/-- The items of a listing. -/
def listing (page : Value) : Except Failure (List NamespaceItem) := do
  let records ← Client.pageRecords page
  records.mapM ofValue

/-- The namespaces among some items. -/
def namespaces (items : List NamespaceItem) : List String :=
  (items.filter (·.isNamespace)).map (·.id)

/-- The models among some items of a namespace. -/
def models (parent : String) (items : List NamespaceItem) : List DiscoveredModel :=
  (items.filter (!·.isNamespace)).map (fun i => ⟨i.id, parent, i.title⟩)

end NamespaceItem

namespace Client

variable {σ : Type}

/-- What lies directly in a namespace. -/
def listNamespace (c : Client σ) (name : String) : Action σ (List NamespaceItem) := do
  let page ← c.fetch ("/" ++ name ++ String.ofList NamespaceItem.suffix) []
  Action.settle (NamespaceItem.listing page)

/-- The interval of a throttle in seconds. A decimal interval cannot be added to a start, so
it only serves where no start has been taken. -/
def intervalSeconds (ms : Value) (t : Throttle Binary64) : Except Failure Binary64 := do
  let interval ← Quantity.ofValue ms
  let seconds ← interval.thousandth
  if interval.isDecimal && t.lastStart.isSome then throw .wrongType
  return seconds

/-- Waits until the next request may start. -/
def waitTurn (host : Host σ) (ms : Value) (t : Throttle Binary64) :
    Action σ (Throttle Binary64) := do
  let interval ← Action.settle (intervalSeconds ms t)
  let now ← Action.ask host.stopwatch
  if let some wait := Throttle.wait? (t.nextStart interval now) now then
    Action.tell (host.sleep wait)
  return t.reserve interval now

/-- Lists a namespace when its turn has come. -/
def listInTurn (c : Client σ) (ms : Value) (t : Throttle Binary64) (name : String) :
    Action σ (Except Failure (List NamespaceItem) × Throttle Binary64) := do
  match ← (waitTurn c.host ms t).outcome with
  | .error f => return (.error f, t)
  | .ok t =>
    let items ← (c.listNamespace name).outcome
    return (items, t)

/-- Lists the namespaces of a batch. All of them are listed, even after a failure. -/
def listBatch (c : Client σ) (ms : Value) :
    Throttle Binary64 → List String →
      Action σ (List (String × Except Failure (List NamespaceItem)) × Throttle Binary64)
  | t, [] => return ([], t)
  | t, name :: rest => do
    let (items, t) ← c.listInTurn ms t name
    let (listings, t) ← c.listBatch ms t rest
    return ((name, items) :: listings, t)

/-- What a batch of listings holds: namespaces and models in their order, or the first
failure. -/
def gather : List (String × Except Failure (List NamespaceItem)) →
    Except Failure (List String × List DiscoveredModel)
  | [] => .ok ([], [])
  | (name, items) :: rest => do
    let items ← items
    let (names, models) ← gather rest
    return (NamespaceItem.namespaces items ++ names, NamespaceItem.models name items ++ models)

/-- Walks the namespaces that are pending, and those found on the way after them. The
budget bounds the number of batches. -/
def walkNamespaces (c : Client σ) (ms : Value) (atOnce : Nat) :
    Nat → Throttle Binary64 → List String →
      Action σ (Except Failure (List DiscoveredModel) × Throttle Binary64)
  | _, t, [] => return (.ok [], t)
  | 0, t, _ => return (.error .budgetSpent, t)
  | budget + 1, t, pending => do
    let (listings, t) ← c.listBatch ms t (pending.take atOnce)
    match gather listings with
    | .error f => return (.error f, t)
    | .ok (names, models) =>
      let (more, t) ← c.walkNamespaces ms atOnce budget t (pending.drop atOnce ++ names)
      return (more.map (models ++ ·), t)

/-- How many namespaces are listed at a time: a whole number of at least one. -/
def atOnceOf (v : Value) : Except Failure Nat := do
  let q ← Quantity.ofValue v
  if ← q.isLess (.whole 1) then throw .noConcurrency
  match q with
  | .whole n => return n.toNat
  | _ => throw .wrongType

/-- All models below a namespace, with what is given or else the limits of the
configuration. A throttle goes on from where it stands. -/
def discover (c : Client σ) (budget : Nat) (root : String) (concurrency : Option Value)
    (ms : Value) (t : Throttle Binary64) :
    Action σ (Except Failure (List DiscoveredModel) × Throttle Binary64) :=
  match atOnceOf (concurrency.getD c.config.discovery.concurrency) with
  | .error f => return (.error f, t)
  | .ok atOnce => c.walkNamespaces ms atOnce budget t [root]

end Client
end DataPortal
