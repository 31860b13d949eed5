import DataPortal.Client.Basic
import DataPortal.Client.Walk
/-!
# Walking the pages of a model

A page names the cursor of the next one, and a walk follows the cursors until a page has
none. The next page is only asked for when all records of the pages before it have been
pulled. A walk with a retry policy sends a page again after the service asked it to slow
down, and waits before that.
-/
namespace DataPortal

/-- A walk over the pages of a model. -/
structure PageWalk where
  path : String
  query : Option Query
  retry : Option RetryPolicy

namespace PageWalk

/-- Where a walk stands: before its start; before a page that was sent some number of
times, at a cursor unless it is the first page; or with records of a page left. `fetched`
counts the records that were delivered. -/
inductive Place where
  | unstarted
  | request (base : List Char) (cursor : Option Value) (fetched attempts : Nat)
  | deliver (base : List Char) (records : List Value) (page : Value) (fetched : Nat)

/-- The query of a walk with a retry policy: with the page size of the policy where the
query has no limit. -/
def pagedQuery (q : Query) (p : RetryPolicy) : Query :=
  if q.limit.isSome then q else q.withLimit p.pageSize

/-- The query text of the first page. -/
def baseQuery (w : PageWalk) : Except Failure (List Char) :=
  match w.retry with
  | none => Client.queryText w.query
  | some p => (pagedQuery (w.query.getD Query.empty) p).render

/-- The query text of a page: that of the first page, with the clause of the cursor. -/
def pageQuery (base : List Char) : Option Value → List Char
  | none => base
  | some cursor => Query.appendClause base (Query.pageClause cursor.display)

/-- The cursor of the page after a page, if there is one. -/
def nextCursor (page : Value) : Except Failure (Option Value) := do
  let links ← Client.member "_page" .null page
  if links.isTruthy then
    let cursor ← Client.member "next" .null links
    return if cursor.isTruthy then some cursor else none
  else return none

/-- The error of a walk that gave up on a page. -/
def gaveUp (body : Value) (fetched attempts : Nat) : Failure :=
  .reported (.rateLimit ("Rate limited after " ++ toString fetched ++ " records fetched") body
    fetched attempts)

/-- A wait in milliseconds as seconds. -/
def waitSeconds (delay : Value) : Except Failure Binary64 := do
  let ms ← Quantity.ofValue delay
  ms.thousandth

/-- What a policy says to an answer that asks for slowing down after some attempts: how
long to wait before the next one, or the error of giving up. -/
def slowDown (p : RetryPolicy) (body : Value) (fetched attempts : Nat) :
    Except Failure Binary64 := do
  if ← p.givesUp attempts then
    throw (gaveUp body fetched attempts)
  let delay ← p.backoff (.int attempts)
  waitSeconds delay

variable {σ : Type}

/-- Sends a page once. -/
def request (c : Client σ) (w : PageWalk) (base : List Char) (cursor : Option Value)
    (fetched attempts : Nat) : Action σ (Progress Place Value) := do
  match ← (c.fetch w.path (pageQuery base cursor)).outcome with
  | .ok page =>
    let records ← Action.settle (Client.pageRecords page)
    return .moved (.deliver base records page fetched)
  | .error failure =>
    match w.retry, failure with
    | some p, .reported (.rateLimit _ body _ _) =>
      let seconds ← Action.settle (slowDown p body fetched (attempts + 1))
      Action.tell (c.host.sleep seconds)
      return .moved (.request base cursor fetched (attempts + 1))
    | _, failure => Action.settle (.error failure)

/-- One step of a walk. -/
def step (c : Client σ) (w : PageWalk) : Place → Action σ (Progress Place Value)
  | .unstarted => do
    let base ← Action.settle w.baseQuery
    return .moved (.request base none 0 0)
  | .request base cursor fetched attempts => w.request c base cursor fetched attempts
  | .deliver base (r :: rest) page fetched => return .item r (.deliver base rest page (fetched + 1))
  | .deliver base [] page fetched => do
    match ← Action.settle (nextCursor page) with
    | some cursor => return .moved (.request base (some cursor) fetched 0)
    | none => return .ended

end PageWalk

namespace Client

variable {σ : Type}

/-- All objects that a query selects, page by page. A limit of the query is the size of
the pages. -/
def stream (model : String) (q : Option Query) : PageWalk :=
  ⟨modelPath model, q, none⟩

/-- The same, with pages sent again after rate limits. -/
def streamWithRetry (c : Client σ) (model : String) (q : Option Query)
    (options : Option RetryPolicy) : PageWalk :=
  ⟨modelPath model, q, some (options.getD c.config.retry)⟩

/-- The outcome of collecting records: they all arrived, or the walk failed after some of
them. What the library reports is then a partial failure that carries the records, unless
it is a rate limit, which counts them itself. -/
def collected (records : List Value) : Ending → Except Failure (List Value)
  | .enough | .ended => .ok records
  | .failed (.reported e) =>
    if e.isRateLimit || records.isEmpty then .error (.reported e)
    else
      .error (.reported (.partialFailure
        (e.message.after
          ("Stream interrupted after " ++ toString records.length ++ " records: "))
        records.length (some e) records))
  | .failed f => .error f

/-- How many records are collected where there may be at most a given number of them: the
first count that is not below it. Null bounds nothing, nor does what no count reaches. -/
def mostRecords (most : Value) : Except Failure (Option Nat) :=
  match most with
  | .null => .ok none
  | .int n => .ok (some n.toNat)
  | v => do
    let q ← Quantity.ofValue v
    if ← q.isAtMost (.whole 0) then return some 0
    else return q.amount?.bind (·.countReaching?)

/-- Collects the objects that a query selects, at most a given number of them. -/
def fetchAll (c : Client σ) (budget : Nat) (model : String) (q : Option Query) (most : Value)
    (options : Option RetryPolicy) : Action σ (List Value) := fun s =>
  match mostRecords most with
  | .error f => (.error f, s)
  | .ok wanted =>
    let w := c.streamWithRetry model q options
    let (pulled, s) := Walk.pull (w.step c) budget wanted .unstarted s
    (collected pulled.items pulled.ending, s)

end Client
end DataPortal
