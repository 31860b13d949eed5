import DataPortal.Client.Credentials
import DataPortal.Config.Basic
import DataPortal.Query.Basic
/-!
# A client of the data service

Requests for one object, for one page of a model, and for the number of its objects. A
client with credentials shows a token with every request.
-/
namespace DataPortal

/-- A client: its configuration, the world around it, and its credentials, if any. A
client that opened its connection itself also closes it. -/
structure Client (σ : Type) where
  config : Config
  host : Host σ
  credentials : Option Credentials
  ownsConnection : Bool

namespace Client

variable {σ : Type}

/-- The client of a configuration. With both parts of the credentials it is authorized. A
connection of its own needs a timeout in seconds. -/
def ofConfig (config : Config) (host : Host σ) (ownsConnection : Bool) :
    Except Failure (Client σ) := do
  if ownsConnection then
    let _ ← Credentials.timeoutSeconds config.timeout
  if config.hasCredentials then
    match config.scopes.elements? with
    | some scopes =>
      return ⟨config, host,
        some ⟨config.authUrl, config.clientId, config.clientSecret, scopes, none⟩, ownsConnection⟩
    | none => throw .wrongType
  else return ⟨config, host, none, ownsConnection⟩

/-- Opens the connection, where the client has one of its own. -/
def openConnection (c : Client σ) : Action σ Unit := do
  if c.ownsConnection then
    let seconds ← Action.settle (Credentials.timeoutSeconds c.config.timeout)
    Action.tell (c.host.connection (.opened seconds))

/-- Closes the connection, where the client has one of its own. -/
def close (c : Client σ) : Action σ Unit := do
  if c.ownsConnection then
    Action.tell (c.host.connection .closed)

/-- The headers of a request. -/
def headers (c : Client σ) : Action σ (List (String × String)) := do
  match c.credentials with
  | none => return [("Accept", "application/json")]
  | some credentials =>
    let token ← credentials.obtain c.host
    return [("Accept", "application/json"), ("Authorization", "Bearer " ++ token)]

/-- The value that a reply holds. -/
def readReply : Service.Reply → Except Failure Value
  | .unreachable message => .error (.unreachable message)
  | .answered r => r.read

/-- Asks for what stands under a path, with a query text. -/
def fetch (c : Client σ) (path : String) (query : List Char) : Action σ Value := do
  let headers ← c.headers
  let reply ← Action.ask (c.host.get ⟨c.config.baseUrl ++ path ++ String.ofList query, headers⟩)
  Action.settle (readReply reply)

/-- The path of a model. -/
def modelPath (model : String) : String :=
  "/" ++ model

/-- The text of a query, and no text without one. -/
def queryText (q : Option Query) : Except Failure (List Char) :=
  match q with
  | some q => q.render
  | none => .ok []

/-- The value under a key of an answer that must be an object, or a default. -/
def member (name : String) (default : Value) : Value → Except Failure Value
  | .dict entries => .ok ((Value.lookup name entries).getD default)
  | _ => .error .noSuchMember

/-- The records of a page: a page without them has none. -/
def pageData (page : Value) : Except Failure Value :=
  member "_data" (.list []) page

/-- What a walk over the records of a page meets. -/
def pageRecords (page : Value) : Except Failure (List Value) := do
  let data ← pageData page
  match data.elements? with
  | some records => return records
  | none => throw .wrongType

/-- One object of a model. -/
def getOne (c : Client σ) (model id : String) : Action σ Value :=
  c.fetch (modelPath model ++ "/" ++ id) []

/-- One page of a model. -/
def getPage (c : Client σ) (model : String) (q : Option Query) : Action σ Value := do
  let s ← Action.settle (queryText q)
  c.fetch (modelPath model) s

/-- The records of one page of a model. -/
def getAll (c : Client σ) (model : String) (q : Option Query) : Action σ Value := do
  let page ← c.getPage model q
  Action.settle (pageData page)

/-- The value under a key of an object that must have it. -/
def field (name : String) : Value → Except Failure Value
  | .dict entries =>
    match Value.lookup name entries with
    | some v => .ok v
    | none => .error .noSuchKey
  | _ => .error .wrongType

/-- The first item of a list or character of a text. -/
def first : Value → Except Failure Value
  | .list [] | .tuple [] => .error .outOfRange
  | .list (v :: _) | .tuple (v :: _) => .ok v
  | .str s =>
    match s.toList with
    | [] => .error .outOfRange
    | c :: _ => .ok (Value.ofChar c)
  | .broken t =>
    match t.points with
    | [] => .error .outOfRange
    | p :: _ => .ok (Value.ofPoints [p])
  | .dict _ => .error .noSuchKey
  | _ => .error .wrongType

/-- The number in an answer to a query for a count. -/
def countIn (page : Value) : Except Failure Value := do
  let data ← field "_data" page
  let row ← first data
  field "count()" row

/-- The number of objects that a query selects. -/
def count (c : Client σ) (model : String) (q : Option Query) : Action σ Value := do
  let s ← Action.settle (q.getD Query.empty).count.render
  let page ← c.fetch (modelPath model) s
  Action.settle (countIn page)

end Client
end DataPortal
