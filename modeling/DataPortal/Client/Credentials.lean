import DataPortal.Client.Session
import DataPortal.Record.Change
import DataPortal.Text.Base64
import DataPortal.Text.Utf8
import DataPortal.Value.Display
import DataPortal.Value.Quantity
/-!
# Tokens

A bearer token is asked for with the client's credentials, kept, and replaced shortly
before it expires. A refresh that fails leaves the token as it is.
-/
namespace DataPortal

/-- The credentials of a client, and where they are shown. With a timeout of its own, each
request for a token opens a connection of its own. -/
structure Credentials where
  authUrl : String
  clientId : Value
  clientSecret : Value
  scopes : List Value
  ownConnection : Option Value

/-- A token is replaced this many milliseconds before it expires. -/
def expiryBufferMs : Int := 300000

/-- A token that does not have to be replaced yet. -/
def AccessToken.isFresh (t : AccessToken) (nowMs : Int) : Bool :=
  decide (nowMs < t.expiresAt - expiryBufferMs)

namespace Credentials

variable {σ : Type}

/-- The credentials in the form of basic authorization. -/
def basic (c : Credentials) : List Char :=
  Text.Base64.encode (Text.Utf8.encode (c.clientId.display ++ ':' :: c.clientSecret.display))

/-- The scopes with a space between each two. All of them must be texts. -/
def scopeText (scopes : List Value) : Except Failure String :=
  match scopes.mapM Record.text? with
  | some texts => .ok (String.ofList (Text.joinWith [' '] (texts.map String.toList)))
  | none => .error .wrongType

/-- The request for a token. -/
def request (c : Credentials) : Except Failure TokenRequest := do
  let scope ← scopeText c.scopes
  return {
    url := c.authUrl ++ "/auth/token"
    headers := [("Authorization", "Basic " ++ String.ofList c.basic)]
    form := [("grant_type", "client_credentials"), ("scope", scope)] }

/-- A timeout as a number of seconds: a number, or a text that spells one. -/
def timeoutSeconds (v : Value) : Except Failure Binary64 :=
  match v with
  | .str s =>
    match Binary64.ofText? s.toList with
    | some x => .ok x
    | none => .error .badValue
  | .broken _ => .error .badValue
  | v => do
    let seconds ← Quantity.ofValue v
    seconds.toBinary

/-- Sends a request for a token, over a connection of its own where there is a timeout for
it. -/
def send (c : Credentials) (host : Host σ) (r : TokenRequest) : Action σ Service.Reply := do
  match c.ownConnection with
  | none => Action.ask (host.post r)
  | some timeout =>
    let seconds ← Action.settle (timeoutSeconds timeout)
    Action.tell (host.connection (.opened seconds))
    Action.tell (host.connection .entered)
    let reply ← Action.ask (host.post r)
    Action.tell (host.connection .left)
    return reply

/-- What an answer of the authorization server holds, if that can be told. A body in which too
many lists and objects lie in one another stops the work. -/
def content (r : Service.Response) : Except Failure (Option Value) :=
  match r.json with
  | .ok v => .ok (some v)
  | .error .tooDeep => .error .tooDeep
  | .error _ => .ok none

/-- The error for an answer that grants no token: its description, where the answer is an
object that has one. -/
def refusal (status : Int) : Option Value → PortalError
  | some (.dict entries) =>
    let message := (Value.entry "error_description" entries).text?
    .service .authentication (message.getD "Failed to obtain access token") status (.dict entries)
      none
  | _ => .service .authentication "Failed to obtain access token" status .null none

/-- The error for an answer of success that holds no token. -/
def malformed (status : Int) : PortalError :=
  .service .authentication "Malformed token response" status .null none

/-- What an answer grants. -/
def grantOf (r : Service.Response) : Except Failure TokenGrant := do
  let held ← content r
  if r.isSuccess then
    match held.bind TokenGrant.ofValue? with
    | some g => .ok g
    | none => .error (.reported (malformed r.status))
  else .error (.reported (refusal r.status held))

/-- What a reply grants. -/
def grantOfReply : Service.Reply → Except Failure TokenGrant
  | .unreachable message => .error (.unreachable message)
  | .answered r => grantOf r

/-- Asks for a new token and puts it into use. -/
def refresh (c : Credentials) (host : Host σ) : Action σ Unit := do
  let r ← Action.settle c.request
  let reply ← c.send host r
  let grant ← Action.settle (grantOfReply reply)
  let now ← Action.ask host.clock
  Action.setToken (some ⟨grant.token, now + grant.expiresIn * 1000⟩)

/-- Whether a token is in use that does not have to be replaced yet. The clock is only
read where there is a token. -/
def isValid (host : Host σ) : Action σ Bool := do
  match ← Action.token with
  | none => return false
  | some t =>
    let now ← Action.ask host.clock
    return t.isFresh now

/-- The text of the token in use. -/
def tokenText : Option AccessToken → Except Failure String
  | some t => .ok t.text
  | none =>
    .error (.reported (.service .authentication "Failed to obtain access token" 401 .null none))

/-- A token for a request: the one in use, or a new one where that has to be replaced. -/
def obtain (c : Credentials) (host : Host σ) : Action σ String := do
  let valid ← isValid host
  if !valid then
    c.refresh host
  let t ← Action.token
  Action.settle (tokenText t)

/-- Takes the token out of use. -/
def forget : Action σ Unit :=
  Action.setToken none

end Credentials
end DataPortal
