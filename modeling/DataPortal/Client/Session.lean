import DataPortal.Failure.Basic
import DataPortal.Service.Response
/-!
# Sessions

What a client needs of the world around it is a `Host`: requests, clocks, sleep, and
connections. The host's own state is abstract, so a client runs the same against a network
and against a script. A session joins that state with the token that is in use.
-/
namespace DataPortal

/-- A request for data. -/
structure Request where
  url : String
  headers : List (String × String)
  deriving DecidableEq, Repr

/-- A request for a token: a form sent to the authorization server. -/
structure TokenRequest where
  url : String
  headers : List (String × String)
  form : List (String × String)
  deriving DecidableEq, Repr

/-- What happens to a connection. -/
inductive ConnectionEvent where
  | opened (timeout : Binary64)
  | entered
  | left
  | closed
  deriving DecidableEq, Repr

/-- What a client needs of the world around it. The clock of tokens counts milliseconds;
the clock of the throttle counts seconds from any start. -/
structure Host (σ : Type) where
  get : Request → σ → Service.Reply × σ
  post : TokenRequest → σ → Service.Reply × σ
  clock : σ → Int × σ
  stopwatch : σ → Binary64 × σ
  sleep : Binary64 → σ → σ
  connection : ConnectionEvent → σ → σ

/-- A token and the millisecond at which it expires. -/
structure AccessToken where
  text : String
  expiresAt : Int
  deriving DecidableEq, Repr

/-- The state of a client at work. -/
structure Session (σ : Type) where
  outside : σ
  token : Option AccessToken

/-- A step of a client's work. What it did stays done when it fails. -/
abbrev Action (σ α : Type) := ExceptT Failure (StateM (Session σ)) α

namespace Action

variable {σ α : Type}

/-- Asks something of the world. -/
def ask (f : σ → α × σ) : Action σ α := fun s =>
  let (a, outside) := f s.outside
  (.ok a, { s with outside })

/-- Does something to the world. -/
def tell (f : σ → σ) : Action σ Unit := fun s =>
  (.ok (), { s with outside := f s.outside })

/-- The token in use. -/
def token : Action σ (Option AccessToken) := fun s =>
  (.ok s.token, s)

/-- Puts a token into use, or none. -/
def setToken (t : Option AccessToken) : Action σ Unit := fun s =>
  (.ok (), { s with token := t })

/-- A result that needs nothing of the world. -/
def settle (r : Except Failure α) : Action σ α := fun s =>
  (r, s)

/-- Does the work and returns its outcome, failed or not. -/
def outcome (a : Action σ α) : Action σ (Except Failure α) := fun s =>
  let (r, s) := a s
  (.ok r, s)

end Action
end DataPortal
