import DataPortal.Client.Session
/-!
# Scripted hosts

A host that answers from a script and keeps a log of what it was asked. Routes answer
every request for their address; other requests take the next reply of the script.
-/
namespace DataPortal.Replay

/-- Something that a host was asked for. -/
inductive Event where
  | requested (r : Request)
  | tokenRequested (r : TokenRequest)
  | slept (seconds : Binary64)
  | connection (e : ConnectionEvent)
  deriving DecidableEq, Repr

/-- A script and what has happened so far, newest first. The clock of tokens only moves
when it is set. -/
structure Tape where
  routes : List (String × Service.Reply)
  replies : List Service.Reply
  tokenReplies : List Service.Reply
  clockMs : Int
  log : List Event

namespace Tape

/-- The reply of a script that is over. -/
def silence : Service.Reply :=
  .unreachable "no response left"

/-- Takes the next reply of a script. -/
def next : List Service.Reply → Service.Reply × List Service.Reply
  | [] => (silence, [])
  | reply :: rest => (reply, rest)

/-- Adds to the log. -/
def note (e : Event) (t : Tape) : Tape :=
  { t with log := e :: t.log }

/-- Answers a request for data. -/
def get (r : Request) (t : Tape) : Service.Reply × Tape :=
  let t := t.note (.requested r)
  match t.routes.lookup r.url with
  | some reply => (reply, t)
  | none =>
    let (reply, replies) := next t.replies
    (reply, { t with replies })

/-- Answers a request for a token. -/
def post (r : TokenRequest) (t : Tape) : Service.Reply × Tape :=
  let t := t.note (.tokenRequested r)
  let (reply, tokenReplies) := next t.tokenReplies
  (reply, { t with tokenReplies })

/-- Moves the clock of tokens. -/
def advance (ms : Int) (t : Tape) : Tape :=
  { t with clockMs := t.clockMs + ms }

end Tape

/-- The host of a script. Its stopwatch stands still. -/
def host : Host Tape :=
  { get := Tape.get
    post := Tape.post
    clock := fun t => (t.clockMs, t)
    stopwatch := fun t => (Binary64.zero false, t)
    sleep := fun seconds t => t.note (.slept seconds)
    connection := fun e t => t.note (.connection e) }

/-- A session with a script at its start. -/
def start (t : Tape) : Session Tape :=
  ⟨t, none⟩

end DataPortal.Replay
