import DataPortal.Failure.Basic
import DataPortal.Json.Reader
import DataPortal.Service.Status
import DataPortal.Text.ByteOrder
/-!
# Answers of the service

An answer has a status and a body of bytes. An answer of success is read as JSON; any
other is an error, whose kind follows the status and whose message is looked for in the
body. A body in which too many lists and objects lie in one another cannot be read at all.
-/
namespace DataPortal.Service

/-- An answer, and how many lists and objects of its body can be open at a time where it is
read. -/
structure Response where
  status : Int
  body : List UInt8
  room : Nat
  deriving DecidableEq, Repr

/-- What a request leads to. -/
inductive Reply where
  | answered (response : Response)
  | unreachable (message : String)
  deriving Repr

/-- The message that the entries of an error object hold: its own, or that of the first of
its errors. -/
def messageIn? (entries : List (Value × Value)) : Option LooseText :=
  match (Value.entry "message" entries).text? with
  | some s => some s
  | none =>
    match Value.entry "errors" entries with
    | .list (.dict first :: _) => (Value.entry "message" first).text?
    | _ => none

/-- The message of a body, or a default where it has none. A body must be an object
unless it is empty. -/
def errorMessage (body default : Value) : Except Failure Value :=
  match body with
  | .dict entries => .ok ((messageIn? entries).elim default .ofText)
  | body => if body.isTruthy then .error .noSuchMember else .ok default

namespace Response

/-- An answer of success. -/
def isSuccess (r : Response) : Bool :=
  isSuccessStatus r.status

/-- The JSON value of the body. -/
def json (r : Response) : Except Failure Value :=
  match Text.Encoding.decode? r.body with
  | none => .error .notText
  | some s => Json.read r.room s

/-- The value that the body of an error answer denotes. Here the bytes are UTF-8 without a byte
order mark, and a run of bytes that encodes nothing is read as a replacement character. -/
def errorJson (r : Response) : Except Failure Value :=
  Json.read r.room ((Text.Utf8.decodeLossy r.body).map .char)

/-- The entries of the JSON object that the body of an error answer is, if it is one. What is no
JSON is taken as no object; a body that cannot be read at all is not. -/
def errorEntries (r : Response) : Except Failure (Option (List (Value × Value))) :=
  match r.errorJson with
  | .ok (.dict entries) => .ok (some entries)
  | .error .tooDeep => .error .tooDeep
  | _ => .ok none

/-- The object of an error answer, or null. -/
def errorBody : Option (List (Value × Value)) → Value
  | some entries => .dict entries
  | none => .null

/-- The error that a status and the entries of an error object report. -/
def errorOf (status : Int) (entries : Option (List (Value × Value))) : PortalError :=
  let message := (entries.bind messageIn?).getD (describe status)
  let body := errorBody entries
  if status = 400 then .service .validation message 400 body none
  else if status = 401 ∨ status = 403 then .service .authentication message status body none
  else if status = 404 then .service .notFound message 404 body none
  else if status = 429 then .rateLimit message body 0 1
  else .service .other message status body none

/-- Fails with the error that an answer reports, if it is none of success. -/
def check (r : Response) : Except Failure Unit :=
  if r.isSuccess then .ok ()
  else do
    let entries ← r.errorEntries
    throw (.reported (errorOf r.status entries))

/-- The JSON value of an answer of success, or the error that the answer reports. -/
def read (r : Response) : Except Failure Value := do
  r.check
  r.json

end Response
end DataPortal.Service
