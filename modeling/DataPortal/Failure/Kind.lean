import DataPortal.Failure.Basic
import DataPortal.Value.Display
/-!
# Kinds of errors

The kinds of errors that the library reports form a tree: every error is a general one,
and the error answers of the service have kinds of their own. An error of a kind is made
from named details, some of which have defaults, and is shown with them.
-/
namespace DataPortal

/-- A kind of errors. -/
inductive ErrorKind where
  | general
  | invalidInput
  | service
  | validation
  | authentication
  | notFound
  | rateLimit
  | partialFailure
  deriving DecidableEq, Repr

namespace ErrorKind

/-- A kind and the wider kinds that it belongs to, the narrowest first. -/
def lineage : ErrorKind → List ErrorKind
  | .general => [.general]
  | .invalidInput => [.invalidInput, .general]
  | .service => [.service, .general]
  | .validation => [.validation, .service, .general]
  | .authentication => [.authentication, .service, .general]
  | .notFound => [.notFound, .service, .general]
  | .rateLimit => [.rateLimit, .service, .general]
  | .partialFailure => [.partialFailure, .general]

/-- The details of an error of a kind, each with its default unless it is required. -/
def details : ErrorKind → List (String × Option Value)
  | .general | .invalidInput => [("message", none), ("hint", some .null)]
  | .service =>
    [("message", none), ("status", none), ("body", some .null), ("hint", some .null)]
  | .validation => [("message", some (.str "Validation error")), ("body", some .null)]
  | .authentication =>
    [("message", some (.str "Authentication failed")), ("status", some (.int 401)),
     ("body", some .null)]
  | .notFound => [("message", some (.str "Resource not found")), ("body", some .null)]
  | .rateLimit =>
    [("message", some (.str "Rate limit exceeded")), ("body", some .null),
     ("records_fetched", some (.int 0)), ("attempts", some (.int 1))]
  | .partialFailure =>
    [("message", none), ("records_fetched", none), ("cause", some .null),
     ("records", some .null)]

end ErrorKind

namespace PortalError

/-- The kind of an error. -/
def kind : PortalError → ErrorKind
  | .general .. => .general
  | .invalidInput .. => .invalidInput
  | .service .other .. => .service
  | .service .validation .. => .validation
  | .service .authentication .. => .authentication
  | .service .notFound .. => .notFound
  | .rateLimit .. => .rateLimit
  | .partialFailure .. => .partialFailure

end PortalError

/-- An error as it is shown: its kind, its message, its hint, and the details that errors of
its kind have. An error that is made from details takes them as they are given. -/
structure ErrorReport where
  kind : ErrorKind
  message : Value
  hint : Value
  details : List (String × Value)
  /-- The cause of a partial failure, if it is known; other errors have no place for one. -/
  cause : Option (Option ErrorReport)

namespace ErrorReport

/-- A text, or null. -/
def optionalText : Option String → Value
  | some s => .str s
  | none => .null

/-- The details of an answer of the service. -/
def answerDetails (status body : Value) : List (String × Value) :=
  [("status", status), ("body", body)]

/-- An error of the library as it is shown. -/
def ofError (e : PortalError) : ErrorReport :=
  let shown := ErrorReport.mk e.kind (.ofText e.message) (optionalText e.hint)
  match e with
  | .general .. | .invalidInput .. => shown [] none
  | .service _ _ status body _ => shown (answerDetails (.int status) body) none
  | .rateLimit _ body fetched attempts =>
    shown (answerDetails (.int 429) body ++
      [("records_fetched", .int fetched), ("attempts", .int attempts)]) none
  | .partialFailure _ fetched cause records =>
    shown [("records_fetched", .int fetched), ("records", .list records)]
      (some (match cause with
        | some c => some (ofError c)
        | none => none))

/-- The details that an error of a kind shows, and its hint. -/
def shownDetails (k : ErrorKind) (detail : String → Value) : List (String × Value) × Value :=
  match k with
  | .general | .invalidInput => ([], detail "hint")
  | .service => (answerDetails (detail "status") (detail "body"), detail "hint")
  | .validation => (answerDetails (.int 400) (detail "body"), .null)
  | .authentication => (answerDetails (detail "status") (detail "body"), .null)
  | .notFound => (answerDetails (.int 404) (detail "body"), .null)
  | .rateLimit =>
    let fetched := detail "records_fetched"
    (answerDetails (.int 429) (detail "body") ++
      [("records_fetched", fetched), ("attempts", detail "attempts")],
      .str (PortalError.rateLimitHint (String.ofList fetched.display)))
  | .partialFailure =>
    let fetched := detail "records_fetched"
    let records := match detail "records" with
      | .null => .list []
      | v => v
    ([("records_fetched", fetched), ("records", records)],
      .str (PortalError.partialFailureHint (String.ofList fetched.display)))

/-- Makes an error of a kind from named details. No detail may be missing, unless it has a
default, and none may be unknown to the kind. Only a partial failure has a cause. -/
def ofDetails (k : ErrorKind) (given : List (Value × Value)) (cause : Option ErrorReport) :
    Except Failure ErrorReport := do
  let known := k.details
  unless given.all (fun (name, _) => known.any (fun (d, _) => Value.isKey d name)) do
    throw .wrongType
  unless known.all (fun (d, default) => default.isSome || (Value.lookup d given).isSome) do
    throw .wrongType
  unless cause.isNone || k = .partialFailure do
    throw .wrongType
  let detail := fun name =>
    (Value.lookup name given).getD (((known.lookup name).bind id).getD .null)
  let (details, hint) := shownDetails k detail
  return ⟨k, detail "message", hint, details, if k = .partialFailure then some cause else none⟩

end ErrorReport
end DataPortal
