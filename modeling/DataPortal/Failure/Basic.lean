import DataPortal.Value.Basic
/-!
# Failures

Two layers. A `PortalError` is what the library itself reports to its user: wrong
input, an error answer of the service, a rate limit, a stream that broke. A `Failure`
is anything that stops an operation: such a report, a request that got no answer, or
data of a form that the operation cannot work on.
-/
namespace DataPortal

/-- What an error answer of the service is about. -/
inductive ServiceErrorKind where
  | other
  | validation
  | authentication
  | notFound
  deriving DecidableEq, Repr

/-- An error that the library reports. The body is the object that the service sent, or
null; `fetched` counts the records that had arrived. -/
inductive PortalError where
  | general (message : String) (hint : Option String)
  | invalidInput (message : String) (hint : Option String)
  | service (kind : ServiceErrorKind) (message : LooseText) (status : Int) (body : Value)
      (hint : Option String)
  | rateLimit (message : LooseText) (body : Value) (fetched attempts : Int)
  | partialFailure (message : LooseText) (fetched : Int) (cause : Option PortalError)
      (records : List Value)
  deriving Repr

instance : Inhabited PortalError := ⟨.general "" none⟩

namespace PortalError

/-- The message of an error. -/
def message : PortalError → LooseText
  | .general message _ | .invalidInput message _ => .sound message
  | .service _ message _ _ _ | .rateLimit message _ _ _ | .partialFailure message _ _ _ => message

/-- What a rate limit left to the user. -/
def rateLimitHint (fetched : String) : String :=
  "Fetched " ++ fetched ++ " records before rate limit"

/-- What a partial failure left to the user. -/
def partialFailureHint (fetched : String) : String :=
  fetched ++ " records were fetched before the failure"

/-- What the user may do, or what is left to the user. -/
def hint : PortalError → Option String
  | .general _ hint | .invalidInput _ hint | .service _ _ _ _ hint => hint
  | .rateLimit _ _ fetched _ => some (rateLimitHint (toString fetched))
  | .partialFailure _ fetched _ _ => some (partialFailureHint (toString fetched))

/-- An error answer of the service, a rate limit included. -/
def isFromService : PortalError → Bool
  | .service .. | .rateLimit .. => true
  | _ => false

/-- A rate limit that retrying did not overcome. -/
def isRateLimit : PortalError → Bool
  | .rateLimit .. => true
  | _ => false

end PortalError

/-- What stops an operation. -/
inductive Failure where
  /-- An error that the library reports. -/
  | reported (error : PortalError)
  /-- A request that got no answer. -/
  | unreachable (message : String)
  /-- A value of a form that the operation cannot take. -/
  | wrongType
  /-- A value that lacks the operation asked of it. -/
  | noSuchMember
  /-- An object without a needed key. -/
  | noSuchKey
  /-- A place outside a list. -/
  | outOfRange
  /-- A value of the right form that makes no sense. -/
  | badValue
  /-- A result outside the range of its kind. -/
  | overflow
  /-- An operation on decimal numbers that has no result, for one of them is a NaN. -/
  | undefinedDecimal
  /-- A result beyond the range of decimal numbers. -/
  | decimalOverflow
  /-- A result that is too long to be held. -/
  | outOfMemory
  /-- A text that is no JSON. -/
  | notJson
  /-- Lists and objects in one another, more of them than can be read. -/
  | tooDeep
  /-- Bytes that encode no text. -/
  | notText
  /-- A text that cannot be put into bytes, for a surrogate stands in it. -/
  | notEncodable
  /-- A file that does not exist. -/
  | noSuchFile
  /-- A record that does not fit its model. -/
  | invalidRecord
  /-- A text that is no YAML. -/
  | notYaml
  /-- A walk with room for no request at a time. -/
  | noConcurrency
  /-- A walk that was not over when its budget of steps was spent. -/
  | budgetSpent
  deriving Repr

instance : Inhabited Failure := ⟨.wrongType⟩

/-- The text of the failures whose wording is fixed. -/
def Failure.message? : Failure → Option LooseText
  | .reported e => some e.message
  | .unreachable message => some message
  | .noConcurrency => some "concurrency must be >= 1"
  | _ => none

/-- The library reports wrong input with a hint. -/
def Failure.invalidInput (message hint : String) : Failure :=
  .reported (.invalidInput message (some hint))

end DataPortal
