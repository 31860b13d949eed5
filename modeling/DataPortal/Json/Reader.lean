import DataPortal.Json.Token
import DataPortal.Value.Key
/-!
# Reading JSON

The tokens of a text are read one at a time. The lists and objects that are still open
are held in a stack, so the reading is one fold over the tokens. There is room for only so many
of them at a time.
-/
namespace DataPortal.Json

/-- A list or an object that is still open, with what it holds so far, newest first. An
object waits for the value of a key. -/
inductive Frame where
  | list (items : List Value)
  | object (entries : List (Value × Value)) (key : Value)

/-- What may come next. -/
inductive Expecting where
  /-- A value, or the end of a list that has just been opened. -/
  | value (orEnd : Bool)
  /-- A key of an object with these entries, newest first, or its end just after its start. -/
  | key (entries : List (Value × Value)) (orEnd : Bool)
  /-- The colon after a key. -/
  | colon (entries : List (Value × Value)) (key : Value)
  /-- A comma or an end after a finished value. -/
  | more (v : Value)

/-- The state of the reader. -/
structure State where
  stack : List Frame
  expecting : Expecting

/-- Reads one token. A fault counts where a value may stand; anywhere else what stands there is
wrong in any case. Where a value may stand all open lists and objects are on the stack. -/
def State.read (room : Nat) (s : State) (t : Token) : Except Failure State :=
  match s.expecting, t with
  | .value _, .scalar v => .ok ⟨s.stack, .more v⟩
  | .value _, .fault f => .error f
  | .value _, .openList =>
    if s.stack.length < room then .ok ⟨.list [] :: s.stack, .value true⟩ else .error .tooDeep
  | .value _, .openObject =>
    if s.stack.length < room then .ok ⟨s.stack, .key [] true⟩ else .error .tooDeep
  | .value true, .closeList =>
    match s.stack with
    | .list items :: outer => .ok ⟨outer, .more (.list items.reverse)⟩
    | _ => .error .notJson
  | .key entries _, .scalar k =>
    if k.text?.isSome then .ok ⟨s.stack, .colon entries k⟩ else .error .notJson
  | .key entries true, .closeObject => .ok ⟨s.stack, .more (Value.object entries.reverse)⟩
  | .colon entries key, .colon => .ok ⟨.object entries key :: s.stack, .value false⟩
  | .more v, .comma =>
    match s.stack with
    | .list items :: outer => .ok ⟨.list (v :: items) :: outer, .value false⟩
    | .object entries key :: outer => .ok ⟨outer, .key ((key, v) :: entries) false⟩
    | [] => .error .notJson
  | .more v, .closeList =>
    match s.stack with
    | .list items :: outer => .ok ⟨outer, .more (.list (v :: items).reverse)⟩
    | _ => .error .notJson
  | .more v, .closeObject =>
    match s.stack with
    | .object entries key :: outer =>
      .ok ⟨outer, .more (Value.object ((key, v) :: entries).reverse)⟩
    | _ => .error .notJson
  | _, _ => .error .notJson

/-- Reads the tokens of one value. -/
def valueOfTokens (room : Nat) (s : State) : List Token → Except Failure Value
  | [] =>
    match s.stack, s.expecting with
    | [], .more v => .ok v
    | _, _ => .error .notJson
  | t :: rest => do
    let s ← s.read room t
    valueOfTokens room s rest

/-- The value that a whole text denotes, where there is room for only so many open lists and
objects at a time. -/
def read (room : Nat) (s : List CodePoint) : Except Failure Value :=
  valueOfTokens room ⟨[], .value false⟩ (tokens .between s)

end DataPortal.Json
