import DataPortal.FilterText.Literal
import DataPortal.Query.Basic
/-!
# Filter texts

A filter as a person types it:

    filter     = comparison | text match | membership
    comparison = field ("=" | "!=" | "<" | "<=" | ">" | ">=") literal
    text match = field "." ("contains" | "startswith" | "endswith") "(" text ")"
    membership = field "." ("in" | "notin") "(" literals ")"
-/
namespace DataPortal

namespace FilterText

open Query

/-- What a filter does with its field. -/
inductive Operation where
  | compare (o : Comparison)
  | matchText (o : TextMatch)
  | member (o : Membership)
  deriving DecidableEq, Repr

/-- The name of an operation. -/
def Operation.name : Operation → String
  | .compare o => o.name
  | .matchText o => o.name
  | .member o => o.name

/-- The operation that is called like a method. -/
def Operation.ofMethod? (s : String) : Option Operation :=
  match TextMatch.ofName? s with
  | some o => some (.matchText o)
  | none => (Membership.ofName? s).map .member

/-- A filter text that was read. A membership has values, and the first of them as its
value; other operations have a value alone. -/
structure Parsed where
  field : String
  operation : Operation
  value : Value
  values : Option (List Value)

/-! ## Taking a text apart -/

/-- The first character of a field name. -/
def isNameStart (c : Char) : Bool :=
  ('a' ≤ c && c ≤ 'z') || ('A' ≤ c && c ≤ 'Z') || c == '_'

/-- A further character of a field name. -/
def isNameChar (c : Char) : Bool :=
  isNameStart c || ('0' ≤ c && c ≤ '9') || c == '.'

/-- A field name. -/
def isFieldName : List Char → Bool
  | c :: rest => isNameStart c && rest.all isNameChar
  | [] => false

/-- A text that is not empty and stands on one line. -/
def isLine (s : List Char) : Bool :=
  !s.isEmpty && !s.contains '\n'

/-- The comparison sign at the front of a text, with the literal after it. A sign of two
characters is preferred, but some literal must be left. -/
def takeComparison? : List Char → Option (Comparison × List Char)
  | '<' :: '=' :: rest =>
    if isLine rest then some (.le, rest)
    else if isLine ('=' :: rest) then some (.lt, '=' :: rest) else none
  | '>' :: '=' :: rest =>
    if isLine rest then some (.ge, rest)
    else if isLine ('=' :: rest) then some (.gt, '=' :: rest) else none
  | '!' :: '=' :: rest => if isLine rest then some (.ne, rest) else none
  | '<' :: rest => if isLine rest then some (.lt, rest) else none
  | '>' :: rest => if isLine rest then some (.gt, rest) else none
  | '=' :: rest => if isLine rest then some (.eq, rest) else none
  | _ => none

/-- Takes a comparison apart: field, sign and literal. -/
def splitComparison? (s : List Char) : Option (List Char × Comparison × List Char) :=
  let field := s.takeWhile isNameChar
  if isFieldName field then
    (takeComparison? (s.dropWhile isNameChar)).map (fun (o, literal) => (field, o, literal))
  else none

/-- A dotted name cut at its last point. -/
def cutAtLastPoint? (s : List Char) : Option (List Char × List Char) :=
  let last := (s.reverse.takeWhile (· != '.')).reverse
  match (s.reverse.dropWhile (· != '.')) with
  | _ :: before => some (before.reverse, last)
  | [] => none

/-- What stands in parentheses that begin and end a text. -/
def parenthesized? : List Char → Option (List Char)
  | '(' :: rest => if rest.getLast? = some ')' then some rest.dropLast else none
  | _ => none

/-- Takes a method call apart: field, method and arguments. -/
def splitMethod? (s : List Char) : Option (List Char × Operation × List Char) :=
  (cutAtLastPoint? (s.takeWhile isNameChar)).bind fun (field, method) =>
    (Operation.ofMethod? (String.ofList method)).bind fun operation =>
      (parenthesized? (s.dropWhile isNameChar)).bind fun arguments =>
        if isFieldName field && isLine arguments then some (field, operation, arguments) else none

/-! ## Reading -/

/-- The failure for a text that is no filter. -/
def invalidSyntax (s : List Char) : Failure :=
  .invalidInput ("Invalid filter syntax: \"" ++ String.ofList s ++ "\"")
    "Examples: field=value, field>100, field.contains(\"text\")"

/-- The failure for a text match with something that is no text. -/
def textRequired (method : String) : Failure :=
  .invalidInput ("Invalid filter: " ++ method ++ "() requires a string argument")
    ("Example: name." ++ method ++ "(\"text\")")

/-- Reads the arguments of a method call. -/
def parseCall (field : String) (operation : Operation) (arguments : List Char) :
    Except Failure Parsed :=
  match operation with
  | .member o => do
    let values ← parseValueList arguments
    return ⟨field, .member o, values.headD .null, some values⟩
  | o => do
    let value ← parseValue arguments
    match value with
    | .str s => return ⟨field, o, .str s, none⟩
    | _ => throw (textRequired o.name)

/-- Reads a filter text. -/
def parse (s : List Char) : Except Failure Parsed :=
  let trimmed := Text.strip s
  match splitComparison? trimmed with
  | some (field, o, literal) => do
    let value ← parseValue literal
    return ⟨String.ofList field, .compare o, value, none⟩
  | none =>
    match splitMethod? trimmed with
    | some (field, operation, arguments) => parseCall (String.ofList field) operation arguments
    | none => .error (invalidSyntax s)

/-! ## Use -/

/-- The filter that a text asks for. -/
def Parsed.toFilter (p : Parsed) : Except Failure Filter :=
  Filter.ofParts p.field p.operation.name p.value
    (match p.values with
      | some values => .list values
      | none => .null)

end FilterText

/-- A query that asks for all of several filter texts in addition. -/
def Query.applyFilters (q : Query) : List FilterText.Parsed → Except Failure Query
  | [] => .ok q
  | p :: rest => do
    let f ← p.toFilter
    (q.addFilter f).applyFilters rest

end DataPortal
