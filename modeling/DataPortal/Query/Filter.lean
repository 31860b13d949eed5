import DataPortal.Query.Token
/-!
# Filters

A filter is a tree of conditions joined by "and" and "or". In its text `&` binds tighter
than `|`, so parentheses stand exactly around an "or" directly under an "and":

    a=1&(b=2|c=3)      and(a, or(b, c))
    a=1|b=2&c=3        or(a, and(b, c))
    a=1&b=2&c=3        chained "and"
-/
namespace DataPortal.Query

/-- How a field is compared with a value. -/
inductive Comparison where
  | eq | ne | lt | le | gt | ge
  deriving DecidableEq, Repr

/-- How a field is matched with a text. -/
inductive TextMatch where
  | contains | startswith | endswith
  deriving DecidableEq, Repr

/-- Whether a field is among some values. -/
inductive Membership where
  | among | notAmong
  deriving DecidableEq, Repr

namespace Comparison

/-- All comparisons. -/
def all : List Comparison :=
  [.eq, .ne, .lt, .le, .gt, .ge]

/-- The name of a comparison. -/
def name : Comparison → String
  | .eq => "eq"
  | .ne => "ne"
  | .lt => "lt"
  | .le => "le"
  | .gt => "gt"
  | .ge => "ge"

/-- The sign of a comparison in a query. -/
def symbol : Comparison → List Char
  | .eq => ['=']
  | .ne => ['!', '=']
  | .lt => ['<']
  | .le => ['<', '=']
  | .gt => ['>']
  | .ge => ['>', '=']

/-- The comparison of a name. -/
def ofName? (s : String) : Option Comparison :=
  all.find? (fun o => o.name == s)

end Comparison

namespace TextMatch

/-- All text matches. -/
def all : List TextMatch :=
  [.contains, .startswith, .endswith]

/-- The name of a text match, which is also its form in a query. -/
def name : TextMatch → String
  | .contains => "contains"
  | .startswith => "startswith"
  | .endswith => "endswith"

/-- The text match of a name. -/
def ofName? (s : String) : Option TextMatch :=
  all.find? (fun o => o.name == s)

end TextMatch

namespace Membership

/-- Both memberships. -/
def all : List Membership :=
  [.among, .notAmong]

/-- The name of a membership, which is also its form in a query. -/
def name : Membership → String
  | .among => "in"
  | .notAmong => "notin"

/-- The membership of a name. -/
def ofName? (s : String) : Option Membership :=
  all.find? (fun o => o.name == s)

end Membership

/-- A single condition on a field. A value that is no condition can stand in its place,
but has no text. -/
inductive Condition where
  | comparison (field : String) (operator : Comparison) (value : Value)
  | text (field : String) (operator : TextMatch) (value : Value)
  | membership (field : String) (operator : Membership) (values : List Value)
  | foreign (value : Value)

/-- A tree of conditions. -/
inductive Filter where
  | condition (c : Condition)
  | and (left right : Filter)
  | or (left right : Filter)

/-- A method call on a field. -/
def callText (field method arguments : List Char) : List Char :=
  field ++ '.' :: method ++ '(' :: arguments ++ [')']

/-- The text of a condition. -/
def Condition.render : Condition → Except Failure (List Char)
  | .comparison field operator value => do
    let t ← token value
    return field.toList ++ operator.symbol ++ t
  | .text field operator value => do
    let t ← token value
    return callText field.toList operator.name.toList t
  | .membership field operator values => do
    let ts ← tokens values
    return callText field.toList operator.name.toList (Text.joinWith [','] ts)
  | .foreign _ => .error .wrongType

namespace Filter

/-- An "or" at the top. -/
def isOr : Filter → Bool
  | .or _ _ => true
  | _ => false

/-- A text between parentheses. -/
def parenthesized (s : List Char) : List Char :=
  '(' :: s ++ [')']

/-- The text of a filter as an operand of "and". -/
def asConjunct (f : Filter) (s : List Char) : List Char :=
  if f.isOr then parenthesized s else s

/-- The text of a filter. -/
def render : Filter → Except Failure (List Char)
  | .condition c => c.render
  | .and left right => do
    let l ← left.render
    let r ← right.render
    return left.asConjunct l ++ '&' :: right.asConjunct r
  | .or left right => do
    let l ← left.render
    let r ← right.render
    return l ++ '|' :: r

/-- A comparison of a field with a value. -/
def comparing (field : String) (operator : Comparison) (value : Value) : Filter :=
  .condition (.comparison field operator value)

/-- A match of a field with a text. -/
def matching (field : String) (operator : TextMatch) (value : Value) : Filter :=
  .condition (.text field operator value)

/-- A membership of a field in what a walk over a value meets. -/
def amongElements (field : String) (operator : Membership) (values : Value) :
    Except Failure Filter :=
  match values.elements? with
  | some items => .ok (.condition (.membership field operator items))
  | none => .error .wrongType

/-- Members of a field that cannot be applied to a single value, or not to most: its name, the
comparison that lacks its sign, and what describes it as an object. -/
def inapplicable : List String :=
  ["name", "_compare", "__delattr__", "__dict__", "__dir__", "__doc__", "__format__",
   "__getattribute__", "__getstate__", "__hash__", "__init_subclass__", "__module__", "__new__",
   "__reduce__", "__reduce_ex__", "__repr__", "__setattr__", "__sizeof__", "__str__",
   "__weakref__"]

/-- What a member of a field that is no operation fails with when it is applied to a value.
Even where that can be done the result is no filter. -/
def memberFailure (name : String) (value : Value) : Failure :=
  match name, value with
  | "__format__", .str layout => if layout = "" then .noSuchMember else .wrongType
  | "__getattribute__", .str _ | "__delattr__", .str _ => .noSuchMember
  | "__getattribute__", .broken _ | "__delattr__", .broken _ => .noSuchMember
  | "__reduce_ex__", .bool _ => .noSuchMember
  | "__reduce_ex__", .int n => if -(2 ^ 31) ≤ n ∧ n < 2 ^ 31 then .noSuchMember else .overflow
  | name, _ => if inapplicable.contains name then .wrongType else .noSuchMember

/-- The operation of a name that a field offers, applied to a value. -/
def operation (field name : String) (value : Value) : Except Failure Filter :=
  match Comparison.ofName? name, TextMatch.ofName? name with
  | some o, _ => .ok (comparing field o value)
  | _, some o => .ok (matching field o value)
  | none, none =>
    if name = "in_" then amongElements field .among value
    else if name = "notin" then amongElements field .notAmong value
    else .error (memberFailure name value)

/-- A filter from its parts as they stand in a text: a membership takes the values, and
an absent or empty list of them is no value at all; any other operation takes the value. -/
def ofParts (field operator : String) (value values : Value) : Except Failure Filter :=
  match Membership.ofName? operator with
  | some o => amongElements field o (if values.isTruthy then values else .list [])
  | none => operation field operator value

end Filter
end DataPortal.Query
