import DataPortal.Query.Basic
/-!
# Queries as they are shown to a developer

The parts of a filter are shown by name, its values inspected.
-/
namespace DataPortal.Query

/-- A record shown by name with its named fields. -/
def inspectRecord (name : String) (fields : List (String × List Char)) : List Char :=
  name.toList ++ '(' ::
    Text.joinWith [',', ' '] (fields.map (fun (key, shown) => key.toList ++ '=' :: shown)) ++ [')']

/-- An operator shown with its family, its name in capitals, and its name. -/
def inspectOperator (family name : String) : List Char :=
  '<' :: family.toList ++ '.' :: name.toList.map Char.toUpper ++
    ':' :: ' ' :: Text.inspect name.toList ++ ['>']

/-- A condition as it is shown. -/
def Condition.inspect : Condition → List Char
  | .comparison field operator value =>
    inspectRecord "Comparison"
      [("field", Text.inspect field.toList),
       ("operator", inspectOperator "ComparisonOperator" operator.name),
       ("value", value.inspect)]
  | .text field operator value =>
    inspectRecord "StringOp"
      [("field", Text.inspect field.toList),
       ("operator", inspectOperator "StringOperator" operator.name),
       ("value", value.inspect)]
  | .membership field operator values =>
    inspectRecord "ArrayOp"
      [("field", Text.inspect field.toList),
       ("operator", inspectOperator "ArrayOperator" operator.name),
       ("values", (Value.tuple values).inspect)]
  | .foreign value => value.inspect

/-- A filter as it is shown. -/
def Filter.inspect : Filter → List Char
  | .condition c => c.inspect
  | .and left right => inspectRecord "And" [("left", left.inspect), ("right", right.inspect)]
  | .or left right => inspectRecord "Or" [("left", left.inspect), ("right", right.inspect)]

/-- A filter shown as an expression. -/
def Filter.inspectExpression (f : Filter) : List Char :=
  "Expression(".toList ++ f.inspect ++ [')']

/-- A query shown by its text. -/
def inspect (q : Query) : Except Failure (List Char) := do
  let s ← q.render
  return "QueryBuilder(".toList ++ Text.inspect s ++ [')']

end DataPortal.Query
