import DataPortal.Query.Filter
/-!
# Queries

What is asked of a model: which fields, which objects, in which order, how many, or
their count. The clauses of a query are written in one fixed order, whatever the order
in which they were asked for.
-/
namespace DataPortal

/-- A field to sort by. -/
structure Query.SortKey where
  field : String
  descending : Bool
  deriving DecidableEq, Repr

/-- A query. The limit is a value as it was given, since the service judges it. -/
structure Query where
  fields : List String
  sortKeys : List Query.SortKey
  limit : Option Value
  counts : Bool
  filter : Option Query.Filter

namespace Query

/-- The query without clauses. -/
def empty : Query :=
  ⟨[], [], none, false, none⟩

/-- Asks for more fields. -/
def select (q : Query) (fields : List String) : Query :=
  { q with fields := q.fields ++ fields }

/-- Sorts by one more field, in ascending order. -/
def sort (q : Query) (field : String) : Query :=
  { q with sortKeys := q.sortKeys ++ [⟨field, false⟩] }

/-- Sorts by one more field, in descending order. -/
def sortDescending (q : Query) (field : String) : Query :=
  { q with sortKeys := q.sortKeys ++ [⟨field, true⟩] }

/-- Limits the number of objects; null takes the limit away. -/
def withLimit (q : Query) (n : Value) : Query :=
  { q with limit := match n with
      | .null => none
      | n => some n }

/-- Asks for the number of objects. -/
def count (q : Query) : Query :=
  { q with counts := true }

/-- Adds a filter. All filters of a query must hold. -/
def addFilter (q : Query) (f : Filter) : Query :=
  { q with filter := match q.filter with
      | none => some f
      | some g => some (.and g f) }

/-! ## Text -/

/-- A sort key as it stands in a query. -/
def SortKey.text (k : SortKey) : List Char :=
  if k.descending then '-' :: k.field.toList else k.field.toList

/-- A clause of the given name. -/
def clause (name : String) (arguments : List Char) : List Char :=
  name.toList ++ '(' :: arguments ++ [')']

/-- The text of the filter, if there is one. -/
def filterText (q : Query) : Except Failure (List (List Char)) :=
  match q.filter with
  | none => .ok []
  | some f => do
    let s ← f.render
    return [s]

/-- The clause that selects fields. -/
def selectClause (q : Query) : List (List Char) :=
  if q.fields.isEmpty then []
  else [clause "select" (Text.joinWith [','] (q.fields.map String.toList))]

/-- The clauses after the filter. -/
def laterClauses (q : Query) : List (List Char) :=
  (if q.sortKeys.isEmpty then []
    else [clause "sort" (Text.joinWith [','] (q.sortKeys.map SortKey.text))]) ++
  (match q.limit with
    | none => []
    | some n => [clause "limit" n.display]) ++
  (if q.counts then [clause "count" []] else [])

/-- The clauses of a query in their order. -/
def clauses (q : Query) : Except Failure (List (List Char)) := do
  let filter ← q.filterText
  return q.selectClause ++ filter ++ q.laterClauses

/-- Clauses as a query text: nothing, or a question mark and the clauses with `&` between. -/
def joinClauses (parts : List (List Char)) : List Char :=
  if parts.isEmpty then [] else '?' :: Text.joinWith ['&'] parts

/-- The text of a query. -/
def render (q : Query) : Except Failure (List Char) := do
  let parts ← q.clauses
  return joinClauses parts

/-- A query text with one more clause. -/
def appendClause (query clause : List Char) : List Char :=
  query ++ (if query.isEmpty then '?' else '&') :: clause

/-- A query with one more clause, both of them values that are displayed. What counts as
false has no clauses yet. -/
def appendClauseTo (query clause : Value) : List Char :=
  query.display ++ (if query.isTruthy then '&' else '?') :: clause.display

/-- The clause that continues at a page cursor. -/
def pageClause (cursor : List Char) : List Char :=
  clause "page" (quoted cursor)

end Query
end DataPortal
