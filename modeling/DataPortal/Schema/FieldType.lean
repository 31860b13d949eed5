/-!
# Types of fields

The types that the values of a field show, and the one type that a field gets when its
values show several.
-/
namespace DataPortal

/-- What a value or a field is. A field that only held nulls is of unknown type. -/
inductive FieldType where
  | unknown
  | string
  | integer
  | number
  | boolean
  | date
  | datetime
  | geometry
  | ref
  | url
  | file
  | array
  | object
  deriving DecidableEq, Repr

namespace FieldType

/-- All types. -/
def all : List FieldType :=
  [.unknown, .string, .integer, .number, .boolean, .date, .datetime, .geometry, .ref, .url,
   .file, .array, .object]

/-- The name of a type. -/
def name : FieldType → String
  | .unknown => "unknown"
  | .string => "string"
  | .integer => "integer"
  | .number => "number"
  | .boolean => "boolean"
  | .date => "date"
  | .datetime => "datetime"
  | .geometry => "geometry"
  | .ref => "ref"
  | .url => "url"
  | .file => "file"
  | .array => "array"
  | .object => "object"

/-- The type of a name. -/
def ofName? (s : String) : Option FieldType :=
  all.find? (fun t => t.name == s)

/-- The types that win over others, the strongest first. -/
def byPriority : List FieldType :=
  [.ref, .string, .datetime, .date, .number, .integer]

/-- The type of a field whose values show the given types. Unknown types do not count. A
single type is kept; of several the one of highest priority wins, and where none has a
priority the field holds text. -/
def merge (seen : List FieldType) : FieldType :=
  match seen.filter (· ≠ unknown) with
  | [] => unknown
  | t :: rest =>
    if rest.all (· = t) then t
    else (byPriority.find? (fun p => (t :: rest).contains p)).getD string

end FieldType
end DataPortal
