import DataPortal.Failure.Basic
import DataPortal.Schema.Classification
/-!
# Types of fields from records

Models rarely publish the types of their fields, so these are guessed from some of their
records: each value shows a type, and the types that a field shows are merged. Fields
keep the order in which they were first seen; names that begin with a low line are
internal and left out.
-/
namespace DataPortal.Schema

/-- The fields seen so far, each with the types that its values have shown. -/
abbrev Seen := List (String × List FieldType)

/-- Notes a type that a field has shown. -/
def note (name : String) (t : FieldType) : Seen → Seen
  | [] => [(name, [t])]
  | (n, ts) :: rest => if n = name then (n, ts ++ [t]) :: rest else (n, ts) :: note name t rest

/-- Notes the type of one entry of a record, unless its name is internal. -/
def noteNamed (seen : Seen) (name : String) (v : Value) : Seen :=
  if name.startsWith "_" then seen else note name (typeOf v) seen

/-- Notes the type of one entry of a record. Keys must be texts. -/
def noteEntry (seen : Seen) (entry : Value × Value) : Except Failure Seen :=
  match entry.1 with
  | .str name => .ok (noteNamed seen name entry.2)
  | .broken t => .ok (noteNamed seen (String.ofList t.shown) entry.2)
  | _ => .error .noSuchMember

/-- Notes the types of a record's entries. A record must be an object. -/
def noteRecord (seen : Seen) (record : Value) : Except Failure Seen :=
  match record with
  | .dict entries => entries.foldlM noteEntry seen
  | _ => .error .noSuchMember

/-- The type of each field of some records. -/
def inferFields (records : List Value) : Except Failure (List (String × FieldType)) := do
  let seen ← records.foldlM noteRecord []
  return seen.map (fun (name, ts) => (name, FieldType.merge ts))

/-- The records that a value holds. -/
def recordsOf (v : Value) : Except Failure (List Value) :=
  match v.elements? with
  | some records => .ok records
  | none => .error .wrongType

end DataPortal.Schema
