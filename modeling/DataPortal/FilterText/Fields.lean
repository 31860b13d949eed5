import DataPortal.Failure.Basic
import DataPortal.Query.Basic
import DataPortal.Text.Blank
/-!
# Field lists and sort keys as a person types them
-/
namespace DataPortal

/-- Reads a sort key: a field, with a minus in front for descending order. -/
def Query.SortKey.parse (s : List Char) : Except Failure Query.SortKey :=
  match Text.strip s with
  | [] | ['-'] => .error (.invalidInput "Missing sort field" "Example: \"name\" or \"-date\"")
  | '-' :: field => .ok ⟨String.ofList field, true⟩
  | field => .ok ⟨String.ofList field, false⟩

/-- Sorts by one more key. -/
def Query.sortBy (q : Query) (k : Query.SortKey) : Query :=
  if k.descending then q.sortDescending k.field else q.sort k.field

/-- Reads a list of fields with commas between them; blank ones are left out. -/
def FilterText.parseFields (s : List Char) : List (List Char) :=
  ((Text.pieces (· == ',') s).map Text.strip).filter (fun field => !field.isEmpty)

end DataPortal
