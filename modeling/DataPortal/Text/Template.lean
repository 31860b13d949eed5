import DataPortal.Text.Digit
/-!
# Templates

The shape of a text of fixed length, such as `####-##-##`.
-/
namespace DataPortal.Text

/-- Takes a text of the template's shape from the front and returns the rest. `#` stands
for a decimal digit of any script, every other character for itself. -/
def takeTemplate? : List Char → List Char → Option (List Char)
  | [], s => some s
  | _ :: _, [] => none
  | p :: template, c :: s =>
    if (if p = '#' then isDigit c else p == c) then takeTemplate? template s else none

/-- The end of a text, or the line feed that ends its last line. -/
def isAtEnd (s : List Char) : Bool :=
  s == [] || s == ['\n']

/-- Takes a run of digits whose length lies between two bounds and returns the rest. -/
def takeDigits? (least most : Nat) (s : List Char) : Option (List Char) :=
  let n := (s.takeWhile isDigit).length
  if least ≤ n ∧ n ≤ most then some (s.dropWhile isDigit) else none

end DataPortal.Text
