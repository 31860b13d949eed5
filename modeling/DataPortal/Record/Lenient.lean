import DataPortal.Number.Numeral
import DataPortal.Value.Basic
/-!
# Lenient reading of record fields

Services write numbers in several ways, so a field for a whole number also takes a truth
value, a number without a fraction, and a text that spells one. A field may be named in
two ways.
-/
namespace DataPortal.Record

/-- A digit that a number can start with, or the minus in front of one. -/
def startsNumber (c : Char) : Bool :=
  c == '-' || ('1' ≤ c && c ≤ '9')

/-- A number without the zeros in front of it, among which low lines do not count. Of zeros
alone the last character is left. -/
def dropLeadingZeros? : List Char → Option (List Char)
  | [] => none
  | c :: rest =>
    if startsNumber c then some (c :: rest)
    else if c = '0' then
      match rest.dropWhile (fun d => d == '0' || d == '_') with
      | [] => some [rest.getLastD c]
      | d :: more => if startsNumber d then some (d :: more) else none
    else none

/-- A number without the zeros in front of its first digit that counts, with its minus. -/
def significant? : List Char → Option (List Char)
  | '-' :: rest => (dropLeadingZeros? rest).map ('-' :: ·)
  | s => dropLeadingZeros? s

/-- A text without the low lines inside it. None may stand at an end or beside another. -/
def dropGrouping? (s : List Char) : Option (List Char) :=
  let groups := Text.pieces (· == '_') s
  if groups.any List.isEmpty then none else some groups.flatten

/-- The number of digits with no zero in front and, where it is negative, a minus. -/
def plainInteger? (s : List Char) : Option Int :=
  let ds := match s with
    | '-' :: ds => ds
    | ds => ds
  if !ds.isEmpty && ds.all Text.isAsciiDigit && (ds.head? != some '0' || ds.length == 1) then
    let n : Int := Text.digitsValue ds
    some (if s.head? = some '-' then -n else n)
  else none

/-- The part of a number before its point. After a point there are zeros and nothing else. -/
def beforePoint? (s : List Char) : Option (List Char) :=
  match s.dropWhile (· != '.') with
  | [] => some s
  | _ :: fraction =>
    if !fraction.isEmpty && fraction.all (· == '0') then some (s.takeWhile (· != '.')) else none

/-- The whole number that a text spells: a sign, digits, and zeros after a point. Zeros may
stand in front, and low lines between digits. -/
def wholeNumber? (s : List Char) : Option Int :=
  let body := match Text.trimPadding s with
    | '+' :: '-' :: _ => []
    | '+' :: rest => rest
    | rest => rest
  (beforePoint? body).bind fun whole =>
    (significant? whole).bind fun significant =>
      (dropGrouping? significant).bind plainInteger?

/-- A whole number. A floating point number must lie within 64 bits, the least number of
them left out. -/
def integer? : Value → Option Int
  | .int n => some n
  | .bool b => some (if b then 1 else 0)
  | .float x => x.toInt?.filter (fun n => -(2 ^ 63) < n && n < 2 ^ 63)
  | .str s => wholeNumber? s.toList
  | _ => none

/-- A text. -/
def text? : Value → Option String
  | .str s => some s
  | _ => none

/-- An object. -/
def object? : Value → Option (List (Value × Value))
  | .dict entries => some entries
  | _ => none

/-- A value that may be null, read by a reader for values that are not. -/
def orNull {α : Type} (read? : Value → Option α) : Value → Option (Option α)
  | .null => some none
  | v => (read? v).map some

/-- The value under the first of some keys that is there, and the other entries. -/
def take (keys : List String) (entries : List (Value × Value)) :
    Option Value × List (Value × Value) :=
  match keys.find? (fun k => (Value.lookup k entries).isSome) with
  | some k => (Value.lookup k entries, entries.filter (fun e => !Value.isKey k e.1))
  | none => (none, entries)

/-- A field that must be there. -/
def required {α : Type} (read? : Value → Option α) (v : Option Value) : Option α :=
  v.bind read?

/-- A field that may be absent or null. -/
def optional {α : Type} (read? : Value → Option α) (v : Option Value) : Option (Option α) :=
  orNull read? (v.getD .null)

end DataPortal.Record
