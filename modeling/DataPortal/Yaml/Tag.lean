import DataPortal.Text.Blank
import DataPortal.Yaml.Timestamp
/-!
# Tags

What a scalar, a list or an object is taken for. A scalar without quotes and without a tag
of its own has one by its form: words for truth values and null, whole numbers in base two,
eight, ten, sixteen and sixty, numbers with a point, dates and points in time, and two signs
of the language itself. Anything else is a text.
-/
namespace DataPortal.Yaml

/-- What a value is taken for. -/
inductive Tag where
  | null
  | truth
  | whole
  | point
  | timestamp
  | text
  /-- Bytes, written in sixty-four characters. -/
  | bytes
  | list
  | object
  /-- A list of objects of one entry each, of which it keeps the keys with their values. -/
  | pairs
  /-- The keys of an object. -/
  | keys
  /-- The key whose value's entries are taken over. -/
  | merge
  /-- The sign of a default value. -/
  | default
  | unknown
  deriving DecidableEq, Repr

/-- The words for the truth values. -/
def truthWords : List String :=
  ["yes", "Yes", "YES", "no", "No", "NO", "true", "True", "TRUE", "false", "False", "FALSE", "on",
   "On", "ON", "off", "Off", "OFF"]

/-- The words for null. -/
def nullWords : List String :=
  ["", "~", "null", "Null", "NULL"]

/-! ## The forms of numbers -/

/-- A text without a sign in front. -/
def unsigned : List Char → List Char
  | '-' :: rest | '+' :: rest => rest
  | s => s

/-- The value of a digit in a base. -/
def digitIn? (base : Nat) (c : Char) : Option Nat :=
  (if '0' ≤ c ∧ c ≤ '9' then some (c.toNat - 48)
    else if 'a' ≤ c ∧ c ≤ 'f' then some (c.toNat - 87)
    else if 'A' ≤ c ∧ c ≤ 'F' then some (c.toNat - 55)
    else none).filter (· < base)

/-- A digit of a base or a low line. -/
def isDigitOrLine (base : Nat) (c : Char) : Bool :=
  c == '_' || (digitIn? base c).isSome

/-- Digits of a base, with low lines among them. -/
def isDigits (base : Nat) (s : List Char) : Bool :=
  !s.isEmpty && s.all (isDigitOrLine base)

/-- A number below sixty of one or two digits. -/
def isSixtieth : List Char → Bool
  | [c] => (digitIn? 10 c).isSome
  | [c, d] => (digitIn? 6 c).isSome && (digitIn? 10 d).isSome
  | _ => false

/-- A whole number in base ten that does not start with zero, maybe followed by places in
base sixty with colons in front. -/
def isDecimalForm (s : List Char) : Bool :=
  match Text.pieces (· == ':') s with
  | (c :: rest) :: places =>
    '1' ≤ c && c ≤ '9' && rest.all (isDigitOrLine 10) && places.all isSixtieth
  | _ => false

/-- The form of a whole number. -/
def isWholeForm (s : List Char) : Bool :=
  match unsigned s with
  | ['0'] => true
  | '0' :: 'b' :: ds => isDigits 2 ds
  | '0' :: 'x' :: ds => isDigits 16 ds
  | '0' :: ds => isDigits 8 ds
  | ds => isDecimalForm ds

/-- An exponent: `e`, a sign that cannot be left out, and digits. -/
def isExponent : List Char → Bool
  | e :: sign :: ds =>
    (e == 'e' || e == 'E') && (sign == '-' || sign == '+') && !ds.isEmpty &&
      ds.all Text.isAsciiDigit
  | _ => false

/-- The form of a number with a point and maybe an exponent: digits before the point, unless
there is no sign and a digit after it. -/
def isPointNumeral (signed : Bool) (s : List Char) : Bool :=
  let whole := s.takeWhile (isDigitOrLine 10)
  match s.dropWhile (isDigitOrLine 10) with
  | '.' :: rest =>
    let fraction := rest.takeWhile (isDigitOrLine 10)
    let after := rest.dropWhile (isDigitOrLine 10)
    (after.isEmpty || isExponent after) &&
      (match whole, fraction with
        | [], c :: _ => !signed && Text.isAsciiDigit c
        | c :: _, _ => Text.isAsciiDigit c
        | [], [] => false)
  | _ => false

/-- The form of a number in base sixty with a point. -/
def isSixtiethNumeral (s : List Char) : Bool :=
  match Text.pieces (· == ':') (s.takeWhile (· != '.')), s.dropWhile (· != '.') with
  | (c :: rest) :: place :: places, _ :: fraction =>
    Text.isAsciiDigit c && rest.all (isDigitOrLine 10) && (place :: places).all isSixtieth &&
      fraction.all (isDigitOrLine 10)
  | _, _ => false

/-- The form of a number with a point, or of one of the words for infinity and NaN. -/
def isPointForm (s : List Char) : Bool :=
  let body := unsigned s
  let signed := body.length != s.length
  [".inf", ".Inf", ".INF"].contains (String.ofList body) ||
    (!signed && [".nan", ".NaN", ".NAN"].contains (String.ofList body)) ||
    isPointNumeral signed body || isSixtiethNumeral body

/-- The signs that stand before nodes cannot be values by themselves. -/
def isReserved (word : String) : Bool :=
  word = "!" || word = "&" || word = "*"

/-- A text without the end of its last line, if that is not all of it. -/
def dropLineEnd (s : List Char) : List Char :=
  if s.length > 1 && s.getLast? == some '\n' then s.dropLast else s

/-- The form of a timestamp. A date alone must be in full. -/
def isTimestampForm (s : List Char) : Bool :=
  (Timestamp.parts? s).any fun t => t.inFull || t.time.isSome

namespace Tag

/-- A tag of values that have others inside. -/
def isCollection : Tag → Bool
  | .list | .object | .pairs | .keys => true
  | _ => false

/-- The tag of a scalar by its form. The end of its last line does not count. -/
def ofForm (s : List Char) : Tag :=
  let s := dropLineEnd s
  let word := String.ofList s
  if truthWords.contains word then .truth
  else if isPointForm s then .point
  else if isWholeForm s then .whole
  else if word = "<<" then .merge
  else if nullWords.contains word then .null
  else if isTimestampForm s then .timestamp
  else if word = "=" then .default
  else if isReserved word then .unknown
  else .text

/-- What the names of all tags of the language begin with. -/
def namePrefix : String := "tag:yaml.org,2002:"

/-- The tags by their names. -/
def names : List (String × Tag) :=
  [("null", .null), ("bool", .truth), ("int", .whole), ("float", .point),
   ("timestamp", .timestamp), ("str", .text), ("binary", .bytes), ("seq", .list),
   ("map", .object), ("omap", .pairs), ("pairs", .pairs), ("set", .keys), ("merge", .merge),
   ("value", .default)]

/-- The tag of a name. -/
def ofName (name : String) : Tag :=
  ((names.find? fun (n, _) => namePrefix ++ n == name).map Prod.snd).getD .unknown

end Tag
end DataPortal.Yaml
