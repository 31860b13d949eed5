import DataPortal.Number.Numeral
import DataPortal.Text.Base64
import DataPortal.Value.Quantity
import DataPortal.Yaml.Tag
/-!
# Values of scalars

What a scalar of a tag denotes. A tag that was written out may not fit its scalar.
-/
namespace DataPortal.Yaml

/-- The truth value of a word in any case. -/
def truthValue (s : List Char) : Except Failure Bool :=
  let word := String.ofList (s.map Numeral.lowerAscii)
  if ["yes", "true", "on"].contains word then .ok true
  else if ["no", "false", "off"].contains word then .ok false
  else .error .noSuchKey

/-- A text without low lines, split into whether it begins with a minus and what follows the
sign. An empty text has no first character. -/
def signAndRest (s : List Char) : Except Failure (Bool × List Char) :=
  match s.filter (· != '_') with
  | [] => .error .outOfRange
  | s => .ok (Numeral.takeSign s)

/-- The whole number that a text spells in a base. -/
def wholeIn (base : Nat) (s : List Char) : Except Failure Int :=
  match Numeral.wholeIn? base s with
  | some n => .ok n
  | none => .error .badValue

/-- A number of places in base sixty. -/
def sixtiethsIn (s : List Char) : Except Failure Int := do
  let places ← (Text.pieces (· == ':') s).mapM (wholeIn 10)
  return places.foldl (fun n place => 60 * n + place) 0

/-- A whole number after its sign. -/
def wholeSize (s : List Char) : Except Failure Int :=
  match s with
  | [] => .error .outOfRange
  | ['0'] => .ok 0
  | '0' :: 'b' :: ds => wholeIn 2 ds
  | '0' :: 'x' :: ds => wholeIn 16 ds
  | '0' :: ds => wholeIn 8 ('0' :: ds)
  | s => if s.contains ':' then sixtiethsIn s else wholeIn 10 s

/-- A whole number. -/
def wholeValue (s : List Char) : Except Failure Int := do
  let (negative, rest) ← signAndRest s
  let n ← wholeSize rest
  return if negative then -n else n

/-- A number as floating point. -/
def pointIn (s : List Char) : Except Failure Binary64 :=
  match Binary64.ofText? s with
  | some x => .ok x
  | none => .error .badValue

/-- The sum of places in base sixty, the least place first, where the next place counts
`unit`. -/
def sumSixtieths : Int → Binary64 → List Binary64 → Except Failure Binary64
  | _, sum, [] => .ok sum
  | unit, sum, place :: rest =>
    match Quantity.wholeToBinary? unit with
    | some size => sumSixtieths (60 * unit) (sum + place * size) rest
    | none => .error .overflow

/-- A number with a point after its sign. -/
def pointSize (s : List Char) : Except Failure Binary64 :=
  let word := String.ofList s
  if word = ".inf" then .ok (.infinite false)
  else if word = ".nan" then .ok .nan
  else if s.contains ':' then do
    let places ← (Text.pieces (· == ':') s).mapM pointIn
    sumSixtieths 1 0 places.reverse
  else pointIn s

/-- The word for NaN, in any case and with any sign. -/
def isNanWord (s : List Char) : Bool :=
  match signAndRest (s.map Numeral.lowerAscii) with
  | .ok (_, rest) => String.ofList rest = ".nan"
  | .error _ => false

/-- A number with a point. -/
def pointValue (s : List Char) : Except Failure Binary64 := do
  let (negative, rest) ← signAndRest (s.map Numeral.lowerAscii)
  let x ← pointSize rest
  return if negative then -x else x

/-- A date or a point in time. The end of its line does not count. -/
def timestampValue (s : List Char) : Except Failure Value :=
  match Timestamp.parts? (dropLineEnd s) with
  | some t => t.value
  | none => .error .noSuchMember

/-- Bytes in sixty-four characters. -/
def bytesValue (s : List Char) : Except Failure Value :=
  match Text.Base64.decode? s with
  | some bytes => .ok (.bytes bytes)
  | none => .error .notYaml

/-- The value of a scalar of a tag. The signs of the language itself have none. -/
def scalarValue (tag : Tag) (s : List Char) : Except Failure Value :=
  match tag with
  | .null => .ok .null
  | .truth => (truthValue s).map .bool
  | .whole => (wholeValue s).map .int
  | .point => (pointValue s).map .float
  | .timestamp => timestampValue s
  | .text => .ok (.str (String.ofList s))
  | .bytes => bytesValue s
  | .list | .object | .pairs | .keys | .merge | .default | .unknown => .error .notYaml

end DataPortal.Yaml
