import DataPortal.Failure.Basic
import DataPortal.Json.Printer
import DataPortal.Number.Shortest
import DataPortal.Text.Percent
/-!
# Tokens of a query

The form in which a value stands in a query. Numbers, null and the truth values stand
as they are; every other value is a text between double quotes or a JSON text, and is
percent-encoded so that nothing in it can be taken for structure.
-/
namespace DataPortal.Query

/-- A text between double quotes. -/
def quoted (s : List Char) : List Char :=
  '"' :: s ++ ['"']

/-- The token of a value that has no form in a query. -/
def unknownToken : List Char :=
  Text.Percent.encode (quoted "unknown".toList)

/-- A text with a backslash before every double quote. -/
def escapeQuotes (s : List Char) : List Char :=
  s.flatMap (fun c => if c = '"' then ['\\', '"'] else [c])

/-- The token of a text. -/
def textToken (s : List Char) : List Char :=
  Text.Percent.encode (quoted (escapeQuotes s))

/-- The token of a floating point number: plain decimal notation of its shortest digits,
or of its exact value where it is integral. -/
def floatToken (x : Binary64) : List Char :=
  match x with
  | .finite negative field fraction =>
    match x.toInt? with
    | some n => Value.intText n
    | none =>
      let (c, e) := Binary64.shortest field fraction
      Decimal.plain negative c e
  | _ => unknownToken

/-- The token of a decimal number, in plain decimal notation. -/
def decimalToken : Decimal → List Char
  | .finite negative c e => Decimal.plain negative c e
  | _ => unknownToken

/-- A point in time on the clock of UTC to the millisecond. -/
def instantText (t : DateTime) : List Char :=
  Text.digits t.date.year ++ '-' :: Text.paddedDigits 2 t.date.month ++
    '-' :: Text.paddedDigits 2 t.date.day ++
    'T' :: Text.paddedDigits 2 t.time.hour ++ ':' :: Text.paddedDigits 2 t.time.minute ++
    ':' :: Text.paddedDigits 2 t.time.second ++
    '.' :: Text.paddedDigits 3 (t.time.microsecond / 1000) ++ ['Z']

/-- The token of a point in time. Its instant must lie in the years 1 to 9999 of UTC. -/
def dateTimeToken (t : DateTime) : Except Failure (List Char) :=
  match t.toUtc? with
  | some utc => .ok (Text.Percent.encode (quoted (instantText utc)))
  | none => .error .overflow

/-- The token of an integer, which may have only so many digits. -/
def intToken (n : Int) : Except Failure (List Char) :=
  match Value.intText? n with
  | some s => .ok s
  | none => .error .badValue

/-- The token of a list or an object: its JSON text, if it has one. No text with a surrogate can
be encoded. -/
def jsonToken (v : Value) : Except Failure (List Char) :=
  match Json.write? v with
  | some s => if v.isEncodable then .ok (Text.Percent.encode s) else .error .notEncodable
  | none => .ok unknownToken

/-- The token of a value. -/
def token : Value → Except Failure (List Char)
  | .null => .ok "null".toList
  | .bool true => .ok "true".toList
  | .bool false => .ok "false".toList
  | .int n => intToken n
  | .float x => .ok (floatToken x)
  | .decimal d => .ok (decimalToken d)
  | .str s => .ok (textToken s.toList)
  | .broken _ => .error .notEncodable
  | .date d => .ok (Text.Percent.encode (quoted d.text))
  | .datetime t => dateTimeToken t
  | .list items => jsonToken (.list items)
  | .tuple items => jsonToken (.tuple items)
  | .dict entries => jsonToken (.dict entries)
  | .bytes _ | .set _ | .unknown => .ok unknownToken

/-- The tokens of several values. -/
def tokens : List Value → Except Failure (List (List Char))
  | [] => .ok []
  | v :: rest => do
    let t ← token v
    let ts ← tokens rest
    return t :: ts

end DataPortal.Query
