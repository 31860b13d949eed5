import DataPortal.Failure.Basic
import DataPortal.Number.Numeral
import DataPortal.Text.Percent
import DataPortal.Value.Basic
/-!
# Tokens of JSON text

A JSON text is cut into marks, texts between quotes, and atoms: the runs of letters,
digits, signs and points that stand for numbers and words. The cutting is one pass over
the code points; an atom is read only once its end is known. Where it cannot go on it ends in a
fault, so that what stands before is read all the same.
-/
namespace DataPortal.Json

/-- A token: a mark, a value that holds no other, or a place that cannot be read. -/
inductive Token where
  | openList
  | closeList
  | openObject
  | closeObject
  | comma
  | colon
  | scalar (v : Value)
  | fault (f : Failure)

/-- A character of an atom. -/
def isAtomChar (c : Char) : Bool :=
  c.isAlphanum || c == '+' || c == '-' || c == '.'

/-- The white space between tokens. -/
def isSpace (c : Char) : Bool :=
  c == ' ' || c == '\t' || c == '\n' || c == '\r'

/-- The mark that a character is. -/
def mark? : Char → Option Token
  | '[' => some .openList
  | ']' => some .closeList
  | '\x7b' => some .openObject
  | '\x7d' => some .closeObject
  | ',' => some .comma
  | ':' => some .colon
  | _ => none

/-! ## Atoms -/

/-- Whether a numeral is written as JSON demands: no plus sign in front, ASCII digits on
both sides of a point, and no zero in front of other whole digits. -/
def isJsonNumeral (s : List Char) (n : Numeral) : Bool :=
  s.head? != some '+' &&
    s.all (fun c => c.toNat < 128) &&
    !n.whole.isEmpty && (n.whole.head? != some '0' || n.whole.length == 1) &&
    n.fraction != some []

/-- The value of an atom. A numeral of digits alone is an integer, any other a float. -/
def atomValue? (s : List Char) : Option Value :=
  if s = "null".toList then some .null
  else if s = "true".toList then some (.bool true)
  else if s = "false".toList then some (.bool false)
  else if s = "NaN".toList then some (.float .nan)
  else if s = "Infinity".toList then some (.float (.infinite false))
  else if s = "-Infinity".toList then some (.float (.infinite true))
  else
    match Numeral.read? s with
    | some n =>
      if isJsonNumeral s n then
        some (if n.isWhole then .int n.toInt else .float n.toBinary64)
      else none
    | none => none

/-- What makes a float of the digits before it: a point or an exponent, each with a digit. -/
def startsFraction : List Char → Bool
  | '.' :: c :: _ => Text.isAsciiDigit c
  | e :: rest =>
    (e == 'e' || e == 'E') && (Numeral.takeSign rest).2.head?.any Text.isAsciiDigit
  | [] => false

/-- An atom that begins with an integer of too many digits. Such an integer is read, and cannot
be, before what follows it is looked at. -/
def startsLongInteger (s : List Char) : Bool :=
  let ds := match s with
    | '-' :: ds => ds
    | ds => ds
  let whole := ds.takeWhile Text.isAsciiDigit
  decide (Text.maxDigits < whole.length) && whole.head? != some '0' &&
    !startsFraction (ds.drop whole.length)

/-- The token of an atom. -/
def atomToken (s : List Char) : Token :=
  if startsLongInteger s then .fault .badValue
  else
    match atomValue? s with
    | some v => .scalar v
    | none => .fault .notJson

/-! ## Texts -/

/-- What stands for a part of a text between quotes: itself, or an escape by its number. -/
inductive Written where
  | point (p : CodePoint)
  | escape (code : Nat)

/-- The code points of a text. Two escapes for a pair of surrogates stand for one character. -/
def pointsOf : List Written → List CodePoint
  | [] => []
  | .point p :: rest => p :: pointsOf rest
  | [.escape code] => [.ofNat code]
  | .escape code :: .point p :: rest => .ofNat code :: p :: pointsOf rest
  | .escape code :: .escape next :: rest =>
    match CodePoint.joined? code next with
    | some c => c :: pointsOf rest
    | none => .ofNat code :: pointsOf (.escape next :: rest)

/-- The value of what was read between quotes, newest first. -/
def textValue (read : List Written) : Value :=
  .ofPoints (pointsOf read.reverse)

/-- The character that a one-letter escape stands for. -/
def escaped? : Char → Option Char
  | '"' => some '"'
  | '\\' => some '\\'
  | '/' => some '/'
  | 'b' => some '\x08'
  | 'f' => some '\x0c'
  | 'n' => some '\n'
  | 'r' => some '\r'
  | 't' => some '\t'
  | _ => none

/-! ## The pass -/

/-- Where the pass stands. What was read of an unfinished token is held newest first. -/
inductive Place where
  | between
  | atom (read : List Char)
  | text (read : List Written)
  | escape (read : List Written)
  | codePoint (left code : Nat) (read : List Written)

/-- Cuts a text into tokens. Unescaped control characters cannot stand in a text. -/
def tokens : Place → List CodePoint → List Token
  | .between, [] => []
  | .atom read, [] => [atomToken read.reverse]
  | .between, .char c :: rest =>
    if isSpace c then tokens .between rest
    else if c = '"' then tokens (.text []) rest
    else if isAtomChar c then tokens (.atom [c]) rest
    else
      match mark? c with
      | some m => m :: tokens .between rest
      | none => [.fault .notJson]
  | .atom read, .char c :: rest =>
    if isAtomChar c then tokens (.atom (c :: read)) rest
    else if isSpace c then atomToken read.reverse :: tokens .between rest
    else
      match mark? c with
      | some m => atomToken read.reverse :: m :: tokens .between rest
      | none => [atomToken read.reverse, .fault .notJson]
  | .atom read, .surrogate _ :: _ => [atomToken read.reverse, .fault .notJson]
  | .text read, p :: rest =>
    if p = .char '"' then .scalar (textValue read) :: tokens .between rest
    else if p = .char '\\' then tokens (.escape read) rest
    else if p.toNat < 32 then [.fault .notJson]
    else tokens (.text (.point p :: read)) rest
  | .escape read, .char c :: rest =>
    if c = 'u' then tokens (.codePoint 3 0 read) rest
    else
      match escaped? c with
      | some e => tokens (.text (.point (.char e) :: read)) rest
      | none => [.fault .notJson]
  | .codePoint left code read, .char c :: rest =>
    match Text.Percent.hexValue? c with
    | some d =>
      match left with
      | 0 => tokens (.text (.escape (16 * code + d) :: read)) rest
      | left + 1 => tokens (.codePoint left (16 * code + d) read) rest
    | none => [.fault .notJson]
  | _, _ => [.fault .notJson]

end DataPortal.Json
