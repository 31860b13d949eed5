import DataPortal.FilterText.DateText
import DataPortal.Number.Numeral
/-!
# Literals in filter texts

A literal is null, a truth value, a text between quotes, a number, or a bare word. The
arguments of a method are literals with commas between them.
-/
namespace DataPortal.FilterText

/-- The text in which each pair of `a` and `b`, taken from the left without overlap, is
replaced by one character. -/
def replacePair (a b by_ : Char) : List Char → List Char
  | [] => []
  | [c] => [c]
  | c :: d :: rest =>
    if c = a ∧ d = b then by_ :: replacePair a b by_ rest
    else c :: replacePair a b by_ (d :: rest)

/-- The text that stands between quotes: a backslash before the quote or before another
backslash is dropped. -/
def unquote (mark : Char) (s : List Char) : List Char :=
  replacePair '\\' '\\' '\\' (replacePair '\\' mark mark s)

/-- What stands between two equal quotes that enclose a text. -/
def between? (mark : Char) (s : List Char) : Option (List Char) :=
  match s with
  | c :: rest =>
    if c = mark ∧ rest.getLast? = some mark then some rest.dropLast else none
  | [] => none

/-- A text between quotes, unquoted; what looks like a date must be one. -/
def quotedText (mark : Char) (inner : List Char) : Except Failure Value := do
  let s := unquote mark inner
  checkDate s
  return .str (String.ofList s)

/-- The value of a numeral. An integer may have only so many digits. -/
def numberOf (n : Numeral) : Except Failure Value :=
  if n.isTooLong then .error .badValue
  else .ok (if n.isWhole then .int n.toInt else .float n.toBinary64)

/-- A text that stands without quotes: a number, or a bare word. -/
def bareText (s : List Char) : Except Failure Value :=
  match Numeral.read? s with
  | some n => numberOf n
  | none =>
    if isAmbiguousDate s then .error (ambiguousDate s)
    else .ok (.str (String.ofList s))

/-- Reads a literal without white space around it. -/
def parseTrimmed (s : List Char) : Except Failure Value :=
  if s = "null".toList then .ok .null
  else if s = "true".toList then .ok (.bool true)
  else if s = "false".toList then .ok (.bool false)
  else
    match between? '"' s, between? '\'' s with
    | some inner, _ => quotedText '"' inner
    | none, some inner => quotedText '\'' inner
    | none, none => bareText s

/-- Reads a literal. -/
def parseValue (s : List Char) : Except Failure Value :=
  parseTrimmed (Text.strip s)

/-! ## Lists of literals -/

/-- Where a walk over an argument text stands: inside which quotes, if any, and whether
just after a backslash. -/
structure Quoting where
  inside : Option Char
  escaped : Bool
  deriving DecidableEq, Repr

namespace Quoting

/-- Outside of quotes. -/
def outside : Quoting :=
  ⟨none, false⟩

/-- The walk goes past one character. -/
def next (q : Quoting) (c : Char) : Quoting :=
  if q.escaped then ⟨q.inside, false⟩
  else if c = '\\' then ⟨q.inside, true⟩
  else if c = '"' ∨ c = '\'' then
    match q.inside with
    | none => ⟨some c, false⟩
    | some mark => if c = mark then outside else q
  else q

/-- A comma that ends an argument: one outside of quotes that is not escaped. -/
def splitsAt (q : Quoting) (c : Char) : Bool :=
  c == ',' && q.inside.isNone && !q.escaped

end Quoting

/-- Puts a character in front of the first of several texts. -/
def consFirst (c : Char) : List (List Char) → List (List Char)
  | [] => [[c]]
  | s :: rest => (c :: s) :: rest

/-- The arguments of an argument text, each with its quotes and escapes; the last one is
what follows the last comma. -/
def splitArguments : Quoting → List Char → List (List Char)
  | _, [] => [[]]
  | q, c :: rest =>
    if q.splitsAt c then [] :: splitArguments (q.next c) rest
    else consFirst c (splitArguments (q.next c) rest)

/-- Reads the arguments in their order. A blank last argument does not count. -/
def parseArguments : List (List Char) → Except Failure (List Value)
  | [] => .ok []
  | [last] =>
    if (Text.strip last).isEmpty then .ok []
    else do
      let v ← parseValue last
      return [v]
  | s :: rest => do
    let v ← parseValue s
    let vs ← parseArguments rest
    return v :: vs

/-- Reads a list of literals. -/
def parseValueList (s : List Char) : Except Failure (List Value) :=
  parseArguments (splitArguments .outside s)

end DataPortal.FilterText
