import DataPortal.Number.Binary64
import DataPortal.Number.Decimal
import DataPortal.Text.Blank
import DataPortal.Text.Digit
/-!
# Numerals

A numeral is a sign, whole digits, a point with fractional digits, and an exponent
of ten; digits of any script count. The readers here agree on that grammar and
differ in what else they admit: space around it, `_` between digits, and the words
for infinity and NaN.
-/
namespace DataPortal

/-- A numeral as written. -/
structure Numeral where
  negative : Bool
  whole : List Char
  /-- The digits after the point, if there is a point. -/
  fraction : Option (List Char)
  /-- The sign and the digits of the exponent, if there is one. -/
  exponent : Option (Bool × List Char)

namespace Numeral

/-- Takes an optional sign from the front of a text; the answer says whether it is a minus. -/
def takeSign : List Char → Bool × List Char
  | '-' :: rest => (true, rest)
  | '+' :: rest => (false, rest)
  | s => (false, s)

/-- Reads an exponent at the end of a numeral: `e` or `E`, an optional sign and digits. -/
def readExponent? : List Char → Option (Option (Bool × List Char))
  | [] => some none
  | c :: rest =>
    if c = 'e' ∨ c = 'E' then
      let (negative, ds) := takeSign rest
      if !ds.isEmpty && ds.all Text.isDigit then some (some (negative, ds)) else none
    else none

/-- Reads a whole text as a numeral. There is a digit before or after the point. -/
def read? (s : List Char) : Option Numeral :=
  let (negative, s) := takeSign s
  let whole := s.takeWhile Text.isDigit
  match s.dropWhile Text.isDigit with
  | '.' :: rest =>
    let fraction := rest.takeWhile Text.isDigit
    if whole.isEmpty && fraction.isEmpty then none
    else
      (readExponent? (rest.dropWhile Text.isDigit)).map
        (fun exponent => ⟨negative, whole, some fraction, exponent⟩)
  | rest =>
    if whole.isEmpty then none
    else (readExponent? rest).map (fun exponent => ⟨negative, whole, none, exponent⟩)

/-- A numeral of digits alone. -/
def isWhole (n : Numeral) : Bool :=
  n.fraction.isNone && n.exponent.isNone

/-- A numeral of digits alone, too many of them to be read as an integer. -/
def isTooLong (n : Numeral) : Bool :=
  n.isWhole && decide (Text.maxDigits < n.whole.length)

/-- The exponent of ten of the last digit. -/
def lastPlace (n : Numeral) : Int :=
  let places := ((n.fraction.getD []).length : Int)
  match n.exponent with
  | some (true, ds) => -(Text.digitsValue ds : Int) - places
  | some (false, ds) => (Text.digitsValue ds : Int) - places
  | none => -places

/-- All digits of the numeral as one number. -/
def coefficient (n : Numeral) : Nat :=
  Text.digitsValue (n.whole ++ n.fraction.getD [])

/-- The integer of the whole digits. -/
def toInt (n : Numeral) : Int :=
  if n.negative then -(Text.digitsValue n.whole : Int) else Text.digitsValue n.whole

/-- The nearest binary64 number. -/
def toBinary64 (n : Numeral) : Binary64 :=
  Binary64.ofDecimal n.negative n.coefficient n.lastPlace

/-- The decimal number as written. -/
def toDecimal (n : Numeral) : Decimal :=
  .finite n.negative n.coefficient n.lastPlace

/-- A text without the `_` signs that stand between two digits; one that stands
elsewhere makes the text no numeral. The flag says whether a digit came just before. -/
def dropUnderscores? : Bool → List Char → Option (List Char)
  | _, [] => some []
  | afterDigit, '_' :: rest =>
    match rest with
    | c :: _ => if afterDigit && Text.isDigit c then dropUnderscores? false rest else none
    | [] => none
  | _, c :: rest => (dropUnderscores? (Text.isDigit c) rest).map (c :: ·)

/-- The value of a digit in a base: a decimal digit of any script, or an ASCII letter for the
values from ten on. -/
def digitIn? (base : Nat) (c : Char) : Option Nat :=
  let value? := match Text.digitValue? c with
    | some d => some d
    | none =>
      if 'a' ≤ c ∧ c ≤ 'z' then some (c.toNat - 87)
      else if 'A' ≤ c ∧ c ≤ 'Z' then some (c.toNat - 55)
      else none
  value?.filter (· < base)

/-- The letter that may stand after a zero to tell the base. -/
def baseLetter? (base : Nat) : Option Char :=
  [(2, 'b'), (8, 'o'), (16, 'x')].lookup base

/-- A text without the zero and the letter at its start that tell its base. -/
def dropBase (base : Nat) (s : List Char) : List Char :=
  match s with
  | zero :: letter :: rest =>
    if Text.digitValue? zero = some 0 ∧ (baseLetter? base).any (fun l => letter = l ∨ letter = l.toUpper)
    then rest else s
  | s => s

/-- More digits than an integer is read from. The bases with a letter are powers of two, in which
integers of any length are read. -/
def tooManyDigits (base : Nat) (ds : List Nat) : Bool :=
  (baseLetter? base).isNone && decide (Text.maxDigits < ds.length)

/-- The whole number that a text spells in a base: maybe padding, a sign, the sign of the base,
and digits. -/
def wholeIn? (base : Nat) (s : List Char) : Option Int :=
  let (negative, s) := takeSign (Text.trimPadding s)
  match (dropBase base s).mapM (digitIn? base) with
  | some (d :: ds) =>
    if tooManyDigits base (d :: ds) then none
    else
      let n : Nat := (d :: ds).foldl (fun n d => base * n + d) 0
      some (if negative then -(n : Int) else n)
  | _ => none

/-- An ASCII letter in lower case. -/
def lowerAscii (c : Char) : Char :=
  if 'A' ≤ c ∧ c ≤ 'Z' then Char.ofNat (c.toNat + 32) else c

end Numeral

/-- Reads a floating point number from a text with padding around it. -/
def Binary64.ofText? (s : List Char) : Option Binary64 :=
  let s := Text.trimPadding s
  let (negative, body) := Numeral.takeSign s
  let word := body.map Numeral.lowerAscii
  if word = "inf".toList ∨ word = "infinity".toList then some (.infinite negative)
  else if word = "nan".toList then some .nan
  else ((Numeral.dropUnderscores? false s).bind Numeral.read?).map Numeral.toBinary64

/-- Reads a decimal number from a text with white space around it. -/
def Decimal.ofText? (s : List Char) : Option Decimal :=
  let s := (Text.strip s).filter (· != '_')
  let (negative, body) := Numeral.takeSign s
  let word := body.map Numeral.lowerAscii
  if word = "inf".toList ∨ word = "infinity".toList then some (.infinite negative)
  else if word.take 3 = "nan".toList ∧ (word.drop 3).all Text.isDigit then
    some (.nan negative false (Text.digitsValue (word.drop 3)))
  else if word.take 4 = "snan".toList ∧ (word.drop 4).all Text.isDigit then
    some (.nan negative true (Text.digitsValue (word.drop 4)))
  else (Numeral.read? s).map Numeral.toDecimal

end DataPortal
