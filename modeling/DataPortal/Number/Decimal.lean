import DataPortal.Text.Digit
/-!
# Decimal numbers

A decimal number keeps its sign, its coefficient and its exponent of ten as they
were given, so `1.0`, `1` and `10E-1` are three forms of one value.
-/
namespace DataPortal

/-- A decimal number, an infinity, or a quiet or signaling NaN. A NaN carries a number that
tells where it came from; zero tells nothing. -/
inductive Decimal where
  | finite (negative : Bool) (coefficient : Nat) (exponent : Int)
  | infinite (negative : Bool)
  | nan (negative : Bool) (signaling : Bool) (payload : Nat)
  deriving DecidableEq, Repr

namespace Decimal

/-- A zero of any form. -/
def isZero : Decimal → Bool
  | .finite _ c _ => c == 0
  | _ => false

/-- The sign of a number. -/
def isNegative : Decimal → Bool
  | .finite negative _ _ | .infinite negative | .nan negative _ _ => negative

/-- The whole and the fractional digits of `c * 10 ^ e` in positional form. -/
def positional (c : Nat) (e : Int) : List Char × List Char :=
  if 0 ≤ e then (Text.digits (c * 10 ^ e.toNat), [])
  else
    let places := (-e).toNat
    let padded := Text.paddedDigits (places + 1) c
    (padded.take (padded.length - places), padded.drop (padded.length - places))

/-- The fractional digits without the zeros at the end. -/
def trimZeros (fraction : List Char) : List Char :=
  (fraction.reverse.dropWhile (· == '0')).reverse

/-- A finite number in plain notation: no exponent, no trailing zeros after the
point, no bare point. The sign of a zero is kept. -/
def plain (negative : Bool) (c : Nat) (e : Int) : List Char :=
  let (whole, fraction) := positional c e
  let fraction := trimZeros fraction
  (if negative then ['-'] else []) ++ whole ++
    (if fraction.isEmpty then [] else '.' :: fraction)

/-- A number in scientific notation where the exponent is positive or the number
very small, and in positional notation, with all digits kept, elsewhere. -/
def text : Decimal → List Char
  | .finite negative c e =>
    let sign := if negative then ['-'] else []
    let ds := Text.digits c
    let lead := (ds.length : Int) - 1 + e
    if e ≤ 0 ∧ -6 ≤ lead then
      let (whole, fraction) := positional c e
      sign ++ whole ++ (if fraction.isEmpty then [] else '.' :: fraction)
    else
      let mantissa := match ds with
        | d :: d' :: rest => d :: '.' :: d' :: rest
        | short => short
      let mark := if lead < 0 then '-' else '+'
      sign ++ mantissa ++
        (if lead = 0 then [] else 'E' :: mark :: Text.digits lead.natAbs)
  | .infinite negative => (if negative then "-" else "").toList ++ "Infinity".toList
  | .nan negative signaling payload =>
    (if negative then "-" else "").toList ++ (if signaling then "sNaN" else "NaN").toList ++
      (if payload = 0 then [] else Text.digits payload)

end Decimal
end DataPortal
