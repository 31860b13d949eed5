import DataPortal.Number.Binary64
import DataPortal.Number.Decimal
/-!
# Amounts

What numbers of different kinds have in common: a finite amount, which is a whole number times
powers of two and of ten, or an infinity. Amounts are compared exactly, without computing a
power where the order of magnitude decides.
-/
namespace DataPortal

/-- An amount. -/
inductive Amount where
  | finite (negative : Bool) (coefficient : Nat) (twos tens : Int)
  | infinite (negative : Bool)

namespace Amount

/-- The amount of a whole number. -/
def ofInt (n : Int) : Amount :=
  .finite (decide (n < 0)) n.natAbs 0 0

/-- The amount of a floating point number. A NaN has none. -/
def ofBinary64? : Binary64 → Option Amount
  | .finite negative field fraction =>
    some (.finite negative (Binary64.significand field fraction) (Binary64.lastPlace field) 0)
  | .infinite negative => some (.infinite negative)
  | .nan => none

/-- The amount of a decimal number. A NaN has none. -/
def ofDecimal? : Decimal → Option Amount
  | .finite negative c e => some (.finite negative c 0 e)
  | .infinite negative => some (.infinite negative)
  | .nan .. => none

/-- The order of magnitude of a size that is not zero: the exponent of ten, up to two. -/
def magnitude (c : Nat) (twos tens : Int) : Int :=
  digitCount c + tens + twos * 30103 / 100000

/-- Compares two sizes that are not zero. -/
def compareSizes (c : Nat) (twos tens : Int) (d : Nat) (twos' tens' : Int) : Ordering :=
  let m := magnitude c twos tens
  let m' := magnitude d twos' tens'
  if m + 4 < m' then .lt
  else if m' + 4 < m then .gt
  else
    let twosLeast := min twos twos'
    let tensLeast := min tens tens'
    compare (c * 2 ^ (twos - twosLeast).toNat * 10 ^ (tens - tensLeast).toNat)
      (d * 2 ^ (twos' - twosLeast).toNat * 10 ^ (tens' - tensLeast).toNat)

/-- The sign of an amount: -1, 0 or 1. -/
def sign : Amount → Int
  | .finite negative c _ _ => if c = 0 then 0 else if negative then -1 else 1
  | .infinite negative => if negative then -1 else 1

/-- Compares the sizes of two amounts that are not zero. -/
def compareAbs : Amount → Amount → Ordering
  | .finite _ c twos tens, .finite _ d twos' tens' => compareSizes c twos tens d twos' tens'
  | .finite .., .infinite _ => .lt
  | .infinite _, .finite .. => .gt
  | .infinite _, .infinite _ => .eq

/-- The order of two amounts. -/
def order (a b : Amount) : Ordering :=
  if a.sign ≠ b.sign then compare a.sign b.sign
  else if a.sign = 0 then .eq
  else if a.sign = 1 then a.compareAbs b
  else b.compareAbs a

/-- The least count that is not below an amount. What no count below `10 ^ 18` reaches has
none. -/
def countReaching? : Amount → Option Nat
  | .finite true .. => some 0
  | .finite false c twos tens =>
    if c = 0 then some 0
    else if 18 < magnitude c twos tens then none
    else if magnitude c twos tens < -4 then some 1
    else
      let num := c * 2 ^ twos.toNat * 10 ^ tens.toNat
      let den := 2 ^ (-twos).toNat * 10 ^ (-tens).toNat
      some ((num + den - 1) / den)
  | .infinite negative => if negative then some 0 else none

end Amount
end DataPortal
