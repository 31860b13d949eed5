import DataPortal.Number.Rounding
/-!
# Binary floating point of 64 bits

A finite number is held as its sign, its biased exponent and its fraction, so that
each number has one form. Every operation is exact arithmetic on rationals
followed by one rounding, `Binary64.ofRat`, to the nearest number, a tie going to
the even significand.
-/
namespace DataPortal

/-- A binary64 number. A field of zero is a zero or a subnormal number. -/
inductive Binary64 where
  | finite (negative : Bool) (field : Fin 2047) (fraction : Fin (2 ^ 52))
  | infinite (negative : Bool)
  | nan
  deriving DecidableEq, Repr

namespace Binary64

/-- A power of a number with any integer exponent. -/
def powerOf (base : Nat) (e : Int) : Rat :=
  if 0 ≤ e then ((base ^ e.toNat : Nat) : Rat) else mkRat 1 (base ^ (-e).toNat)

/-- The integer significand of a finite number: the fraction with the leading bit
that a normal number leaves out. -/
def significand (field : Fin 2047) (fraction : Fin (2 ^ 52)) : Nat :=
  if field.val = 0 then fraction.val else 2 ^ 52 + fraction.val

/-- The exponent of two of the last place of the significand. -/
def lastPlace (field : Fin 2047) : Int :=
  if field.val = 0 then -1074 else (field.val : Int) - 1075

/-- The size of a finite number. -/
def magnitude (field : Fin 2047) (fraction : Fin (2 ^ 52)) : Rat :=
  (significand field fraction : Rat) * powerOf 2 (lastPlace field)

/-- The exact value of a finite number; both zeros have the value zero. -/
def value? : Binary64 → Option Rat
  | .finite true field fraction => some (-magnitude field fraction)
  | .finite false field fraction => some (magnitude field fraction)
  | _ => none

/-- The zero of a sign. -/
def zero (negative : Bool) : Binary64 :=
  .finite negative 0 0

/-! ## Rounding -/

/-- The numerator and the denominator of `num / den` in units of `2 ^ e`. -/
def inUnits (num den : Nat) (e : Int) : Nat × Nat :=
  if 0 ≤ e then (num, den * 2 ^ e.toNat) else (num * 2 ^ (-e).toNat, den)

/-- The greatest exponent of two that does not exceed a positive quotient. -/
def floorLog2 (num den : Nat) : Int :=
  let guess := (num.log2 : Int) - den.log2
  let scaled := inUnits num den guess
  if scaled.2 ≤ scaled.1 then guess else guess - 1

/-- The number of a significand of at most `2 ^ 53` and the exponent of its last
place; a number beyond the range is infinite. -/
def ofSignificand (negative : Bool) (m : Nat) (e : Int) : Binary64 :=
  if m < 2 ^ 52 then .finite negative 0 (Fin.ofNat _ m)
  else
    let (m, e) := if m < 2 ^ 53 then (m, e) else (m / 2, e + 1)
    if e ≤ 971 then .finite negative (Fin.ofNat _ (e + 1075).toNat) (Fin.ofNat _ (m - 2 ^ 52))
    else .infinite negative

/-- The nearest number to a positive quotient. -/
def ofQuotient (negative : Bool) (num den : Nat) : Binary64 :=
  if num = 0 then zero negative
  else
    let e := max (floorLog2 num den - 52) (-1074)
    let scaled := inUnits num den e
    ofSignificand negative (roundHalfEven scaled.1 scaled.2) e

/-- The nearest number to a rational, with a given sign where the rational is zero. -/
def ofRat (q : Rat) (negativeZero : Bool := false) : Binary64 :=
  if q.num = 0 then zero negativeZero else ofQuotient (decide (q.num < 0)) q.num.natAbs q.den

/-- The nearest number to an integer. -/
def ofInt (n : Int) : Binary64 :=
  ofQuotient (decide (n < 0)) n.natAbs 1

/-- The nearest number to `coefficient * 10 ^ exponent`. A magnitude far outside the
range is settled without computing the power. -/
def ofDecimal (negative : Bool) (coefficient : Nat) (exponent : Int) : Binary64 :=
  let places := (digitCount coefficient : Int) + exponent
  if coefficient = 0 ∨ places < -400 then zero negative
  else if 400 < places then .infinite negative
  else if 0 ≤ exponent then ofQuotient negative (coefficient * 10 ^ exponent.toNat) 1
  else ofQuotient negative coefficient (10 ^ (-exponent).toNat)

/-! ## Arithmetic -/

/-- The sign of a number; a NaN counts as positive. -/
def isNegative : Binary64 → Bool
  | .finite negative _ _ => negative
  | .infinite negative => negative
  | .nan => false

/-- The number of the opposite sign. -/
def neg : Binary64 → Binary64
  | .finite negative field fraction => .finite (!negative) field fraction
  | .infinite negative => .infinite (!negative)
  | .nan => .nan

/-- The sum. A sum of zero is negative only when both terms are. -/
def add (x y : Binary64) : Binary64 :=
  match x, y with
  | .nan, _ | _, .nan => .nan
  | .infinite a, .infinite b => if a = b then .infinite a else .nan
  | .infinite a, _ | _, .infinite a => .infinite a
  | .finite a _ _, .finite b _ _ =>
    ofRat (x.value?.getD 0 + y.value?.getD 0) (a && b)

/-- The difference. -/
def sub (x y : Binary64) : Binary64 :=
  x.add y.neg

/-- The product. -/
def mul (x y : Binary64) : Binary64 :=
  let negative := x.isNegative != y.isNegative
  match x, y with
  | .nan, _ | _, .nan => .nan
  | .finite .., .finite .. => ofRat (x.value?.getD 0 * y.value?.getD 0) negative
  | .infinite _, y => if y.value? = some 0 then .nan else .infinite negative
  | x, .infinite _ => if x.value? = some 0 then .nan else .infinite negative

/-- The quotient by a positive integer. -/
def divNat (x : Binary64) (n : Nat) : Binary64 :=
  match x.value? with
  | some q => ofRat (q / n) x.isNegative
  | none => x

/-- Strictly less; a NaN is less than nothing and nothing is less than it. -/
def less (x y : Binary64) : Bool :=
  match x, y with
  | .nan, _ | _, .nan => false
  | .infinite a, .infinite b => a && !b
  | .infinite a, _ => a
  | _, .infinite b => !b
  | x, y => decide (x.value?.getD 0 < y.value?.getD 0)

/-- Equal as numbers: the zeros are equal and a NaN equals nothing. -/
def equal (x y : Binary64) : Bool :=
  match x, y with
  | .nan, _ | _, .nan => false
  | .infinite a, .infinite b => a == b
  | .infinite _, _ | _, .infinite _ => false
  | x, y => x.value? == y.value?

instance : OfNat Binary64 0 := ⟨zero false⟩
instance : Add Binary64 := ⟨add⟩
instance : Sub Binary64 := ⟨sub⟩
instance : Mul Binary64 := ⟨mul⟩
instance : Neg Binary64 := ⟨neg⟩
instance : LT Binary64 := ⟨fun x y => less x y = true⟩
instance : DecidableLT Binary64 := fun x y => inferInstanceAs (Decidable (less x y = true))

/-! ## Integers -/

/-- The integer that a number is, if it is one. -/
def toInt? (x : Binary64) : Option Int :=
  x.value?.bind (fun q => if q.den = 1 then some q.num else none)

/-- A number without a fractional part. -/
def isIntegral (x : Binary64) : Bool :=
  x.toInt?.isSome

end Binary64
end DataPortal
