import DataPortal.Number.PowerOfTwo
import DataPortal.Number.Precision
/-!
# Decimal powers of two

A whole power is found by repeated squaring with some digits more than the result has, a
fractional one with many more bits. The power of a number that is not whole has all digits of
a result, even where the last ones are zero.
-/
namespace DataPortal.Decimal

/-- The whole number that a coefficient and an exponent of ten denote, if they do. -/
def whole? (c : Nat) (e : Int) : Option Nat :=
  if 0 ≤ e then some (c * 10 ^ e.toNat)
  else if (digitCount c : Int) < -e then none
  else
    let unit := 10 ^ (-e).toNat
    if c % unit = 0 then some (c / unit) else none

/-- A positive whole power by squaring. -/
def power (digits : Nat) (base : Decimal) : Nat → Nat → Except Fault Decimal
  | 0, _ => .ok base
  | fuel + 1, n =>
    if n ≤ 1 then .ok base
    else do
      let half ← power digits base fuel (n / 2)
      let square ← mul digits half half
      if n % 2 = 1 then mul digits square base else return square

/-- Two to a whole power that is not zero. -/
def wholePower (negative : Bool) (n : Nat) : Except Fault Decimal := do
  let digits := precision + digitCount n + 2
  let result ←
    if negative then power (digits + 1) (.finite false 5 (-1)) (n.log2 + 1) n
    else power digits (.finite false 2 0) (n.log2 + 1) n
  match result with
  | .finite negative c e => fit precision negative c e
  | x => return x

/-- The quotient, to more digits than a result has. -/
def quotient (num den : Nat) : Except Fault Decimal :=
  let places : Int := 2 * precision + digitCount den - digitCount num
  if 0 ≤ places then fit precision false (num * 10 ^ places.toNat / den) (-places)
  else fit precision false (num / (den * 10 ^ (-places).toNat)) (-places)

/-- Two to a rational power of moderate size. -/
def rationalPower (q : Rat) : Except Fault Decimal :=
  let product := Binary64.fractionalPower (q - (q.floor : Rat))
  let shift := q.floor - Binary64.guardBits
  if 0 ≤ shift then quotient (product * 2 ^ shift.toNat) 1
  else quotient product (2 ^ (-shift).toNat)

/-- Two to the power of a number. -/
def twoToThe (x : Decimal) : Except Fault Decimal :=
  unlessNan precision x x <|
    match x with
    | .finite negative c e =>
      let lead := (digitCount c : Int) - 1 + e
      if c = 0 then .ok (.finite false 1 0)
      else if 8 ≤ lead then
        if negative then fit precision false 1 (leastPlace precision - 2) else .error .overflow
      else if lead < -60 then .ok (.finite false (10 ^ (precision - 1)) (1 - precision))
      else
        match whole? c e with
        | some n => wholePower negative n
        | none =>
          let size := mkRat c (10 ^ (-e).toNat)
          rationalPower (if negative then -size else size)
    | .infinite negative => .ok (if negative then .finite false 0 0 else .infinite false)
    | x => .ok x

end DataPortal.Decimal
