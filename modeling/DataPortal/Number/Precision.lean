import DataPortal.Number.Decimal
import DataPortal.Number.Rounding
/-!
# Decimal arithmetic

A result is the exact one, rounded to a number of digits, a half to the even one. It keeps its
exponent where it can. Results have 28 digits at most; where they are steps to others they
have some more. There is a greatest exponent of the first digit, beyond which there is no
result, and a least exponent of the last digit, at which small results are rounded.
-/
namespace DataPortal.Decimal

/-- Why an operation has no result. -/
inductive Fault where
  /-- An operand is a signaling NaN, or no number could be the result. -/
  | undefined
  /-- The result is too great. -/
  | overflow
  deriving DecidableEq, Repr

/-- The digits of results. -/
def precision : Nat := 28

/-- The greatest exponent of the first digit of a result. -/
def greatestLead : Int := 999999

/-- The least exponent of the last digit of a result of some digits. -/
def leastPlace (digits : Nat) : Int := -999998 - digits

/-- A number without some of its last places, rounded. -/
def dropPlaces (c places : Nat) : Nat :=
  if digitCount c < places then 0 else roundHalfEven c (10 ^ places)

/-- A finite number as a result of some digits. -/
def fit (digits : Nat) (negative : Bool) (c : Nat) (e : Int) : Except Fault Decimal :=
  let least := leastPlace digits
  if c = 0 then .ok (.finite negative 0 (max least (min e greatestLead)))
  else
    let places := (max ((digitCount c : Int) - digits) (least - e)).toNat
    let rounded := dropPlaces c places
    let (c, e) :=
      if digits < digitCount rounded then (rounded / 10, e + places + 1)
      else (rounded, e + places)
    if greatestLead < (digitCount c : Int) - 1 + e then .error .overflow
    else .ok (.finite negative c e)

/-- A NaN as a result of some digits, which its number is cut to. -/
def quiet (digits : Nat) (negative : Bool) (payload : Nat) : Decimal :=
  .nan negative false (payload % 10 ^ digits)

/-- A NaN is the result of any operation on it, the first one of two; a signaling one has no
result. -/
def unlessNan (digits : Nat) (x y : Decimal) (result : Except Fault Decimal) :
    Except Fault Decimal :=
  match x, y with
  | .nan _ true _, _ | _, .nan _ true _ => .error .undefined
  | .nan negative false payload, _ | _, .nan negative false payload =>
    .ok (quiet digits negative payload)
  | _, _ => result

/-- The product. -/
def mul (digits : Nat) (x y : Decimal) : Except Fault Decimal :=
  let negative := x.isNegative != y.isNegative
  unlessNan digits x y <|
    match x, y with
    | .finite _ c e, .finite _ d f => fit digits negative (c * d) (e + f)
    | x, y => if x.isZero || y.isZero then .error .undefined else .ok (.infinite negative)

/-- A whole number as a decimal one. -/
def ofInt (n : Int) : Decimal :=
  .finite (decide (n < 0)) n.natAbs 0

/-- A thousandth. -/
def thousandth (x : Decimal) : Except Fault Decimal :=
  unlessNan precision x x <|
    match x with
    | .finite negative c e => fit precision negative c (e - 3)
    | x => .ok x

/-! ## Sums -/

/-- A finite number as a sign, a coefficient and an exponent of ten. -/
structure Term where
  negative : Bool
  coefficient : Nat
  exponent : Int

/-- The coefficient with its sign. -/
def Term.signed (t : Term) : Int :=
  if t.negative then -(t.coefficient : Int) else t.coefficient

/-- A term too small to show beside another one, which ends at a greater place, is replaced by
one of a single digit just beyond the digits of the result. -/
def Term.bounded (digits : Nat) (great small : Term) : Term :=
  let bound := great.exponent - 1 + min 0 ((digitCount great.coefficient : Int) - digits - 1)
  if great.coefficient ≠ 0 ∧ (digitCount small.coefficient : Int) - 1 + small.exponent < bound then
    ⟨small.negative, min 1 small.coefficient, bound⟩
  else small

/-- The sum of two terms, of which the first one ends at no smaller place. A sum of zero is
negative only where both terms are. -/
def sumOf (digits : Nat) (great small : Term) : Except Fault Decimal :=
  let small := if small.exponent < great.exponent then great.bounded digits small else small
  let shift := if great.coefficient = 0 then 0 else (great.exponent - small.exponent).toNat
  let total := great.signed * ((10 ^ shift : Nat) : Int) + small.signed
  let negative := if total = 0 then great.negative && small.negative else decide (total < 0)
  fit digits negative total.natAbs small.exponent

/-- The number less one. -/
def pred (x : Decimal) : Except Fault Decimal :=
  let one : Term := ⟨true, 1, 0⟩
  unlessNan precision x x <|
    match x with
    | .finite negative c e =>
      let t : Term := ⟨negative, c, e⟩
      if e < 0 then sumOf precision one t else sumOf precision t one
    | x => .ok x

end DataPortal.Decimal
