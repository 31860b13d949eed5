import DataPortal.Failure.Basic
import DataPortal.Number.Amount
import DataPortal.Number.DecimalPower
/-!
# Quantities

Numbers as they are given in settings: whole, floating point and decimal numbers, with the
truth values counting as one and zero. Comparisons are exact. Arithmetic between whole and
floating point numbers is done in floating point, arithmetic between whole and decimal ones
in decimal; between floating point and decimal numbers there is none. An operation that
would need a whole number beyond the range of floating point fails.
-/
namespace DataPortal

/-- An amount given in a setting. -/
inductive Quantity where
  | whole (n : Int)
  | binary (x : Binary64)
  | decimal (d : Decimal)
  deriving DecidableEq, Repr

namespace Quantity

/-- The quantity that a value stands for. -/
def ofValue? : Value → Option Quantity
  | .bool b => some (.whole (if b then 1 else 0))
  | .int n => some (.whole n)
  | .float x => some (.binary x)
  | .decimal d => some (.decimal d)
  | _ => none

/-- The quantity that a value must stand for. -/
def ofValue (v : Value) : Except Failure Quantity :=
  match ofValue? v with
  | some q => .ok q
  | none => .error .wrongType

/-- The value of a quantity. -/
def toValue : Quantity → Value
  | .whole n => .int n
  | .binary x => .float x
  | .decimal d => .decimal d

/-! ## Comparison -/

/-- The amount of a quantity. A NaN has none. -/
def amount? : Quantity → Option Amount
  | .whole n => some (.ofInt n)
  | .binary x => Amount.ofBinary64? x
  | .decimal d => Amount.ofDecimal? d

/-- A decimal quantity. -/
def isDecimal : Quantity → Bool
  | .decimal _ => true
  | _ => false

/-- A decimal NaN that no operation can be done with. -/
def isSignaling : Quantity → Bool
  | .decimal (.nan _ signaling _) => signaling
  | _ => false

/-- Whether the order of two quantities is one of some. With a NaN nothing holds, and where
one of the two is decimal there is not even an answer. -/
def compareBy (holds : Ordering → Bool) (x y : Quantity) : Except Failure Bool :=
  match x.amount?, y.amount? with
  | some a, some b => .ok (holds (a.order b))
  | _, _ => if x.isDecimal || y.isDecimal then .error .undefinedDecimal else .ok false

/-- Whether a quantity is less than another one. -/
def isLess (x y : Quantity) : Except Failure Bool :=
  compareBy (·.isLT) x y

/-- Whether a quantity is at most another one. -/
def isAtMost (x y : Quantity) : Except Failure Bool :=
  compareBy (·.isLE) x y

/-! ## Arithmetic -/

/-- The nearest floating point number of a whole number, if it is in range. -/
def wholeToBinary? (n : Int) : Option Binary64 :=
  match Binary64.ofInt n with
  | .infinite _ => none
  | x => some x

/-- A whole number as floating point. -/
def wholeToBinary (n : Int) : Except Failure Binary64 :=
  match wholeToBinary? n with
  | some x => .ok x
  | none => .error .overflow

/-- The quantity as a floating point number. -/
def toBinary : Quantity → Except Failure Binary64
  | .whole n => wholeToBinary n
  | .binary x => .ok x
  | .decimal d =>
    match d with
    | .finite negative c e => .ok (.ofDecimal negative c e)
    | .infinite negative => .ok (.infinite negative)
    | .nan _ signaling _ => if signaling then .error .badValue else .ok .nan

/-- The result of an operation on decimal numbers. -/
def ofDecimal (r : Except Decimal.Fault Decimal) : Except Failure Quantity :=
  match r with
  | .ok d => .ok (.decimal d)
  | .error .undefined => .error .undefinedDecimal
  | .error .overflow => .error .decimalOverflow

/-- The quantity less one. -/
def pred : Quantity → Except Failure Quantity
  | .whole n => .ok (.whole (n - 1))
  | .binary x => .ok (.binary (x - Binary64.ofInt 1))
  | .decimal d => ofDecimal d.pred

/-- Two to a power. Of a negative whole power the floating point number is taken. -/
def twoToThe : Quantity → Except Failure Quantity
  | .whole n =>
    if 0 ≤ n then .ok (.whole (2 ^ n.toNat))
    else (wholeToBinary n).map fun x => .binary ((Binary64.twoToThe? x).getD 0)
  | .binary x =>
    match Binary64.twoToThe? x with
    | some y => .ok (.binary y)
    | none => .error .overflow
  | .decimal d => ofDecimal d.twoToThe

/-- The product. -/
def mul : Quantity → Quantity → Except Failure Quantity
  | .whole m, .whole n => .ok (.whole (m * n))
  | .decimal d, .decimal d' => ofDecimal (d.mul Decimal.precision d')
  | .decimal d, .whole n => ofDecimal (d.mul Decimal.precision (.ofInt n))
  | .whole n, .decimal d => ofDecimal ((Decimal.ofInt n).mul Decimal.precision d)
  | .decimal _, _ | _, .decimal _ => .error .wrongType
  | x, y => do
    let a ← x.toBinary
    let b ← y.toBinary
    return .binary (a * b)

/-- A thousandth as a floating point number. That of a whole number is rounded once. -/
def thousandth : Quantity → Except Failure Binary64
  | .whole n =>
    match Binary64.ofRat (mkRat n 1000) with
    | .infinite _ => .error .overflow
    | x => .ok x
  | .binary x => .ok (x.divNat 1000)
  | .decimal d => (ofDecimal d.thousandth).bind toBinary

end Quantity

end DataPortal
