import DataPortal.Number.Binary64
import DataPortal.Text.Digit
/-!
# The shortest decimal that reads back

A finite number is written with the fewest digits for which the nearest binary64
number is the number itself; of the decimals of that length the nearest one is
taken. For each length the two neighbours of the number on the decimal grid are
tested in exact arithmetic, so the first length with a hit is the least.
-/
namespace DataPortal.Binary64

/-- The rationals that round to one number: an interval around its magnitude, whose
ends belong to it when the significand is even. -/
structure Neighbourhood where
  low : Rat
  high : Rat
  closed : Bool

/-- The neighbourhood of a finite number. Below a power of two the numbers lie twice
as close as above it. -/
def neighbourhood (field : Fin 2047) (fraction : Fin (2 ^ 52)) : Neighbourhood :=
  let m := significand field fraction
  let quarter := powerOf 2 (lastPlace field - 2)
  let below : Nat := if fraction.val = 0 ∧ 1 < field.val then 1 else 2
  { low := ((4 * m - below : Nat) : Rat) * quarter
    high := ((4 * m + 2 : Nat) : Rat) * quarter
    closed := m % 2 == 0 }

/-- Whether a rational rounds to the number. -/
def Neighbourhood.holds (n : Neighbourhood) (q : Rat) : Bool :=
  if n.closed then decide (n.low ≤ q ∧ q ≤ n.high) else decide (n.low < q ∧ q < n.high)

/-- The greatest exponent of ten that does not exceed a positive rational. -/
def floorLog10 (q : Rat) : Int :=
  let guess := (digitCount q.num.natAbs : Int) - digitCount q.den
  if powerOf 10 guess ≤ q then guess else guess - 1

/-- The multiple of `10 ^ e` that lies in the neighbourhood of `q` and next to `q`:
the nearer one of two, and of two that are equally near the even one. -/
def gridHit? (n : Neighbourhood) (q : Rat) (e : Int) : Option Nat :=
  let step := powerOf 10 e
  let below := (q / step).floor.toNat
  let lowHit := n.holds (below * step)
  let highHit := n.holds ((below + 1 : Nat) * step)
  let lowGap := q - below * step
  let highGap := (below + 1 : Nat) * step - q
  if lowHit && highHit then
    if lowGap < highGap then some below
    else if highGap < lowGap then some (below + 1)
    else if below % 2 = 0 then some below
    else some (below + 1)
  else if lowHit then some below
  else if highHit then some (below + 1)
  else none

/-- Tries grids from the coarsest, of one digit, on: `left` more of them below `10 ^ e`. -/
def firstHit (n : Neighbourhood) (q : Rat) : Nat → Int → Nat × Int
  | 0, e => ((q / powerOf 10 e).floor.toNat, e)
  | left + 1, e =>
    match gridHit? n q e with
    | some c => (c, e)
    | none => firstHit n q left (e - 1)

/-- A coefficient and its exponent of ten without trailing zeros; `fuel` bounds their number. -/
def dropZeros : Nat → Nat × Int → Nat × Int
  | 0, d => d
  | fuel + 1, (c, e) => if c % 10 = 0 ∧ c ≠ 0 then dropZeros fuel (c / 10, e + 1) else (c, e)

/-- The coefficient and the exponent of ten of the shortest decimal of a finite number. -/
def shortest (field : Fin 2047) (fraction : Fin (2 ^ 52)) : Nat × Int :=
  let q := magnitude field fraction
  if q = 0 then (0, 0)
  else dropZeros 20 (firstHit (neighbourhood field fraction) q 17 (floorLog10 q))

/-! ## The text of a number -/

/-- How numbers are laid out: the decimal exponents of the first digit that are
written positionally, and the least number of digits of a written exponent. -/
structure Layout where
  positionalFrom : Int
  positionalBelow : Int
  exponentDigits : Nat

/-- The library's layout: `1e-05` and `1e+16` are the first numbers on either side
that are written with an exponent, which has two digits at least. -/
def Layout.standard : Layout := ⟨-4, 16, 2⟩

/-- A coefficient times a power of ten in the given layout. A number without a
fractional part keeps a final `.0`. -/
def Layout.text (l : Layout) (coefficient : Nat) (exponent : Int) : List Char :=
  let ds := Text.digits coefficient
  let lead := (ds.length : Int) - 1 + exponent
  if l.positionalFrom ≤ lead ∧ lead < l.positionalBelow then
    if 0 ≤ exponent then ds ++ List.replicate exponent.toNat '0' ++ ['.', '0']
    else
      let places := (-exponent).toNat
      let padded := Text.paddedDigits (places + 1) coefficient
      padded.take (padded.length - places) ++ '.' :: padded.drop (padded.length - places)
  else
    let mantissa := match ds with
      | d :: e :: rest => d :: '.' :: e :: rest
      | short => short
    let sign := if lead < 0 then '-' else '+'
    mantissa ++ 'e' :: sign :: Text.paddedDigits l.exponentDigits lead.natAbs

/-- A number as text: shortest digits, `inf`, `-inf` and `nan`. -/
def text : Binary64 → List Char
  | .finite negative field fraction =>
    let (c, e) := shortest field fraction
    (if negative then ['-'] else []) ++ Layout.standard.text c e
  | .infinite true => "-inf".toList
  | .infinite false => "inf".toList
  | .nan => "nan".toList

end DataPortal.Binary64
