import DataPortal.Number.Binary64
/-!
# Powers of two

Two to a power that need not be whole. The fractional part of the power is a sum of halves,
quarters and so on, so that the power is a product of repeated square roots of two. These
are computed with many more bits than the result keeps.
-/
namespace DataPortal.Binary64

/-- The bits after the point of the numbers that are computed with. -/
def guardBits : Nat := 192

/-- One step of finding a square root by averaging: from above, until it gets no smaller. -/
def rootFrom (n : Nat) : Nat → Nat → Nat
  | 0, x => x
  | fuel + 1, x =>
    let y := (x + n / x) / 2
    if y < x then rootFrom n fuel y else x

/-- The whole part of a square root. -/
def floorRoot (n : Nat) : Nat :=
  if n = 0 then 0 else rootFrom n (n.log2 + 2) (2 ^ (n.log2 / 2 + 1))

/-- The product of the roots of two that a fraction below one asks for. Each step takes the
next binary place of the fraction, at which `root` is the factor. -/
def rootProduct : Nat → (root product : Nat) → Rat → Nat
  | 0, _, product, _ => product
  | places + 1, root, product, fraction =>
    let next := floorRoot (root * 2 ^ guardBits)
    if 1 ≤ 2 * fraction then
      rootProduct places next (product * next / 2 ^ guardBits) (2 * fraction - 1)
    else rootProduct places next product (2 * fraction)

/-- Two to the power of a fraction below one, in units of `2 ^ (-guardBits)`. -/
def fractionalPower (fraction : Rat) : Nat :=
  rootProduct guardBits (2 ^ (guardBits + 1)) (2 ^ guardBits) fraction

/-- Two to a power. A power of a finite number that leaves the range upwards is none. -/
def twoToThe? (x : Binary64) : Option Binary64 :=
  match x with
  | .nan => some .nan
  | .infinite negative => some (if negative then zero false else .infinite false)
  | x =>
    let q := x.value?.getD 0
    if 1100 < q then none
    else if q < -1200 then some (zero false)
    else
      let product := fractionalPower (q - (q.floor : Rat))
      match ofRat (mkRat product (2 ^ guardBits) * powerOf 2 q.floor) with
      | .infinite _ => none
      | y => some y

end DataPortal.Binary64
