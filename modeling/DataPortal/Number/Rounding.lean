/-!
# Rounding of quotients

Both kinds of numbers that keep a fixed number of digits round in one way.
-/
namespace DataPortal

-- The powers of this project are the built-in ones, whichever library a module imports.
attribute [instance (2000), default_instance 20000] instPowNat

/-- The quotient rounded to the nearest integer, a half to the even one. -/
def roundHalfEven (num den : Nat) : Nat :=
  let quotient := num / den
  let twice := 2 * (num % den)
  if den < twice ∨ (twice = den ∧ quotient % 2 = 1) then quotient + 1 else quotient

/-- How many decimal digits a number has. Its binary length tells that up to one; a number so
great that it does not has its digits counted. -/
def digitCount (n : Nat) : Nat :=
  let k := n.log2 * 30103 / 100000
  if 10 ^ (k - 1) ≤ n ∧ n < 10 ^ k then k
  else if 10 ^ k ≤ n ∧ n < 10 ^ (k + 1) then k + 1
  else if 10 ^ (k + 1) ≤ n ∧ n < 10 ^ (k + 2) then k + 2
  else (Nat.toDigits 10 n).length

end DataPortal
