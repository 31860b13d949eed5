import DataPortal.Number.Binary64
import DataPortal.Proofs.Text.Digits
import DataPortal.Value.Display
import Mathlib.Algebra.Order.Field.Rat
import Mathlib.Data.Rat.Cast.Defs
import Mathlib.Tactic.FieldSimp
import Mathlib.Tactic.Ring
/-!
# Numbers in plain notation

A plain number is a minus or none, whole digits, and a point with further digits or none. It has
no exponent, and no zeros but those that are needed: none in front of other whole digits, and
none at the end of the further ones. Whole numbers and decimal numbers are written so, and what
is written is exactly the number.
-/
namespace DataPortal

/-- A number in plain notation. -/
structure PlainNumber where
  negative : Bool
  whole : List Char
  fraction : List Char
  all_digits : ∀ c ∈ whole ++ fraction, c.isDigit = true
  some_whole : whole ≠ []
  no_leading_zero : whole.head? = some '0' → whole = ['0']
  no_trailing_zero : fraction.getLast? ≠ some '0'

/-- A size with a sign. -/
def signed (negative : Bool) (q : ℚ) : ℚ :=
  if negative then -q else q

namespace PlainNumber

/-- A plain number as it is written. -/
def text (p : PlainNumber) : List Char :=
  (if p.negative then ['-'] else []) ++ p.whole ++
    (if p.fraction.isEmpty then [] else '.' :: p.fraction)

/-- The number that is written: all digits as one number, in units of the last place. -/
def value (p : PlainNumber) : ℚ :=
  signed p.negative (Nat.ofDigitChars 10 (p.whole ++ p.fraction) 0 / 10 ^ p.fraction.length)

end PlainNumber

/-- The value of a decimal number. -/
def Decimal.value (negative : Bool) (c : ℕ) (e : ℤ) : ℚ :=
  signed negative (c * 10 ^ e)

/-! ## Whole digits -/

/-- A whole number with a sign. -/
def PlainNumber.ofNat (negative : Bool) (n : ℕ) : PlainNumber where
  negative := negative
  whole := Text.digits n
  fraction := []
  all_digits := by
    rw [List.append_nil]
    exact fun c => Text.isDigit_of_mem_digits
  some_whole := Nat.toDigits_ne_nil
  no_leading_zero := by
    intro h
    have hzero : n = 0 := by
      by_contra hne
      exact Text.head?_digits hne h
    rw [hzero]
    rfl
  no_trailing_zero := by simp

theorem PlainNumber.value_ofNat (negative : Bool) (n : ℕ) :
    (PlainNumber.ofNat negative n).value = signed negative n := by
  simp [value, ofNat, Text.digits, Nat.ofDigitChars_ten_toDigits]

/-- A whole number is written in plain notation. -/
theorem Value.exists_plainNumber_intText (n : ℤ) :
    ∃ p : PlainNumber, intText n = p.text ∧ p.value = n := by
  refine ⟨.ofNat (decide (n < 0)) n.natAbs, ?_, ?_⟩
  · by_cases h : n < 0 <;> simp [intText, PlainNumber.text, PlainNumber.ofNat, h]
  · rw [PlainNumber.value_ofNat, signed, Nat.cast_natAbs]
    by_cases h : n < 0
    · simp [h, abs_of_neg h]
    · simp [h, abs_of_nonneg (not_lt.1 h)]

namespace Decimal

/-! ## Digits after the point -/

/-- What is left out at the end are zeros. -/
theorem exists_trimZeros (fraction : List Char) :
    ∃ k, fraction = trimZeros fraction ++ List.replicate k '0' := by
  refine ⟨(fraction.reverse.takeWhile (· == '0')).length, ?_⟩
  have hzeros : fraction.reverse.takeWhile (· == '0') =
      List.replicate (fraction.reverse.takeWhile (· == '0')).length '0' := by
    refine List.eq_replicate_of_mem fun c hc => ?_
    simpa using List.all_eq_true.1 List.all_takeWhile c hc
  rw [trimZeros, ← List.reverse_replicate, ← hzeros, ← List.reverse_append,
    List.takeWhile_append_dropWhile, List.reverse_reverse]

/-- What is left ends in no zero. -/
theorem getLast?_trimZeros (fraction : List Char) : (trimZeros fraction).getLast? ≠ some '0' := by
  rw [trimZeros, List.getLast?_reverse]
  intro h
  have hstop := List.head?_dropWhile_not (· == '0') fraction.reverse
  rw [h] at hstop
  simp at hstop

/-- The digits of a decimal number on both sides of the point. -/
structure Splits (c : ℕ) (e : ℤ) (whole fraction : List Char) : Prop where
  all_digits : ∀ d ∈ whole ++ fraction, d.isDigit = true
  some_whole : whole ≠ []
  no_leading_zero : whole.head? = some '0' → whole = ['0']
  value : (Nat.ofDigitChars 10 (whole ++ fraction) 0 / 10 ^ fraction.length : ℚ) = c * 10 ^ e

/-- With digits after the point, both parts together are all digits, filled up with zeros. -/
theorem positional_append (c : ℕ) {e : ℤ} (he : e < 0) :
    (positional c e).1 ++ (positional c e).2 = Text.paddedDigits ((-e).toNat + 1) c := by
  rw [positional, if_neg (not_le.2 he)]
  exact List.take_append_drop ..

theorem length_positional (c : ℕ) {e : ℤ} (he : e < 0) :
    (positional c e).2.length = (-e).toNat := by
  have hlength := Text.length_paddedDigits ((-e).toNat + 1) c
  rw [positional, if_neg (not_le.2 he)]
  dsimp only
  rw [List.length_drop]
  omega

/-- So there are some before it, and if the first one is filled in it is the only one. -/
theorem positional_whole (c : ℕ) {e : ℤ} (he : e < 0) :
    (positional c e).1 ≠ [] ∧ ((positional c e).1.head? = some '0' → (positional c e).1 = ['0']) := by
  have hlength := Text.length_paddedDigits ((-e).toNat + 1) c
  rw [positional, if_neg (not_le.2 he)]
  dsimp only
  generalize (-e).toNat = places at hlength ⊢
  constructor
  · rw [Ne, List.take_eq_nil_iff]
    rintro (h | h)
    · omega
    · rw [h, List.length_nil] at hlength
      omega
  · intro h
    rw [List.head?_take, if_neg (by omega)] at h
    by_cases hlong : places + 1 ≤ (Text.digits c).length
    · rw [Text.paddedDigits, Nat.sub_eq_zero_of_le hlong] at h
      simp only [List.replicate_zero, List.nil_append] at h
      have hzero : c = 0 := by
        by_contra hne
        exact Text.head?_digits hne h
      subst hzero
      have hplaces : places = 0 := by simpa [Text.digits] using hlong
      subst hplaces
      rfl
    · have hone : (Text.paddedDigits (places + 1) c).length - places = 1 := by omega
      rw [hone, List.take_one, h]
      rfl

/-- The digits are split so that a digit is left before the point, and no zero is in front of
others there. -/
theorem splits_positional (c : ℕ) (e : ℤ) :
    Splits c e (positional c e).1 (positional c e).2 := by
  by_cases he : 0 ≤ e
  · rw [positional, if_pos he]
    let p := PlainNumber.ofNat false (c * 10 ^ e.toNat)
    refine ⟨p.all_digits, p.some_whole, p.no_leading_zero, ?_⟩
    have hvalue : p.value = signed false (c * 10 ^ e.toNat : ℕ) := PlainNumber.value_ofNat ..
    refine hvalue.trans ?_
    rw [signed, if_neg (by decide), Nat.cast_mul, Nat.cast_pow, Nat.cast_ofNat, ← zpow_natCast,
      Int.toNat_of_nonneg he]
  · rw [not_le] at he
    obtain ⟨hsome, hlead⟩ := positional_whole c he
    refine ⟨?_, hsome, hlead, ?_⟩
    · rw [positional_append c he]
      exact fun d => Text.isDigit_of_mem_paddedDigits
    · obtain ⟨places, rfl⟩ : ∃ places : ℕ, e = -places := ⟨(-e).toNat, by omega⟩
      rw [positional_append c he, length_positional c he, Text.ofDigitChars_paddedDigits, neg_neg,
        Int.toNat_natCast, zpow_neg, zpow_natCast, div_eq_mul_inv]

/-- **A decimal number is written in plain notation**, with exactly its value. -/
theorem exists_plainNumber (negative : Bool) (c : ℕ) (e : ℤ) :
    ∃ p : PlainNumber, plain negative c e = p.text ∧ p.value = Decimal.value negative c e := by
  obtain ⟨hdigits, hsome, hlead, hvalue⟩ := splits_positional c e
  obtain ⟨k, hk⟩ := exists_trimZeros (positional c e).2
  refine ⟨⟨negative, (positional c e).1, trimZeros (positional c e).2, ?_, hsome, hlead,
    getLast?_trimZeros _⟩, rfl, ?_⟩
  · intro d hd
    refine hdigits d ?_
    rw [hk, ← List.append_assoc]
    exact List.mem_append_left _ hd
  · have hlength : (positional c e).2.length = (trimZeros (positional c e).2).length + k := by
      conv_lhs => rw [hk]
      simp
    have hzeros : Nat.ofDigitChars 10 ((positional c e).1 ++ (positional c e).2) 0 =
        10 ^ k * Nat.ofDigitChars 10 ((positional c e).1 ++ trimZeros (positional c e).2) 0 := by
      conv_lhs => rw [hk]
      rw [← List.append_assoc, Nat.ofDigitChars_append, Nat.ofDigitChars_replicate_zero]
    rw [Decimal.value, PlainNumber.value, ← hvalue, hlength, hzeros]
    congr 1
    push_cast
    rw [pow_add]
    field_simp

end Decimal
end DataPortal
