import DataPortal.Number.Shortest
import DataPortal.Proofs.Number.DigitCount
import Mathlib.Data.Int.Log
import Mathlib.Data.Rat.Floor
import Mathlib.Tactic.NormNum
import Mathlib.Tactic.Ring
/-!
# Powers and orders of magnitude

Powers of two and of ten are powers of rationals. The exponent of the greatest one that does not
exceed a number is found from the lengths of its numerator and its denominator, which tell it up
to one.
-/
namespace DataPortal.Binary64

theorem powerOf_eq (base : ℕ) (e : ℤ) : powerOf base e = (base : ℚ) ^ e := by
  unfold powerOf
  split
  · rename_i h
    obtain ⟨n, rfl⟩ := Int.eq_ofNat_of_zero_le h
    simp
  · rename_i h
    obtain ⟨n, rfl⟩ : ∃ n : ℕ, e = -n := ⟨(-e).toNat, by omega⟩
    rw [Rat.mkRat_eq_div]
    simp

/-- A quotient in units of a power of two. -/
theorem inUnits_eq (num den : ℕ) (e : ℤ) :
    ((inUnits num den e).1 / (inUnits num den e).2 : ℚ) = num / den / 2 ^ e := by
  unfold inUnits
  split
  · rename_i h
    obtain ⟨n, rfl⟩ := Int.eq_ofNat_of_zero_le h
    simp [div_div]
  · rename_i h
    obtain ⟨n, rfl⟩ : ∃ n : ℕ, e = -n := ⟨(-e).toNat, by omega⟩
    simp [mul_div_right_comm]

theorem inUnits_den_ne_zero {num den : ℕ} (h : den ≠ 0) (e : ℤ) :
    (inUnits num den e).2 ≠ 0 := by
  unfold inUnits
  split
  · exact Nat.mul_ne_zero h (by positivity)
  · exact h

/-! ## Orders of magnitude -/

/-- A guess that is right or one too great is put right by one comparison. -/
theorem log_eq_of_guess {b : ℕ} (hb : 1 < b) {q : ℚ} {guess : ℤ}
    (hlow : (b : ℚ) ^ (guess - 1) ≤ q) (hhigh : q < (b : ℚ) ^ (guess + 1)) :
    Int.log b q = if (b : ℚ) ^ guess ≤ q then guess else guess - 1 := by
  have hpos : 0 < q := lt_of_lt_of_le (zpow_pos (by exact_mod_cast by omega) _) hlow
  have hleast := (Int.zpow_le_iff_le_log hb hpos).1 hlow
  have hgreatest := (Int.lt_zpow_iff_log_lt hb hpos).1 hhigh
  split
  · rename_i h
    have := (Int.zpow_le_iff_le_log hb hpos).1 h
    omega
  · rename_i h
    rw [Int.zpow_le_iff_le_log hb hpos] at h
    omega

/-- The lengths of both parts of a quotient tell its magnitude up to one. -/
theorem div_bounds {b : ℚ} (hb : 0 < b) {num den : ℚ} {m n : ℤ}
    (hnum : b ^ m ≤ num ∧ num < b ^ (m + 1)) (hden : b ^ n ≤ den ∧ den < b ^ (n + 1)) :
    b ^ (m - n - 1) ≤ num / den ∧ num / den < b ^ (m - n + 1) := by
  have hpos : 0 < den := lt_of_lt_of_le (zpow_pos hb n) hden.1
  constructor
  · rw [le_div_iff₀ hpos]
    calc b ^ (m - n - 1) * den ≤ b ^ (m - n - 1) * b ^ (n + 1) :=
          mul_le_mul_of_nonneg_left hden.2.le (zpow_nonneg hb.le _)
      _ = b ^ m := by rw [← zpow_add₀ hb.ne']; congr 1; ring
      _ ≤ num := hnum.1
  · rw [div_lt_iff₀ hpos]
    calc num < b ^ (m + 1) := hnum.2
      _ = b ^ (m - n + 1) * b ^ n := by rw [← zpow_add₀ hb.ne']; congr 1; ring
      _ ≤ b ^ (m - n + 1) * den := mul_le_mul_of_nonneg_left hden.1 (zpow_nonneg hb.le _)

/-- The binary length of a number tells its magnitude. -/
theorem log2_bounds {n : ℕ} (h : n ≠ 0) :
    (2 : ℚ) ^ (n.log2 : ℤ) ≤ n ∧ (n : ℚ) < 2 ^ ((n.log2 : ℤ) + 1) := by
  constructor
  · rw [zpow_natCast]
    exact_mod_cast Nat.log2_self_le h
  · exact_mod_cast @Nat.lt_log2_self n

/-- So does the decimal length. -/
theorem digitCount_bounds {n : ℕ} (h : n ≠ 0) :
    (10 : ℚ) ^ ((digitCount n : ℤ) - 1) ≤ n ∧ (n : ℚ) < 10 ^ ((digitCount n : ℤ) - 1 + 1) := by
  have hlow := pow_digitCount_le h
  have hhigh := lt_pow_digitCount n
  have hpos := digitCount_pos n
  constructor
  · rw [← Nat.cast_pred hpos, zpow_natCast]
    exact_mod_cast hlow
  · rw [sub_add_cancel, zpow_natCast]
    exact_mod_cast hhigh

/-- The exponent of two that is found. -/
theorem floorLog2_eq {num den : ℕ} (hnum : num ≠ 0) (hden : den ≠ 0) :
    floorLog2 num den = Int.log 2 (num / den : ℚ) := by
  obtain ⟨hlow, hhigh⟩ := div_bounds (by norm_num) (log2_bounds hnum) (log2_bounds hden)
  have hguess : (inUnits num den (num.log2 - den.log2)).2 ≤
      (inUnits num den (num.log2 - den.log2)).1 ↔
        (2 : ℚ) ^ ((num.log2 : ℤ) - den.log2) ≤ num / den := by
    have hpos := Nat.pos_of_ne_zero (@inUnits_den_ne_zero num den hden (num.log2 - den.log2))
    rw [← one_le_div₀ (zpow_pos (by norm_num) _), ← inUnits_eq,
      one_le_div₀ (by exact_mod_cast hpos), Nat.cast_le]
  rw [@log_eq_of_guess 2 (by decide) _ _ hlow hhigh, floorLog2]
  exact if_congr hguess rfl rfl

/-- The exponent of ten that is found. -/
theorem floorLog10_eq {q : ℚ} (h : 0 < q) : floorLog10 q = Int.log 10 q := by
  have hnum : q.num.natAbs ≠ 0 := by
    have hpos := Rat.num_pos.2 h
    omega
  have hquotient : (q.num.natAbs / q.den : ℚ) = q := by
    rw [← Int.cast_natCast, Int.natAbs_of_nonneg (Rat.num_nonneg.2 h.le), Rat.num_div_den]
  obtain ⟨hlow, hhigh⟩ := div_bounds (by norm_num) (digitCount_bounds hnum)
    (digitCount_bounds q.den_nz)
  rw [hquotient, sub_sub_sub_cancel_right] at hlow hhigh
  rw [@log_eq_of_guess 10 (by decide) _ _ hlow hhigh, floorLog10, powerOf_eq]

end DataPortal.Binary64
