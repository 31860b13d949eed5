import DataPortal.Number.Amount
import DataPortal.Proofs.Number.DigitCount
/-!
# The order of whole amounts

Amounts of very different magnitudes are compared by these alone. Between whole numbers that
makes no difference, since the longer of two is the greater.
-/
namespace DataPortal

namespace Amount

theorem compareSizes_whole (m n : Nat) :
    compareSizes m 0 0 n 0 0 = compare m n := by
  have hmagnitude : ∀ k, magnitude k 0 0 = digitCount k := by simp [magnitude]
  simp only [compareSizes, hmagnitude]
  by_cases hlt : (digitCount m : Int) + 4 < digitCount n
  · have h := lt_of_digitCount_lt (m := m) (n := n) (by omega)
    rw [if_pos hlt, Nat.compare_eq_lt.2 h]
  · by_cases hgt : (digitCount n : Int) + 4 < digitCount m
    · have h := lt_of_digitCount_lt (m := n) (n := m) (by omega)
      rw [if_neg hlt, if_pos hgt, Nat.compare_eq_gt.2 h]
    · rw [if_neg hlt, if_neg hgt]
      simp

theorem sign_ofInt (n : Int) : (ofInt n).sign = n.sign := by
  rcases Int.lt_trichotomy n 0 with h | rfl | h
  · rw [Int.sign_eq_neg_one_of_neg h, ofInt, sign, if_neg (by omega), if_pos (by simpa using h)]
  · rfl
  · rw [Int.sign_eq_one_of_pos h, ofInt, sign, if_neg (by omega), if_neg (by simp; omega)]

theorem compare_natAbs {m n : Int} (hm : 0 ≤ m) (hn : 0 ≤ n) :
    compare m.natAbs n.natAbs = compare m n := by
  rcases Int.lt_trichotomy m n with h | rfl | h
  · rw [Int.compare_eq_lt.2 h, Nat.compare_eq_lt.2 (by omega)]
  · rw [Int.compare_eq_eq.2 rfl, Nat.compare_eq_eq.2 rfl]
  · rw [Int.compare_eq_gt.2 h, Nat.compare_eq_gt.2 (by omega)]

theorem compare_neg (m n : Int) : compare (-n) (-m) = compare m n := by
  rcases Int.lt_trichotomy m n with h | rfl | h
  · rw [Int.compare_eq_lt.2 h, Int.compare_eq_lt.2 (by omega)]
  · rw [Int.compare_eq_eq.2 rfl, Int.compare_eq_eq.2 rfl]
  · rw [Int.compare_eq_gt.2 h, Int.compare_eq_gt.2 (by omega)]

theorem sign_lt_sign {m n : Int} (h : m < n) (hs : m.sign ≠ n.sign) : m.sign < n.sign := by
  have hm := Int.sign_trichotomy m
  have hn := Int.sign_trichotomy n
  have hpos : m.sign = 1 → n.sign = 1 := by
    rw [Int.sign_eq_one_iff_pos, Int.sign_eq_one_iff_pos]
    omega
  have hneg : n.sign = -1 → m.sign = -1 := by
    rw [Int.sign_eq_neg_one_iff_neg, Int.sign_eq_neg_one_iff_neg]
    omega
  omega

/-- Numbers of different signs are in the order of these. -/
theorem compare_sign {m n : Int} (hs : m.sign ≠ n.sign) :
    compare m.sign n.sign = compare m n := by
  rcases Int.lt_trichotomy m n with h | rfl | h
  · rw [Int.compare_eq_lt.2 h, Int.compare_eq_lt.2 (sign_lt_sign h hs)]
  · exact absurd rfl hs
  · rw [Int.compare_eq_gt.2 h, Int.compare_eq_gt.2 (sign_lt_sign h hs.symm)]

/-- Whole amounts are in the order of the whole numbers. -/
theorem order_ofInt (m n : Int) : (ofInt m).order (ofInt n) = compare m n := by
  rw [order, sign_ofInt, sign_ofInt]
  by_cases hs : m.sign = n.sign
  · -- the sizes decide, in reverse below zero
    rw [if_neg (by simpa using hs)]
    rcases Int.lt_trichotomy m 0 with hm | rfl | hm
    · have hn : n < 0 := Int.sign_eq_neg_one_iff_neg.1 (hs ▸ Int.sign_eq_neg_one_of_neg hm)
      rw [Int.sign_eq_neg_one_of_neg hm, if_neg (by decide), if_neg (by decide), ofInt, ofInt,
        compareAbs, compareSizes_whole, ← Int.natAbs_neg n,
        ← Int.natAbs_neg m, compare_natAbs (by omega) (by omega), compare_neg]
    · have hn : n = 0 := Int.sign_eq_zero_iff_zero.1 hs.symm
      rw [hn]
      rfl
    · have hn : 0 < n := Int.sign_eq_one_iff_pos.1 (hs ▸ Int.sign_eq_one_of_pos hm)
      rw [Int.sign_eq_one_of_pos hm, if_neg (by decide), if_pos rfl, ofInt, ofInt, compareAbs,
        compareSizes_whole, compare_natAbs (by omega) (by omega)]
  · rw [if_pos hs, compare_sign hs]

end Amount
end DataPortal
