import DataPortal.Number.Rounding
/-!
# How long numbers are

The number of decimal digits is found from the binary length. What the cases test is what makes
the result right, so that it is the length of the number's text, whatever the binary length says.
-/
namespace DataPortal

theorem length_toDigits_eq {n k : Nat} (hlow : 10 ^ k ≤ n) (hhigh : n < 10 ^ (k + 1)) :
    (Nat.toDigits 10 n).length = k + 1 := by
  have hle := (Nat.length_toDigits_le_iff (b := 10) (by decide) (by omega)).2 hhigh
  cases k with
  | zero =>
    have hpos := @Nat.length_toDigits_pos 10 n
    omega
  | succ k =>
    have hlt : ¬(Nat.toDigits 10 n).length ≤ k + 1 := by
      rw [Nat.length_toDigits_le_iff (by decide) (by omega)]
      omega
    omega

/-- The count is the length of the text of a number. -/
theorem digitCount_eq (n : Nat) : digitCount n = (Nat.toDigits 10 n).length := by
  unfold digitCount
  dsimp only
  generalize n.log2 * 30103 / 100000 = k
  split
  · rename_i h
    cases k with
    | zero => omega
    | succ k => exact (length_toDigits_eq h.1 h.2).symm
  · split
    · rename_i h
      exact (length_toDigits_eq h.1 h.2).symm
    · split
      · rename_i h
        exact (length_toDigits_eq h.1 h.2).symm
      · rfl

theorem digitCount_pos (n : Nat) : 0 < digitCount n := by
  rw [digitCount_eq]
  exact Nat.length_toDigits_pos

theorem lt_pow_digitCount (n : Nat) : n < 10 ^ digitCount n := by
  have hlength : (Nat.toDigits 10 n).length ≤ digitCount n := Nat.le_of_eq (digitCount_eq n).symm
  exact (Nat.length_toDigits_le_iff (by decide) (digitCount_pos n)).1 hlength

theorem pow_digitCount_le {n : Nat} (h : n ≠ 0) : 10 ^ (digitCount n - 1) ≤ n := by
  by_cases hone : digitCount n = 1
  · rw [hone]
    exact Nat.one_le_iff_ne_zero.2 h
  · have hpos := digitCount_pos n
    rw [← Nat.not_lt, ← Nat.length_toDigits_le_iff (by decide) (by omega), ← digitCount_eq]
    omega

/-- A number with more digits is greater. -/
theorem lt_of_digitCount_lt {m n : Nat} (h : digitCount m < digitCount n) : m < n := by
  have hn : n ≠ 0 := by
    rintro rfl
    have hpos := digitCount_pos m
    have hzero : digitCount 0 = 1 := by rw [digitCount_eq, Nat.toDigits_zero, List.length_singleton]
    omega
  calc m < 10 ^ digitCount m := lt_pow_digitCount m
    _ ≤ 10 ^ (digitCount n - 1) := Nat.pow_le_pow_right (by decide) (by omega)
    _ ≤ n := pow_digitCount_le hn

end DataPortal
