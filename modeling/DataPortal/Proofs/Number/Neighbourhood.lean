import DataPortal.Proofs.Number.Nearest
/-!
# Neighbourhoods

The number that a size is rounded to is the one in whose neighbourhood it lies. The neighbourhood
reaches half a unit to both sides, but below a power of two only a quarter, since the units are
half as great there. From the middle between the greatest number and the next power of two on,
sizes are infinite. A quotient is rounded so, and so is a decimal number.
-/
namespace DataPortal.Binary64

/-! ## Neighbourhoods -/

theorem Neighbourhood.holds_closed (low high q : ℚ) :
    holds ⟨low, high, true⟩ q = true ↔ low ≤ q ∧ q ≤ high := by
  simp [holds]

theorem Neighbourhood.holds_open (low high q : ℚ) :
    holds ⟨low, high, false⟩ q = true ↔ low < q ∧ q < high := by
  simp [holds]

section

variable {field : Fin 2047} {fraction : Fin (2 ^ 52)} {q : ℚ}

theorem quarter_eq (e : ℤ) : powerOf 2 (e - 2) = 1 / 4 * 2 ^ e := by
  rw [powerOf_eq, Nat.cast_ofNat, zpow_sub₀ (by norm_num)]
  ring

/-- In units of the last place the neighbourhood reaches half a unit up and down, but not below
zero. -/
theorem neighbourhood_eq (h : ¬Carries field fraction) :
    neighbourhood field fraction =
      ⟨((4 * significand field fraction - 2 : ℕ) / 4 : ℚ) * 2 ^ lastPlace field,
        (significand field fraction + 1 / 2 : ℚ) * 2 ^ lastPlace field,
        significand field fraction % 2 == 0⟩ := by
  have hbelow : (if fraction.val = 0 ∧ 1 < field.val then 1 else 2) = 2 := if_neg h
  rw [neighbourhood, hbelow, quarter_eq]
  congr 1
  · ring
  · push_cast
    ring

/-- Below a power of two it reaches only a quarter of a unit down. -/
theorem neighbourhood_of_carries (h : Carries field fraction) :
    neighbourhood field fraction =
      ⟨(2 ^ 52 - 1 / 4) * 2 ^ lastPlace field, (2 ^ 52 + 1 / 2) * 2 ^ lastPlace field, true⟩ := by
  have hbelow : (if fraction.val = 0 ∧ 1 < field.val then 1 else 2) = 1 := if_pos h
  have hfield : field.val ≠ 0 := Nat.ne_of_gt (Nat.lt_trans Nat.zero_lt_one h.2)
  have hm : significand field fraction = 2 ^ 52 := by rw [significand, if_neg hfield, h.1]
  rw [neighbourhood, hbelow, hm, quarter_eq]
  congr 1
  · norm_num
    ring
  · norm_num
    ring

/-- A neighbourhood is what rounds to the significand, unless it is narrower below. -/
theorem holds_iff_isNearest (hq : 0 ≤ q) (h : ¬Carries field fraction) :
    (neighbourhood field fraction).holds q = true ↔
      IsNearest (q / 2 ^ lastPlace field) (significand field fraction) := by
  have hpos : (0 : ℚ) < 2 ^ lastPlace field := zpow_pos (by norm_num) _
  have hscaled : 0 ≤ q / 2 ^ lastPlace field := div_nonneg hq hpos.le
  rw [neighbourhood_eq h]
  generalize significand field fraction = m
  have hlow : m ≠ 0 → ((4 * m - 2 : ℕ) / 4 : ℚ) = m - 1 / 2 := by
    intro hm
    rw [Nat.cast_sub (by omega)]
    push_cast
    ring
  by_cases hm : m % 2 = 0
  · rw [hm, beq_self_eq_true, Neighbourhood.holds_closed, ← le_div_iff₀ hpos, ← div_le_iff₀ hpos,
      isNearest_iff_of_even hm]
    by_cases hzero : m = 0
    · subst hzero
      -- both lower ends are not above zero
      have hleft : (4 * 0 - 2 : ℕ) / 4 ≤ q / 2 ^ lastPlace field := by simpa using hscaled
      have hright : ((0 : ℕ) : ℚ) - 1 / 2 ≤ q / 2 ^ lastPlace field := by
        refine le_trans ?_ hscaled
        norm_num
      rw [and_iff_right hleft, and_iff_right hright]
    · rw [hlow hzero]
  · rw [beq_eq_false_iff_ne.2 hm, Neighbourhood.holds_open, ← lt_div_iff₀ hpos,
      ← div_lt_iff₀ hpos, isNearest_iff_of_odd hm, hlow (by omega)]

theorem holds_iff_of_carries (h : Carries field fraction) :
    (neighbourhood field fraction).holds q = true ↔
      2 ^ 52 - 1 / 4 ≤ q / 2 ^ lastPlace field ∧ q / 2 ^ lastPlace field ≤ 2 ^ 52 + 1 / 2 := by
  have hpos : (0 : ℚ) < 2 ^ lastPlace field := zpow_pos (by norm_num) _
  rw [neighbourhood_of_carries h, Neighbourhood.holds_closed, ← le_div_iff₀ hpos,
    ← div_le_iff₀ hpos]

/-- Above the least unit, a significand that is not a power of two has a number below it. -/
theorem lt_significand (h : ¬Carries field fraction) (hfield : -1074 < lastPlace field) :
    2 ^ 52 < significand field fraction := by
  unfold Carries at h
  by_cases hzero : field.val = 0
  · rw [lastPlace, if_pos hzero] at hfield
    omega
  · rw [lastPlace, if_neg hzero] at hfield
    rw [significand, if_neg hzero]
    omega

theorem significand_of_carries (h : Carries field fraction) :
    significand field fraction = 2 ^ 52 := by
  have hfield : field.val ≠ 0 := Nat.ne_of_gt (Nat.lt_trans Nat.zero_lt_one h.2)
  rw [significand, if_neg hfield, h.1]

/-- Whatever its neighbourhood is, it is no wider than half a unit to either side. -/
theorem isNearest_of_holds (hq : 0 ≤ q) (h : (neighbourhood field fraction).holds q = true) :
    IsNearest (q / 2 ^ lastPlace field) (significand field fraction) := by
  by_cases hcarries : Carries field fraction
  · rw [holds_iff_of_carries hcarries] at h
    rw [significand_of_carries hcarries, isNearest_iff_of_even (by decide)]
    norm_num at *
    constructor <;> linarith
  · exact (holds_iff_isNearest hq hcarries).1 h

theorem lt_lastPlace_of_carries (h : Carries field fraction) : -1074 < lastPlace field := by
  unfold Carries at h
  unfold lastPlace
  split <;> omega

/-- The number in whose neighbourhood a size lies is the one with its significand, or the power of
two that this one makes. -/
theorem Scaled.holds_iff {e : ℤ} {m : ℕ} (h : Scaled q e m) (hq : 0 ≤ q) :
    (neighbourhood field fraction).holds q = true ↔
      (e = lastPlace field ∧ m = significand field fraction) ∨
        (e = lastPlace field - 1 ∧ m = 2 ^ 53 ∧ Carries field fraction) := by
  by_cases hcarries : Carries field fraction
  · rw [holds_iff_of_carries hcarries, significand_of_carries hcarries]
    have hplace := lt_lastPlace_of_carries hcarries
    have hhalf : q / 2 ^ (lastPlace field - 1) = 2 * (q / 2 ^ lastPlace field) := by
      rw [zpow_sub_one₀ (by norm_num)]
      field_simp
    constructor
    · rintro ⟨hlow, hhigh⟩
      by_cases hleading : 2 ^ 52 ≤ q / 2 ^ lastPlace field
      · have hscaled : Scaled q (lastPlace field) (2 ^ 52) := by
          refine ⟨hplace.le, by linarith, fun _ => hleading, ?_⟩
          rw [isNearest_iff_of_even (by decide)]
          norm_num at *
          constructor <;> linarith
        exact .inl (h.unique hscaled)
      · -- below the power of two the units are half as great
        have hscaled : Scaled q (lastPlace field - 1) (2 ^ 53) := by
          rw [not_le] at hleading
          refine ⟨by omega, ?_, fun _ => ?_, ?_⟩
          · rw [hhalf]
            linarith
          · rw [hhalf]
            linarith
          · rw [hhalf, isNearest_iff_of_even (by decide)]
            norm_num at *
            constructor <;> linarith
        obtain ⟨he, hm⟩ := h.unique hscaled
        exact .inr ⟨he, hm, hcarries⟩
    · rintro (⟨rfl, rfl⟩ | ⟨rfl, rfl, -⟩)
      · have hleading := h.leading hplace
        have hhigh := h.nearest.high
        norm_num at *
        constructor <;> linarith
      · have hlow := h.nearest.low
        have hbits := h.bits
        rw [hhalf] at hlow hbits
        norm_num at *
        constructor <;> linarith
  · rw [holds_iff_isNearest hq hcarries]
    constructor
    · intro hnearest
      have hscaled : Scaled q (lastPlace field) (significand field fraction) := by
        have hbits : ((significand field fraction + 1 : ℕ) : ℚ) ≤ (2 ^ 53 : ℕ) :=
          Nat.cast_le.2 (significand_lt field fraction)
        refine ⟨le_lastPlace field, ?_, fun hplace => ?_, hnearest⟩
        · have hhigh := hnearest.high
          push_cast at hbits
          linarith
        · have hleading : ((2 ^ 52 + 1 : ℕ) : ℚ) ≤ significand field fraction :=
            Nat.cast_le.2 (lt_significand hcarries hplace)
          have hlow := hnearest.low
          push_cast at hleading
          linarith
      exact .inl (h.unique hscaled)
    · rintro (⟨rfl, rfl⟩ | ⟨-, -, h⟩)
      · exact h.nearest
      · exact absurd h hcarries

end

/-! ## Rounding a quotient -/

/-- The sizes from here on are infinite: the middle between the greatest number and the power of
two above it. -/
def overflowBound : ℚ :=
  (2 ^ 54 - 1) * 2 ^ (970 : ℤ)

theorem Scaled.overflow_iff {q : ℚ} {e : ℤ} {m : ℕ} (h : Scaled q e m) :
    overflowBound ≤ q ↔ 971 < e ∨ (e = 971 ∧ m = 2 ^ 53) := by
  -- in units of 971 places the bound is half a unit below the power of two
  have hbound : overflowBound = ((2 ^ 53 : ℕ) - 1 / 2 : ℚ) * 2 ^ (971 : ℤ) := by
    rw [overflowBound, show (971 : ℤ) = 970 + 1 by norm_num, zpow_add_one₀ (by norm_num)]
    generalize (2 : ℚ) ^ (970 : ℤ) = u
    push_cast
    ring
  have hpos : (0 : ℚ) < 2 ^ (971 : ℤ) := zpow_pos (by norm_num) _
  rcases lt_trichotomy e 971 with hlt | rfl | hgt
  · -- a smaller unit makes a smaller size
    have hsmall : q < overflowBound := by
      calc q < 2 ^ (e + 53) := h.lt_zpow
        _ ≤ 2 ^ ((52 : ℕ) + 971 : ℤ) := zpow_le_zpow_right₀ (by norm_num) (by push_cast; omega)
        _ = 2 ^ 52 * 2 ^ (971 : ℤ) := by rw [zpow_add₀ (by norm_num), zpow_natCast]
        _ ≤ overflowBound := by
          rw [hbound]
          refine mul_le_mul_of_nonneg_right ?_ hpos.le
          norm_num
    constructor
    · exact fun hle => absurd hle (not_le.2 hsmall)
    · omega
  · rw [hbound, ← le_div_iff₀ hpos]
    constructor
    · intro hle
      have htie : IsNearest ((2 ^ 53 : ℕ) - 1 / 2) (2 ^ 53) := by
        rw [isNearest_iff_of_even (by decide)]
        constructor <;> linarith
      exact .inr ⟨rfl, Nat.le_antisymm h.le_bits (htie.le_of_le h.nearest hle)⟩
    · rintro (habsurd | ⟨-, rfl⟩)
      · omega
      · exact h.nearest.low
  · have hgreat : overflowBound ≤ q := by
      calc overflowBound ≤ 2 ^ 53 * 2 ^ (971 : ℤ) := by
            rw [hbound]
            refine mul_le_mul_of_nonneg_right ?_ hpos.le
            norm_num
        _ = 2 ^ ((53 : ℕ) + 971 : ℤ) := by rw [zpow_add₀ (by norm_num), zpow_natCast]
        _ ≤ 2 ^ (e + 52) := zpow_le_zpow_right₀ (by norm_num) (by push_cast; omega)
        _ ≤ q := h.zpow_le (by omega)
    exact ⟨fun _ => .inl hgt, fun _ => hgreat⟩

section

variable (negative : Bool) (num : ℕ) {den : ℕ}

/-- **A quotient is rounded to the nearest number**, the one in whose neighbourhood it lies. -/
theorem ofQuotient_eq_finite_iff (hden : den ≠ 0) (field : Fin 2047) (fraction : Fin (2 ^ 52)) :
    ofQuotient negative num den = .finite negative field fraction ↔
      (neighbourhood field fraction).holds (num / den) = true := by
  obtain ⟨e, m, hscaled, heq⟩ := exists_scaled negative num hden
  rw [heq, ofSignificand_eq_finite_iff hscaled.least hscaled.le_bits hscaled.le_leading,
    hscaled.holds_iff (by positivity)]

/-- A quotient is rounded to infinity where it is too great for a number. -/
theorem ofQuotient_eq_infinite_iff (hden : den ≠ 0) :
    ofQuotient negative num den = .infinite negative ↔ overflowBound ≤ num / den := by
  obtain ⟨e, m, hscaled, heq⟩ := exists_scaled negative num hden
  rw [heq, ofSignificand_eq_infinite_iff hscaled.le_bits hscaled.le_leading,
    hscaled.overflow_iff]

/-- Nothing else becomes of a quotient. -/
theorem ofQuotient_cases (den : ℕ) : ofQuotient negative num den = .infinite negative ∨
    ∃ field fraction, ofQuotient negative num den = .finite negative field fraction := by
  rw [ofQuotient]
  split
  · exact .inr ⟨_, _, rfl⟩
  · exact ofSignificand_cases ..

end

/-! ## Rounding a decimal number -/

section

variable (negative : Bool) (c : ℕ) (e : ℤ)

theorem div_pow_eq : ((c * 10 ^ e.toNat : ℕ) / (10 ^ (-e).toNat : ℕ) : ℚ) = c * 10 ^ e := by
  rcases Int.eq_nat_or_neg e with ⟨n, rfl | rfl⟩
  · simp
  · simp [div_eq_mul_inv]

/-- The place of the first digit tells the magnitude of a decimal number. -/
theorem decimal_bounds {c : ℕ} (h : c ≠ 0) :
    (10 : ℚ) ^ (digitCount c + e - 1) ≤ c * 10 ^ e ∧ (c * 10 ^ e : ℚ) < 10 ^ (digitCount c + e) := by
  obtain ⟨hlow, hhigh⟩ := digitCount_bounds h
  have hpos : (0 : ℚ) < 10 ^ e := zpow_pos (by norm_num) e
  rw [sub_add_cancel] at hhigh
  constructor
  · rw [add_sub_right_comm, zpow_add₀ (by norm_num)]
    exact mul_le_mul_of_nonneg_right hlow hpos.le
  · rw [zpow_add₀ (by norm_num)]
    exact mul_lt_mul_of_pos_right hhigh hpos

/-- Powers of ten lie further out than those of eight, which is three powers of two. -/
theorem two_zpow_le_ten_zpow (n : ℕ) :
    (2 : ℚ) ^ (3 * n : ℤ) ≤ 10 ^ (n : ℤ) ∧ (10 : ℚ) ^ (-n : ℤ) ≤ 2 ^ (-(3 * n) : ℤ) := by
  have hpow : (2 : ℚ) ^ (3 * n : ℤ) ≤ 10 ^ (n : ℤ) := by
    rw [zpow_mul, zpow_natCast, zpow_natCast]
    exact pow_le_pow_left₀ (by norm_num) (by norm_num) n
  refine ⟨hpow, ?_⟩
  rw [zpow_neg, zpow_neg]
  exact inv_anti₀ (zpow_pos (by norm_num) _) hpow

/-- Half of the least unit and what is below are rounded to zero. -/
theorem holds_zero_of_le {q : ℚ} (hq : 0 ≤ q) (h : q ≤ 2 ^ (-1075 : ℤ)) :
    (neighbourhood 0 0).holds q = true := by
  have hplain : ¬Carries 0 0 := fun h => absurd h.2 (by decide)
  have hplace : lastPlace 0 = -1075 + 1 := rfl
  rw [holds_iff_isNearest hq hplain, isNearest_iff_of_even (by decide), hplace]
  have hpos : (0 : ℚ) < 2 ^ (-1075 : ℤ) := zpow_pos (by norm_num) _
  have hzero : ((significand 0 0 : ℕ) : ℚ) = 0 := Nat.cast_zero
  rw [hzero, zpow_add_one₀ (by norm_num)]
  constructor
  · have hnonneg := div_nonneg hq (mul_pos hpos two_pos).le
    linarith
  · rw [div_le_iff₀ (mul_pos hpos two_pos)]
    linarith

/-- The numbers far outside of the range, too, are rounded as all others. -/
theorem ofDecimal_eq_ofQuotient :
    ofDecimal negative c e = ofQuotient negative (c * 10 ^ e.toNat) (10 ^ (-e).toNat) := by
  have hden : 10 ^ (-e).toNat ≠ 0 := by positivity
  rw [ofDecimal]
  split
  · rename_i hsmall
    rw [eq_comm, zero, ofQuotient_eq_finite_iff negative _ hden, div_pow_eq]
    refine holds_zero_of_le (mul_nonneg (Nat.cast_nonneg c) (zpow_nonneg (by norm_num) e)) ?_
    by_cases hc : c = 0
    · rw [hc, Nat.cast_zero, zero_mul]
      exact zpow_nonneg (by norm_num) _
    · calc (c * 10 ^ e : ℚ) ≤ 10 ^ (digitCount c + e) := (decimal_bounds e hc).2.le
        _ ≤ 10 ^ (-(400 : ℕ) : ℤ) := zpow_le_zpow_right₀ (by norm_num) (by omega)
        _ ≤ 2 ^ (-(3 * (400 : ℕ)) : ℤ) := (two_zpow_le_ten_zpow 400).2
        _ ≤ 2 ^ (-1075 : ℤ) := zpow_le_zpow_right₀ (by norm_num) (by norm_num)
  · rename_i hsize
    rw [not_or] at hsize
    split
    · rename_i hgreat
      rw [eq_comm, ofQuotient_eq_infinite_iff negative _ hden, div_pow_eq]
      calc overflowBound ≤ 2 ^ 54 * 2 ^ (970 : ℤ) :=
            mul_le_mul_of_nonneg_right (by norm_num) (zpow_nonneg (by norm_num) _)
        _ = 2 ^ ((54 : ℕ) + 970 : ℤ) := by rw [zpow_add₀ (by norm_num), zpow_natCast]
        _ ≤ 2 ^ (3 * (400 : ℕ) : ℤ) := zpow_le_zpow_right₀ (by norm_num) (by norm_num)
        _ ≤ 10 ^ ((400 : ℕ) : ℤ) := (two_zpow_le_ten_zpow 400).1
        _ ≤ 10 ^ (digitCount c + e - 1) := zpow_le_zpow_right₀ (by norm_num) (by omega)
        _ ≤ c * 10 ^ e := (decimal_bounds e hsize.1).1
    · split
      · rename_i he
        rw [Int.toNat_eq_zero.2 (by omega : -e ≤ 0), pow_zero]
      · rename_i he
        rw [Int.toNat_eq_zero.2 (by omega : e ≤ 0), pow_zero, Nat.mul_one]

/-- **A decimal number is rounded to the nearest number.** -/
theorem ofDecimal_eq_finite_iff (field : Fin 2047) (fraction : Fin (2 ^ 52)) :
    ofDecimal negative c e = .finite negative field fraction ↔
      (neighbourhood field fraction).holds (c * 10 ^ e) = true := by
  rw [ofDecimal_eq_ofQuotient, ofQuotient_eq_finite_iff negative _ (by positivity), div_pow_eq]

theorem ofDecimal_eq_infinite_iff :
    ofDecimal negative c e = .infinite negative ↔ overflowBound ≤ c * 10 ^ e := by
  rw [ofDecimal_eq_ofQuotient, ofQuotient_eq_infinite_iff negative _ (by positivity),
    div_pow_eq]

theorem ofDecimal_cases : ofDecimal negative c e = .infinite negative ∨
    ∃ field fraction, ofDecimal negative c e = .finite negative field fraction := by
  rw [ofDecimal_eq_ofQuotient]
  exact ofQuotient_cases ..

end

end DataPortal.Binary64
