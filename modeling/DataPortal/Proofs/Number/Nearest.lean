import DataPortal.Proofs.Number.Powers
import Mathlib.Tactic.Linarith
/-!
# Rounding to the nearest number

A size is rounded once, in units of which it has 53 bits, to the nearest whole number of them, the
even one of two. There is one way to write a size so, and it determines the number.
-/
namespace DataPortal

/-- A whole number next to a size, the even one where there are two. -/
structure IsNearest (q : ℚ) (m : ℕ) : Prop where
  low : (m : ℚ) - 1 / 2 ≤ q
  high : q ≤ m + 1 / 2
  even_of_tie : q = m - 1 / 2 ∨ q = m + 1 / 2 → m % 2 = 0

theorem IsNearest.le_of_le {q q' : ℚ} {m m' : ℕ} (h : IsNearest q m) (h' : IsNearest q' m')
    (hq : q ≤ q') : m ≤ m' := by
  by_contra hlt
  have hsucc : ((m' + 1 : ℕ) : ℚ) ≤ m := Nat.cast_le.2 (by omega)
  push_cast at hsucc
  have hlow := h.low
  have hhigh := h'.high
  -- only one place is left for both sizes, in the middle between two numbers
  have heq : (m : ℚ) = ((m' + 1 : ℕ) : ℚ) := by
    push_cast
    linarith
  have heven := h.even_of_tie (.inl (by linarith))
  have heven' := h'.even_of_tie (.inr (by linarith))
  have hm : m = m' + 1 := Nat.cast_injective heq
  omega

theorem IsNearest.unique {q : ℚ} {m m' : ℕ} (h : IsNearest q m) (h' : IsNearest q m') : m = m' :=
  Nat.le_antisymm (h.le_of_le h' le_rfl) (h'.le_of_le h le_rfl)

theorem isNearest_iff_of_even {q : ℚ} {m : ℕ} (h : m % 2 = 0) :
    IsNearest q m ↔ (m : ℚ) - 1 / 2 ≤ q ∧ q ≤ m + 1 / 2 :=
  ⟨fun hq => ⟨hq.low, hq.high⟩, fun hq => ⟨hq.1, hq.2, fun _ => h⟩⟩

theorem isNearest_iff_of_odd {q : ℚ} {m : ℕ} (h : m % 2 ≠ 0) :
    IsNearest q m ↔ (m : ℚ) - 1 / 2 < q ∧ q < m + 1 / 2 := by
  constructor
  · intro hq
    exact ⟨lt_of_le_of_ne hq.low fun heq => h (hq.even_of_tie (.inl heq.symm)),
      lt_of_le_of_ne hq.high fun heq => h (hq.even_of_tie (.inr heq))⟩
  · rintro ⟨hlow, hhigh⟩
    refine ⟨hlow.le, hhigh.le, ?_⟩
    rintro (heq | heq)
    · exact absurd heq hlow.ne'
    · exact absurd heq hhigh.ne

/-- A whole number is nearest to itself. -/
theorem isNearest_natCast (m : ℕ) : IsNearest m m := by
  refine ⟨by linarith, by linarith, ?_⟩
  rintro (h | h) <;> linarith

/-- The quotient is rounded to the nearest whole number. -/
theorem isNearest_roundHalfEven (num : ℕ) {den : ℕ} (h : den ≠ 0) :
    IsNearest (num / den) (roundHalfEven num den) := by
  have hden : (0 : ℚ) < den := Nat.cast_pos.2 (Nat.pos_of_ne_zero h)
  -- in halves of the denominator, what is left over is to be compared with one
  have hsplit : (num / den : ℚ) = (num / den : ℕ) + (2 * (num % den) : ℕ) / den / 2 := by
    have hmod : (num : ℚ) = den * (num / den : ℕ) + (num % den : ℕ) := by
      exact_mod_cast (Nat.div_add_mod num den).symm
    rw [Nat.cast_mul, Nat.cast_two]
    field_simp
    linarith
  have hrest : (0 : ℚ) ≤ (2 * (num % den) : ℕ) / den := by positivity
  have hless : ((2 * (num % den) : ℕ) / den : ℚ) < 2 := by
    have hmod := Nat.mod_lt num (Nat.pos_of_ne_zero h)
    rw [div_lt_iff₀ hden]
    exact_mod_cast (by omega)
  rw [hsplit, roundHalfEven]
  generalize num / den = a at *
  generalize 2 * (num % den) = t at *
  split
  · rename_i hup
    have hhalf : (1 : ℚ) ≤ t / den := by
      rw [one_le_div₀ hden]
      exact_mod_cast hup.elim Nat.le_of_lt fun h => h.1.ge
    refine ⟨?_, ?_, ?_⟩
    · push_cast
      linarith
    · push_cast
      linarith
    · push_cast
      rintro (htie | htie)
      · have heq : (t / den : ℚ) = 1 := by linarith
        have ht : t = den := by
          rw [div_eq_one_iff_eq hden.ne'] at heq
          exact_mod_cast heq
        omega
      · linarith
  · rename_i hdown
    rw [not_or, Nat.not_lt] at hdown
    have hhalf : (t / den : ℚ) ≤ 1 := by
      rw [div_le_one₀ hden]
      exact_mod_cast hdown.1
    refine ⟨?_, ?_, ?_⟩
    · linarith
    · linarith
    · rintro (htie | htie)
      · linarith
      · have heq : (t / den : ℚ) = 1 := by linarith
        have ht : t = den := by
          rw [div_eq_one_iff_eq hden.ne'] at heq
          exact_mod_cast heq
        omega

namespace Binary64

/-! ## Sizes in units of the last place -/

/-- A size in units of `2 ^ e`, of which it has at most 53 bits, and no fewer unless the unit is
the least one; `m` is the nearest whole number of units. -/
structure Scaled (q : ℚ) (e : ℤ) (m : ℕ) : Prop where
  least : -1074 ≤ e
  bits : q / 2 ^ e < 2 ^ 53
  leading : -1074 < e → 2 ^ 52 ≤ q / 2 ^ e
  nearest : IsNearest (q / 2 ^ e) m

namespace Scaled

variable {q : ℚ} {e e' : ℤ} {m m' : ℕ}

theorem lt_zpow (h : Scaled q e m) : q < 2 ^ (e + 53) := by
  have hbits := h.bits
  rw [div_lt_iff₀ (zpow_pos (by norm_num) e)] at hbits
  rw [zpow_add₀ (by norm_num), mul_comm]
  exact_mod_cast hbits

theorem zpow_le (h : Scaled q e m) (he : -1074 < e) : 2 ^ (e + 52) ≤ q := by
  have hleading := h.leading he
  rw [le_div_iff₀ (zpow_pos (by norm_num) e)] at hleading
  rw [zpow_add₀ (by norm_num), mul_comm]
  exact_mod_cast hleading

theorem exponent_le (h : Scaled q e m) (h' : Scaled q e' m') : e' ≤ e := by
  by_contra hlt
  have hleast := h.least
  have hle : (2 : ℚ) ^ (e' + 52) < 2 ^ (e + 53) :=
    lt_of_le_of_lt (h'.zpow_le (by omega)) h.lt_zpow
  rw [zpow_lt_zpow_iff_right₀ (by norm_num)] at hle
  omega

/-- There is one way to write a size so. -/
theorem unique (h : Scaled q e m) (h' : Scaled q e' m') : e = e' ∧ m = m' := by
  obtain rfl : e = e' := le_antisymm (h'.exponent_le h) (h.exponent_le h')
  exact ⟨rfl, h.nearest.unique h'.nearest⟩

theorem le_bits (h : Scaled q e m) : m ≤ 2 ^ 53 := by
  refine h.nearest.le_of_le (isNearest_natCast (2 ^ 53)) ?_
  exact_mod_cast h.bits.le

theorem le_leading (h : Scaled q e m) (he : -1074 < e) : 2 ^ 52 ≤ m := by
  refine (isNearest_natCast (2 ^ 52)).le_of_le h.nearest ?_
  exact_mod_cast h.leading he

end Scaled

/-- A quotient is rounded once, in units in which it has 53 bits. -/
theorem exists_scaled (negative : Bool) (num : ℕ) {den : ℕ} (hden : den ≠ 0) :
    ∃ e m, Scaled (num / den) e m ∧ ofQuotient negative num den = ofSignificand negative m e := by
  by_cases hnum : num = 0
  · subst hnum
    refine ⟨-1074, 0, ⟨le_rfl, by simp, by simp, ?_⟩, rfl⟩
    simpa using isNearest_natCast 0
  · have hpos : (0 : ℚ) < num / den :=
      div_pos (by exact_mod_cast Nat.pos_of_ne_zero hnum) (by exact_mod_cast Nat.pos_of_ne_zero hden)
    have hlow := @Int.zpow_log_le_self ℚ _ _ _ _ 2 _ (by decide) hpos
    have hhigh := @Int.lt_zpow_succ_log_self ℚ _ _ _ _ 2 (by decide) (num / den)
    rw [← floorLog2_eq hnum hden, Nat.cast_two] at hlow hhigh
    rw [ofQuotient, if_neg hnum]
    dsimp only
    generalize floorLog2 num den = l at hlow hhigh ⊢
    refine ⟨max (l - 52) (-1074), _, ⟨le_max_right _ _, ?_, ?_, ?_⟩, rfl⟩
    · rw [div_lt_iff₀ (zpow_pos (by norm_num) _), ← zpow_natCast, ← zpow_add₀ (by norm_num)]
      refine hhigh.trans_le (zpow_le_zpow_right₀ (by norm_num) ?_)
      push_cast
      omega
    · intro h
      rw [le_div_iff₀ (zpow_pos (by norm_num) _), ← zpow_natCast, ← zpow_add₀ (by norm_num)]
      refine (zpow_le_zpow_right₀ (by norm_num) ?_).trans hlow
      push_cast
      omega
    · rw [← inUnits_eq]
      exact isNearest_roundHalfEven _ (inUnits_den_ne_zero hden _)

/-! ## The number of a significand -/

theorem significand_lt (field : Fin 2047) (fraction : Fin (2 ^ 52)) :
    significand field fraction < 2 ^ 53 := by
  unfold significand
  split <;> omega

theorem le_lastPlace (field : Fin 2047) : -1074 ≤ lastPlace field := by
  unfold lastPlace
  split <;> omega

/-- The number above the last one below a power of two is that power: its significand is to be
halved. -/
def Carries (field : Fin 2047) (fraction : Fin (2 ^ 52)) : Prop :=
  fraction.val = 0 ∧ 1 < field.val

theorem ofSignificand_subnormal {negative : Bool} {m : ℕ} {e : ℤ} (h : m < 2 ^ 52) :
    ofSignificand negative m e = .finite negative 0 (Fin.ofNat _ m) := by
  rw [ofSignificand, if_pos h]

theorem ofSignificand_normal {negative : Bool} {m : ℕ} {e : ℤ} (hlow : 2 ^ 52 ≤ m)
    (hhigh : m < 2 ^ 53) :
    ofSignificand negative m e =
      if e ≤ 971 then .finite negative (Fin.ofNat _ (e + 1075).toNat) (Fin.ofNat _ (m - 2 ^ 52))
      else .infinite negative := by
  rw [ofSignificand, if_neg (by omega)]
  simp only [if_pos hhigh]

/-- A significand of 54 bits is a power of two, which is halved. -/
theorem ofSignificand_carry {negative : Bool} {e : ℤ} :
    ofSignificand negative (2 ^ 53) e =
      if e + 1 ≤ 971 then .finite negative (Fin.ofNat _ (e + 1076).toNat) 0
      else .infinite negative := by
  rw [ofSignificand, if_neg (by decide)]
  simp only [lt_irrefl, if_false]
  rw [show e + 1 + 1075 = e + 1076 by omega]
  rfl

theorem ofSignificand_eq_finite_iff {negative : Bool} {m : ℕ} {e : ℤ} (hleast : -1074 ≤ e)
    (hbits : m ≤ 2 ^ 53) (hleading : -1074 < e → 2 ^ 52 ≤ m) (field : Fin 2047)
    (fraction : Fin (2 ^ 52)) :
    ofSignificand negative m e = .finite negative field fraction ↔
      (e = lastPlace field ∧ m = significand field fraction) ∨
        (e = lastPlace field - 1 ∧ m = 2 ^ 53 ∧ Carries field fraction) := by
  have hfield := field.isLt
  have hfraction := fraction.isLt
  have hsize : (field.val = 0 ∧ lastPlace field = -1074 ∧ significand field fraction = fraction) ∨
      (field.val ≠ 0 ∧ lastPlace field = field - 1075 ∧
        significand field fraction = 2 ^ 52 + fraction) := by
    by_cases h : field.val = 0
    · exact .inl ⟨h, if_pos h, if_pos h⟩
    · exact .inr ⟨h, if_neg h, if_neg h⟩
  simp only [Carries]
  rcases Nat.lt_or_ge m (2 ^ 52) with hsmall | hlow
  · rw [ofSignificand_subnormal hsmall]
    simp only [finite.injEq, true_and, Fin.ext_iff, Fin.val_ofNat, Fin.val_zero]
    omega
  · rcases Nat.lt_or_ge m (2 ^ 53) with hhigh | hge
    · rw [ofSignificand_normal hlow hhigh]
      split
      · simp only [finite.injEq, true_and, Fin.ext_iff, Fin.val_ofNat]
        omega
      · simp only [reduceCtorEq, false_iff]
        omega
    · obtain rfl : m = 2 ^ 53 := Nat.le_antisymm hbits hge
      rw [ofSignificand_carry]
      split
      · simp only [finite.injEq, true_and, Fin.ext_iff, Fin.val_ofNat, Fin.val_zero]
        omega
      · simp only [reduceCtorEq, false_iff]
        omega

theorem ofSignificand_eq_infinite_iff {negative : Bool} {m : ℕ} {e : ℤ} (hbits : m ≤ 2 ^ 53)
    (hleading : -1074 < e → 2 ^ 52 ≤ m) :
    ofSignificand negative m e = .infinite negative ↔ 971 < e ∨ (e = 971 ∧ m = 2 ^ 53) := by
  rcases Nat.lt_or_ge m (2 ^ 52) with hsmall | hlow
  · rw [ofSignificand_subnormal hsmall]
    simp only [reduceCtorEq, false_iff]
    omega
  · rcases Nat.lt_or_ge m (2 ^ 53) with hhigh | hge
    · rw [ofSignificand_normal hlow hhigh]
      split
      · simp only [reduceCtorEq, false_iff]
        omega
      · simp only [true_iff]
        omega
    · obtain rfl : m = 2 ^ 53 := Nat.le_antisymm hbits hge
      rw [ofSignificand_carry]
      split
      · simp only [reduceCtorEq, false_iff]
        omega
      · simp only [true_iff, and_true]
        omega

/-- There is no third case. -/
theorem ofSignificand_cases (negative : Bool) (m : ℕ) (e : ℤ) :
    ofSignificand negative m e = .infinite negative ∨
      ∃ field fraction, ofSignificand negative m e = .finite negative field fraction := by
  rw [ofSignificand]
  split
  · exact .inr ⟨_, _, rfl⟩
  · generalize (if m < 2 ^ 53 then (m, e) else (m / 2, e + 1)) = halved
    dsimp only
    split
    · exact .inr ⟨_, _, rfl⟩
    · exact .inl rfl

end Binary64
end DataPortal
