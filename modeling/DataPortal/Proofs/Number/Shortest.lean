import DataPortal.Proofs.Number.Neighbourhood
/-!
# The shortest decimal

The decimal of a number lies in its neighbourhood, so that it is read back as the number; none
there is shorter, and of those as short none is nearer to the number. Seventeen digits are enough,
since the neighbourhood is wider than one place of the seventeenth digit. What makes the decimal
the shortest is that no coarser grid meets the neighbourhood.
-/
namespace DataPortal.Binary64

namespace Neighbourhood

variable {n : Neighbourhood} {a a' b b' p q x : ℚ}

/-- Whether two sizes are in the order in which an end and a member of a neighbourhood are. -/
def Reaches (n : Neighbourhood) (a b : ℚ) : Prop :=
  if n.closed then a ≤ b else a < b

theorem holds_iff_reaches : n.holds q = true ↔ n.Reaches n.low q ∧ n.Reaches q n.high := by
  unfold holds Reaches
  split <;> rw [decide_eq_true_iff]

theorem reaches_of_lt (h : a < b) : n.Reaches a b := by
  unfold Reaches
  split
  · exact h.le
  · exact h

theorem Reaches.mono (h : n.Reaches a b) (ha : a' ≤ a) (hb : b ≤ b') : n.Reaches a' b' := by
  unfold Reaches at h ⊢
  split
  · rename_i hclosed
    rw [if_pos hclosed] at h
    exact ha.trans (h.trans hb)
  · rename_i hopen
    rw [if_neg hopen] at h
    exact ha.trans_lt (h.trans_le hb)

theorem holds_of_lt_of_le (hq : n.holds q = true) (hlow : n.low < x) (hx : x ≤ q) :
    n.holds x = true := by
  rw [holds_iff_reaches] at hq ⊢
  exact ⟨reaches_of_lt hlow, hq.2.mono hx le_rfl⟩

theorem holds_of_le_of_lt (hq : n.holds q = true) (hx : q ≤ x) (hhigh : x < n.high) :
    n.holds x = true := by
  rw [holds_iff_reaches] at hq ⊢
  exact ⟨hq.1.mono le_rfl hx, reaches_of_lt hhigh⟩

/-- What lies between two sizes of a neighbourhood is in it. -/
theorem holds_between (hp : n.holds p = true) (hq : n.holds q = true) (hpx : p ≤ x)
    (hxq : x ≤ q) : n.holds x = true := by
  rw [holds_iff_reaches] at hp hq ⊢
  exact ⟨hp.1.mono le_rfl hpx, hq.2.mono hxq le_rfl⟩

end Neighbourhood

/-! ## A grid of decimals -/

section

variable {n : Neighbourhood} {q : ℚ} {e : ℤ}

/-- A coarser grid is part of a finer one. -/
theorem grid_finer {i j : ℤ} (h : j ≤ i) (c : ℕ) :
    (c * 10 ^ i : ℚ) = (c * 10 ^ (i - j).toNat : ℕ) * 10 ^ j := by
  rw [Nat.cast_mul, Nat.cast_pow, Nat.cast_ofNat, ← zpow_natCast, Int.toNat_of_nonneg (by omega),
    mul_assoc, ← zpow_add₀ (by norm_num), sub_add_cancel]

/-- The place of a grid at or below a number. -/
def placeBelow (q : ℚ) (e : ℤ) : ℕ :=
  (q / 10 ^ e).floor.toNat

theorem placeBelow_eq_floor (hq : 0 ≤ q) (e : ℤ) : (placeBelow q e : ℚ) = (q / 10 ^ e).floor := by
  have hnonneg : 0 ≤ q / 10 ^ e := div_nonneg hq (zpow_nonneg (by norm_num) e)
  have hfloor : 0 ≤ (q / 10 ^ e).floor := Rat.le_floor_iff.2 (by simpa using hnonneg)
  rw [placeBelow, ← Int.cast_natCast, Int.toNat_of_nonneg hfloor]

theorem placeBelow_le (hq : 0 ≤ q) (e : ℤ) : placeBelow q e * 10 ^ e ≤ q := by
  rw [← le_div_iff₀ (zpow_pos (by norm_num) e), placeBelow_eq_floor hq]
  exact Rat.floor_le _

theorem lt_placeBelow_succ (hq : 0 ≤ q) (e : ℤ) : q < (placeBelow q e + 1 : ℕ) * 10 ^ e := by
  rw [← div_lt_iff₀ (zpow_pos (by norm_num) e), Nat.cast_succ, placeBelow_eq_floor hq]
  exact_mod_cast Rat.lt_floor_add_one _

/-- A place of a grid in the neighbourhood of a number: one of the two around it, and none there
is nearer. -/
structure IsHit (n : Neighbourhood) (q : ℚ) (e : ℤ) (c : ℕ) : Prop where
  holds : n.holds (c * 10 ^ e) = true
  around : c = placeBelow q e ∨ c = placeBelow q e + 1
  nearest : ∀ c' : ℕ, n.holds (c' * 10 ^ e) = true → |q - c * 10 ^ e| ≤ |q - c' * 10 ^ e|

/-- A place in the neighbourhood has one of the two next to the number on its way to it. -/
theorem next_of_holds (hq : 0 ≤ q) (hn : n.holds q = true) {c : ℕ}
    (hc : n.holds (c * 10 ^ e) = true) :
    (n.holds (placeBelow q e * 10 ^ e) = true ∧ q - placeBelow q e * 10 ^ e ≤ |q - c * 10 ^ e|) ∨
      (n.holds ((placeBelow q e + 1 : ℕ) * 10 ^ e) = true ∧
        (placeBelow q e + 1 : ℕ) * 10 ^ e - q ≤ |q - c * 10 ^ e|) := by
  have hpos : (0 : ℚ) < 10 ^ e := zpow_pos (by norm_num) e
  rcases Nat.lt_or_ge (placeBelow q e) c with hgt | hle
  · have hstep : ((placeBelow q e + 1 : ℕ) : ℚ) * 10 ^ e ≤ c * 10 ^ e :=
      mul_le_mul_of_nonneg_right (Nat.cast_le.2 hgt) hpos.le
    have hnext := (lt_placeBelow_succ hq e).le
    refine .inr ⟨Neighbourhood.holds_between hn hc hnext hstep, ?_⟩
    rw [abs_sub_comm]
    exact (sub_le_sub_right hstep q).trans (le_abs_self _)
  · have hstep : (c * 10 ^ e : ℚ) ≤ placeBelow q e * 10 ^ e :=
      mul_le_mul_of_nonneg_right (Nat.cast_le.2 hle) hpos.le
    have hnext := placeBelow_le hq e
    refine .inl ⟨Neighbourhood.holds_between hc hn hstep hnext, ?_⟩
    exact (sub_le_sub_left hstep q).trans (le_abs_self _)

theorem isHit_below (hq : 0 ≤ q) (hn : n.holds q = true)
    (hlow : n.holds (placeBelow q e * 10 ^ e) = true)
    (hgap : n.holds ((placeBelow q e + 1 : ℕ) * 10 ^ e) = true →
      q - placeBelow q e * 10 ^ e ≤ (placeBelow q e + 1 : ℕ) * 10 ^ e - q) :
    IsHit n q e (placeBelow q e) := by
  refine ⟨hlow, .inl rfl, fun c hc => ?_⟩
  rw [abs_of_nonneg (sub_nonneg.2 (placeBelow_le hq e))]
  rcases next_of_holds hq hn hc with ⟨-, h⟩ | ⟨hhigh, h⟩
  · exact h
  · exact (hgap hhigh).trans h

theorem isHit_above (hq : 0 ≤ q) (hn : n.holds q = true)
    (hhigh : n.holds ((placeBelow q e + 1 : ℕ) * 10 ^ e) = true)
    (hgap : n.holds (placeBelow q e * 10 ^ e) = true →
      (placeBelow q e + 1 : ℕ) * 10 ^ e - q ≤ q - placeBelow q e * 10 ^ e) :
    IsHit n q e (placeBelow q e + 1) := by
  refine ⟨hhigh, .inr rfl, fun c hc => ?_⟩
  rw [abs_sub_comm, abs_of_nonneg (sub_nonneg.2 (lt_placeBelow_succ hq e).le)]
  rcases next_of_holds hq hn hc with ⟨hlow, h⟩ | ⟨-, h⟩
  · exact (hgap hlow).trans h
  · exact h

/-- On a grid the nearest place in the neighbourhood is found, if there is any. -/
theorem gridHit?_cases (hq : 0 ≤ q) (hn : n.holds q = true) (e : ℤ) :
    (∃ c, gridHit? n q e = some c ∧ IsHit n q e c) ∨
      (gridHit? n q e = none ∧ ∀ c : ℕ, n.holds (c * 10 ^ e) ≠ true) := by
  have hplace : (q / 10 ^ e).floor.toNat = placeBelow q e := rfl
  simp only [gridHit?, powerOf_eq, Nat.cast_ofNat, hplace]
  split
  · rename_i hboth
    rw [Bool.and_eq_true] at hboth
    left
    split
    · rename_i hless
      exact ⟨_, rfl, isHit_below hq hn hboth.1 fun _ => hless.le⟩
    · rename_i hge
      split
      · rename_i hless
        exact ⟨_, rfl, isHit_above hq hn hboth.2 fun _ => hless.le⟩
      · -- both are equally near
        rename_i hle
        split
        · exact ⟨_, rfl, isHit_below hq hn hboth.1 fun _ => not_lt.1 hle⟩
        · exact ⟨_, rfl, isHit_above hq hn hboth.2 fun _ => not_lt.1 hge⟩
  · rename_i hboth
    rw [Bool.and_eq_true, not_and] at hboth
    split
    · rename_i hlow
      exact .inl ⟨_, rfl, isHit_below hq hn hlow fun hhigh => absurd hhigh (hboth hlow)⟩
    · rename_i hlow
      split
      · rename_i hhigh
        exact .inl ⟨_, rfl, isHit_above hq hn hhigh fun h => absurd h hlow⟩
      · rename_i hhigh
        refine .inr ⟨rfl, fun c hc => ?_⟩
        rcases next_of_holds hq hn hc with ⟨hin, -⟩ | ⟨hin, -⟩
        · exact hlow hin
        · exact hhigh hin

/-- A neighbourhood wider than the places of a grid has one of them. -/
theorem gridHit?_ne_none (hq : 0 ≤ q) (hn : n.holds q = true) (hwide : 10 ^ e < n.high - n.low) :
    gridHit? n q e ≠ none := by
  rcases gridHit?_cases hq hn e with ⟨c, hsome, -⟩ | ⟨-, hnone⟩
  · rw [hsome]
    exact Option.some_ne_none c
  · have hlow : placeBelow q e * 10 ^ e ≤ n.low := by
      by_contra hlt
      exact hnone _ (Neighbourhood.holds_of_lt_of_le hn (not_le.1 hlt) (placeBelow_le hq e))
    have hhigh : n.high ≤ (placeBelow q e + 1 : ℕ) * 10 ^ e := by
      by_contra hlt
      exact hnone _
        (Neighbourhood.holds_of_le_of_lt hn (lt_placeBelow_succ hq e).le (not_le.1 hlt))
    rw [Nat.cast_succ, add_mul, one_mul] at hhigh
    linarith

/-! ## Finer and finer grids -/

/-- The first grid with a place in the neighbourhood, from the one of `10 ^ e` on. -/
structure IsFirstHit (n : Neighbourhood) (q : ℚ) (e : ℤ) (c : ℕ) (i : ℤ) : Prop where
  hit : IsHit n q i c
  le : i ≤ e
  none_coarser : ∀ j, i < j → j ≤ e → ∀ c' : ℕ, n.holds (c' * 10 ^ j) ≠ true

/-- The first hit is found if there is one among the grids that are tried. -/
theorem isFirstHit_firstHit (hq : 0 ≤ q) (hn : n.holds q = true) {left : ℕ}
    (h : ∃ k < left, gridHit? n q (e - k) ≠ none) :
    IsFirstHit n q e (firstHit n q left e).1 (firstHit n q left e).2 := by
  induction left generalizing e with
  | zero =>
    obtain ⟨k, hk, -⟩ := h
    exact absurd hk (Nat.not_lt_zero k)
  | succ left ih =>
    rw [firstHit]
    rcases gridHit?_cases hq hn e with ⟨c, hgrid, hhit⟩ | ⟨hgrid, hnone⟩
    · rw [hgrid]
      exact ⟨hhit, le_rfl, fun j hlt hle => absurd hle (not_le.2 hlt)⟩
    · rw [hgrid]
      dsimp only
      obtain ⟨k, hk, hsome⟩ := h
      -- what is found is found on a later grid
      cases k with
      | zero =>
        rw [Nat.cast_zero, sub_zero] at hsome
        exact absurd hgrid hsome
      | succ k =>
        have hlater : e - (k + 1 : ℕ) = e - 1 - k := by omega
        rw [hlater] at hsome
        obtain ⟨hhit, hle, hcoarser⟩ := ih ⟨k, by omega, hsome⟩
        refine ⟨hhit, by omega, fun j hlt hj => ?_⟩
        rcases Int.lt_or_eq_of_le hj with hj | rfl
        · exact hcoarser j hlt (by omega)
        · exact hnone

/-! ## Zeros at the end -/

theorem value_dropZeros (fuel : ℕ) (c : ℕ) (i : ℤ) :
    ((dropZeros fuel (c, i)).1 * 10 ^ (dropZeros fuel (c, i)).2 : ℚ) = c * 10 ^ i := by
  induction fuel generalizing c i with
  | zero => rfl
  | succ fuel ih =>
    rw [dropZeros]
    split
    · rename_i h
      obtain ⟨d, hd⟩ := Nat.dvd_of_mod_eq_zero h.1
      rw [ih, zpow_add_one₀ (by norm_num), hd, Nat.mul_div_cancel_left d (by decide)]
      push_cast
      ring
    · rfl

theorem dropZeros_of_mod_ne_zero {c : ℕ} (h : c % 10 ≠ 0) (fuel : ℕ) (i : ℤ) :
    dropZeros fuel (c, i) = (c, i) := by
  cases fuel with
  | zero => rfl
  | succ fuel => rw [dropZeros, if_neg fun hzero => h hzero.1]

/-! ## The digits of a first hit -/

theorem zpow_add_eq_mul (i : ℤ) (k : ℕ) : (10 : ℚ) ^ (i + k) = (10 ^ k : ℕ) * 10 ^ i := by
  rw [zpow_add₀ (by norm_num), zpow_natCast, mul_comm, Nat.cast_pow, Nat.cast_ofNat]

namespace IsFirstHit

variable {c k : ℕ} {i : ℤ}

theorem pow_le (h : IsFirstHit n q (i + k) c i) (hq : 0 ≤ q) (hlow : 10 ^ (i + k) ≤ q) :
    10 ^ k ≤ c := by
  have hpos : (0 : ℚ) < 10 ^ i := zpow_pos (by norm_num) i
  rw [zpow_add_eq_mul] at hlow
  have hlt := lt_of_mul_lt_mul_right (hlow.trans_lt (lt_placeBelow_succ hq i)) hpos.le
  rw [Nat.cast_lt] at hlt
  rcases h.hit.around with hc | hc <;> omega

theorem le_pow (h : IsFirstHit n q (i + k) c i) (hq : 0 ≤ q) (hhigh : q < 10 ^ (i + k + 1)) :
    c ≤ 10 ^ (k + 1) := by
  have hpos : (0 : ℚ) < 10 ^ i := zpow_pos (by norm_num) i
  rw [add_assoc, ← Nat.cast_succ, zpow_add_eq_mul] at hhigh
  have hlt := lt_of_mul_lt_mul_right ((placeBelow_le hq i).trans_lt hhigh) hpos.le
  rw [Nat.cast_lt] at hlt
  rcases h.hit.around with hc | hc <;> omega

/-- On the way to a finer grid there is no zero at the end. -/
theorem mod_ne_zero (h : IsFirstHit n q (i + k) c i) (hk : k ≠ 0) : c % 10 ≠ 0 := by
  intro hzero
  obtain ⟨d, rfl⟩ := Nat.dvd_of_mod_eq_zero hzero
  refine h.none_coarser (i + 1) (by omega) (by omega) d ?_
  have hvalue : (d * 10 ^ (i + 1) : ℚ) = (10 * d : ℕ) * 10 ^ i := by
    rw [zpow_add_one₀ (by norm_num)]
    push_cast
    ring
  rw [hvalue]
  exact h.hit.holds

/-- The decimal has as many digits as its grid has places up to the first digit of the number. -/
theorem digitCount_eq (h : IsFirstHit n q (i + k) c i) (hq : 0 ≤ q) (hlow : 10 ^ (i + k) ≤ q)
    (hhigh : q < 10 ^ (i + k + 1)) : digitCount (dropZeros 20 (c, i)).1 = k + 1 := by
  have hleast := h.pow_le hq hlow
  have hgreatest := h.le_pow hq hhigh
  by_cases hten : c = 10 ^ (k + 1)
  · -- the next power of ten, which is a single digit
    have hk : k = 0 := by
      by_contra hk
      refine h.mod_ne_zero hk ?_
      rw [hten, Nat.pow_succ]
      exact Nat.mul_mod_left _ 10
    subst hk hten
    have hone : (dropZeros 20 (10 ^ (0 + 1), i)).1 = 1 := by
      rw [dropZeros, if_pos (by decide), dropZeros_of_mod_ne_zero (by decide)]
    rw [hone, DataPortal.digitCount_eq]
    exact length_toDigits_eq (by decide) (by decide)
  · have hmod : c % 10 ≠ 0 := by
      by_cases hk : k = 0
      · subst hk
        omega
      · exact h.mod_ne_zero hk
    rw [dropZeros_of_mod_ne_zero hmod, DataPortal.digitCount_eq]
    exact length_toDigits_eq hleast (by omega)

/-- No decimal in the neighbourhood has fewer digits. -/
theorem le_digitCount (h : IsFirstHit n q (i + k) c i) (hn : n.holds q = true)
    (hlow : 10 ^ (i + k) ≤ q) {c' : ℕ} {e' : ℤ} (hc : n.holds (c' * 10 ^ e') = true) : k + 1 ≤ digitCount c' := by
  by_cases hk : k = 0
  · rw [hk]
    exact digitCount_pos c'
  · have hcoarser := h.none_coarser (i + 1) (by omega) (by omega)
    -- otherwise a coarser grid would meet the neighbourhood
    have hfine : e' ≤ i := by
      by_contra hlt
      rw [grid_finer (by omega : i + 1 ≤ e')] at hc
      exact hcoarser _ hc
    have hgreat : (10 : ℚ) ^ (i + k) ≤ c' * 10 ^ e' := by
      by_contra hlt
      have hin := Neighbourhood.holds_between hc hn (not_le.1 hlt).le hlow
      rw [← one_mul ((10 : ℚ) ^ (i + k)), ← Nat.cast_one, grid_finer (by omega : i + 1 ≤ i + k)] at hin
      exact hcoarser _ hin
    have hlt : (10 : ℚ) ^ (i + k) < 10 ^ (digitCount c' + e') := by
      have hpos : (0 : ℚ) < 10 ^ e' := zpow_pos (by norm_num) e'
      refine hgreat.trans_lt ?_
      rw [zpow_add₀ (by norm_num), zpow_natCast]
      exact mul_lt_mul_of_pos_right (by exact_mod_cast lt_pow_digitCount c') hpos
    rw [zpow_lt_zpow_iff_right₀ (by norm_num)] at hlt
    omega

/-- Of those with as many digits none is nearer. -/
theorem abs_sub_le (h : IsFirstHit n q (i + k) c i) (hn : n.holds q = true)
    (hlow : 10 ^ (i + k) ≤ q) {c' : ℕ} {e' : ℤ} (hc : n.holds (c' * 10 ^ e') = true) (hdigits : digitCount c' = k + 1) :
    |q - c * 10 ^ i| ≤ |q - c' * 10 ^ e'| := by
  by_cases hle : i ≤ e'
  · rw [grid_finer hle] at hc ⊢
    exact h.hit.nearest _ hc
  · -- the power of ten that begins as the number does is between them
    have hless : (c' * 10 ^ e' : ℚ) ≤ 10 ^ (i + k) := by
      have hpos : (0 : ℚ) < 10 ^ e' := zpow_pos (by norm_num) e'
      have hlt := lt_pow_digitCount c'
      rw [hdigits] at hlt
      calc (c' * 10 ^ e' : ℚ) ≤ (10 ^ (k + 1) : ℕ) * 10 ^ e' :=
            mul_le_mul_of_nonneg_right (Nat.cast_le.2 hlt.le) hpos.le
        _ = 10 ^ (e' + (k + 1 : ℕ)) := (zpow_add_eq_mul e' (k + 1)).symm
        _ ≤ 10 ^ (i + k) := zpow_le_zpow_right₀ (by norm_num) (by omega)
    have hin := Neighbourhood.holds_between hc hn hless hlow
    rw [zpow_add_eq_mul] at hin hless hlow
    calc |q - c * 10 ^ i| ≤ |q - (10 ^ k : ℕ) * 10 ^ i| := h.hit.nearest _ hin
      _ = q - (10 ^ k : ℕ) * 10 ^ i := abs_of_nonneg (sub_nonneg.2 hlow)
      _ ≤ q - c' * 10 ^ e' := sub_le_sub_left hless q
      _ ≤ |q - c' * 10 ^ e'| := le_abs_self _

end IsFirstHit

end

/-! ## The decimal of a number -/

section

variable (field : Fin 2047) (fraction : Fin (2 ^ 52))

theorem magnitude_eq :
    magnitude field fraction = significand field fraction * 2 ^ lastPlace field := by
  rw [magnitude, powerOf_eq, Nat.cast_ofNat]

theorem magnitude_nonneg : 0 ≤ magnitude field fraction := by
  rw [magnitude_eq]
  exact mul_nonneg (Nat.cast_nonneg _) (zpow_nonneg (by norm_num) _)

theorem magnitude_div : magnitude field fraction / 2 ^ lastPlace field =
    significand field fraction := by
  rw [magnitude_eq, mul_div_cancel_right₀ _ (zpow_pos (by norm_num) _).ne']

/-- A number lies in its own neighbourhood. -/
theorem holds_magnitude :
    (neighbourhood field fraction).holds (magnitude field fraction) = true := by
  by_cases hcarries : Carries field fraction
  · rw [holds_iff_of_carries hcarries, magnitude_div, significand_of_carries hcarries]
    norm_num
  · rw [holds_iff_isNearest (magnitude_nonneg field fraction) hcarries, magnitude_div]
    exact isNearest_natCast _

/-- Its neighbourhood is wider than a place of its seventeenth digit. -/
theorem magnitude_div_lt_width (h : magnitude field fraction ≠ 0) :
    magnitude field fraction / 10 ^ 16 <
      (neighbourhood field fraction).high - (neighbourhood field fraction).low := by
  have hpos : (0 : ℚ) < 2 ^ lastPlace field := zpow_pos (by norm_num) _
  rw [magnitude_eq] at h ⊢
  by_cases hcarries : Carries field fraction
  · rw [neighbourhood_of_carries hcarries, significand_of_carries hcarries]
    norm_num
    linarith
  · have hm : 1 ≤ significand field fraction := by
      by_contra hlt
      have hzero : significand field fraction = 0 := by omega
      rw [hzero, Nat.cast_zero, zero_mul] at h
      exact h rfl
    have hbits : (significand field fraction : ℚ) < (2 ^ 53 : ℕ) :=
      Nat.cast_lt.2 (significand_lt field fraction)
    rw [neighbourhood_eq hcarries, Nat.cast_sub (by omega)]
    push_cast at hbits ⊢
    have hscaled := mul_lt_mul_of_pos_right hbits hpos
    linarith

/-- The decimal of a number that reads back as it, with the fewest digits, and of those that are
as short a nearest one. -/
structure IsShortest (c : ℕ) (e : ℤ) : Prop where
  holds : (neighbourhood field fraction).holds (c * 10 ^ e) = true
  digitCount_le : ∀ (c' : ℕ) (e' : ℤ), (neighbourhood field fraction).holds (c' * 10 ^ e') = true →
    digitCount c ≤ digitCount c'
  abs_sub_le : ∀ (c' : ℕ) (e' : ℤ), (neighbourhood field fraction).holds (c' * 10 ^ e') = true →
    digitCount c' = digitCount c →
      |magnitude field fraction - c * 10 ^ e| ≤ |magnitude field fraction - c' * 10 ^ e'|

/-- **The decimal that is found is the shortest one.** -/
theorem isShortest_shortest :
    IsShortest field fraction (shortest field fraction).1 (shortest field fraction).2 := by
  have hn := holds_magnitude field fraction
  have hq := magnitude_nonneg field fraction
  rw [shortest]
  by_cases hzero : magnitude field fraction = 0
  · rw [if_pos hzero]
    have hvalue : (((0 : ℕ) : ℚ) * 10 ^ (0 : ℤ)) = magnitude field fraction := by simp [hzero]
    have hdigit : digitCount 0 = 1 := by decide
    refine ⟨?_, fun c' _ _ => ?_, fun c' e' _ _ => ?_⟩
    · rw [hvalue]
      exact hn
    · rw [hdigit]
      exact digitCount_pos c'
    · rw [hvalue, sub_self, abs_zero]
      exact abs_nonneg _
  · rw [if_neg hzero]
    have hpos : 0 < magnitude field fraction := lt_of_le_of_ne hq (Ne.symm hzero)
    have hlow := @Int.zpow_log_le_self ℚ _ _ _ _ 10 _ (by decide) hpos
    have hhigh := @Int.lt_zpow_succ_log_self ℚ _ _ _ _ 10 (by decide) (magnitude field fraction)
    rw [← floorLog10_eq hpos, Nat.cast_ofNat] at hlow hhigh
    have hwide : (10 : ℚ) ^ (floorLog10 (magnitude field fraction) - 16) <
        (neighbourhood field fraction).high - (neighbourhood field fraction).low := by
      refine lt_of_le_of_lt ?_ (magnitude_div_lt_width field fraction hzero)
      rw [zpow_sub₀ (by norm_num)]
      exact div_le_div_of_nonneg_right hlow (by norm_num)
    have hfirst := @isFirstHit_firstHit _ _ (floorLog10 (magnitude field fraction)) hq hn 17
      ⟨16, by decide, gridHit?_ne_none hq hn hwide⟩
    generalize firstHit (neighbourhood field fraction) (magnitude field fraction) 17
      (floorLog10 (magnitude field fraction)) = hit at hfirst
    obtain ⟨c, i⟩ := hit
    obtain ⟨k, hk⟩ := Int.eq_ofNat_of_zero_le (Int.sub_nonneg.2 hfirst.le)
    obtain hlog : floorLog10 (magnitude field fraction) = i + k := by omega
    rw [hlog] at hfirst hlow hhigh
    have hdigits := hfirst.digitCount_eq hq hlow hhigh
    refine ⟨?_, fun c' e' hc => ?_, fun c' e' hc hcount => ?_⟩
    · rw [value_dropZeros]
      exact hfirst.hit.holds
    · rw [hdigits]
      exact hfirst.le_digitCount hn hlow hc
    · rw [value_dropZeros]
      exact hfirst.abs_sub_le hn hlow hc (hcount.trans hdigits)

/-- The only whole number in the neighbourhood of a number is the number itself. -/
theorem magnitude_of_holds_natCast {n : ℕ}
    (h : (neighbourhood field fraction).holds n = true) :
    ∃ m : ℕ, magnitude field fraction = m := by
  rw [magnitude_eq]
  by_cases hplace : 0 ≤ lastPlace field
  · refine ⟨significand field fraction * 2 ^ (lastPlace field).toNat, ?_⟩
    rw [Nat.cast_mul, Nat.cast_pow, Nat.cast_two, ← zpow_natCast, Int.toNat_of_nonneg hplace]
  · -- in units of the last place both are whole, and next to each other
    refine ⟨n, ?_⟩
    obtain ⟨k, hk⟩ : ∃ k : ℕ, lastPlace field = -k := ⟨(-lastPlace field).toNat, by omega⟩
    have hnearest := isNearest_of_holds (Nat.cast_nonneg n) h
    have hunits : (n / 2 ^ lastPlace field : ℚ) = (n * 2 ^ k : ℕ) := by
      rw [hk, zpow_neg, div_inv_eq_mul, zpow_natCast]
      push_cast
      rfl
    have hpos : (0 : ℚ) < 2 ^ lastPlace field := zpow_pos (by norm_num) _
    rw [hunits] at hnearest
    rw [hnearest.unique (isNearest_natCast _), ← hunits, div_mul_cancel₀ _ hpos.ne']

end

end DataPortal.Binary64
