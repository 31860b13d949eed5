import DataPortal.Proofs.Number.NumeralText
import DataPortal.Proofs.Number.PlainNumber
import DataPortal.Proofs.Number.Shortest
/-!
# The text of a number

A finite number is written as a numeral of its shortest decimal, which has a zero at its end only
after the point of a number that is whole. So its text is read as the number again, and as a
decimal number it is the shortest decimal.
-/
namespace DataPortal

/-! ## Digits of a numeral -/

namespace Numeral.IsWritten

variable {n : Numeral} (h : n.IsWritten)
include h

/-- The digits of a numeral are read as one number. -/
theorem coefficient_eq :
    n.coefficient = Nat.ofDigitChars 10 (n.whole ++ n.fraction.getD []) 0 := by
  refine Text.digitsValue_ascii fun c hc => Text.isDigit_iff_ascii.1 ?_
  rcases List.mem_append.1 hc with hc | hc
  · exact h.whole_digits c hc
  · cases hfraction : n.fraction with
    | none =>
      rw [hfraction] at hc
      cases hc
    | some ds =>
      rw [hfraction] at hc
      exact h.fraction_digits ds hfraction c hc

theorem lastPlace_eq : n.lastPlace =
    (match n.exponent with
      | some (true, ds) => -(Nat.ofDigitChars 10 ds 0 : ℤ)
      | some (false, ds) => Nat.ofDigitChars 10 ds 0
      | none => 0) - (n.fraction.getD []).length := by
  have hvalue : ∀ e ∈ n.exponent, Text.digitsValue e.2 = Nat.ofDigitChars 10 e.2 0 :=
    fun e he => Text.digitsValue_ascii fun c hc =>
      Text.isDigit_iff_ascii.1 ((h.exponent_digits e he).2 c hc)
  rw [lastPlace]
  cases hexponent : n.exponent with
  | none => simp
  | some e =>
    obtain ⟨negative, ds⟩ := e
    have hds := hvalue _ hexponent
    dsimp only at hds
    cases negative <;> simp only [hds]

end Numeral.IsWritten

namespace Binary64

/-- A numeral of a decimal number, which may have further zeros unless it has places after the
point. -/
structure Spells (n : Numeral) (negative : Bool) (c : ℕ) (e : ℤ) : Prop where
  written : n.IsWritten
  negative_eq : n.negative = negative
  zeros : ∃ k : ℕ, n.coefficient = c * 10 ^ k ∧ n.lastPlace = e - k ∧ (e < 0 → k = 0)

section

variable (negative : Bool) (c : ℕ)

/-- A whole number with zeros, the last one after the point. -/
theorem spells_whole (e : ℕ) : Spells
    ⟨negative, Text.digits c ++ List.replicate e '0', some ['0'], none⟩ negative c e := by
  have hwritten : Numeral.IsWritten
      ⟨negative, Text.digits c ++ List.replicate e '0', some ['0'], none⟩ := by
    refine ⟨by simp [Text.digits], fun d hd => ?_, ?_, by simp⟩
    · rcases List.mem_append.1 hd with hd | hd
      · exact Text.isDigit_of_mem_digits hd
      · rw [List.eq_of_mem_replicate hd]
        rfl
    · intro ds hds d hd
      cases hds
      rw [List.mem_singleton.1 hd]
      rfl
  refine ⟨hwritten, rfl, e + 1, ?_, ?_, by omega⟩
  · have hzeros : List.replicate e '0' ++ ['0'] = List.replicate (e + 1) '0' :=
      List.replicate_succ'.symm
    rw [hwritten.coefficient_eq, Option.getD_some, List.append_assoc, hzeros,
      Nat.ofDigitChars_append, Nat.ofDigitChars_replicate_zero, Text.digits,
      Nat.ofDigitChars_ten_toDigits, Nat.mul_comm]
  · rw [hwritten.lastPlace_eq]
    simp

/-- A decimal number with its point inside of the digits or in front of them. -/
theorem spells_point {e : ℤ} (he : e < 0) : Spells
    ⟨negative, (Decimal.positional c e).1, some (Decimal.positional c e).2, none⟩ negative c e := by
  have hsplits := Decimal.splits_positional c e
  have hwritten : Numeral.IsWritten
      ⟨negative, (Decimal.positional c e).1, some (Decimal.positional c e).2, none⟩ := by
    refine ⟨hsplits.some_whole, fun d hd => ?_, ?_, by simp⟩
    · exact hsplits.all_digits d (List.mem_append_left _ hd)
    · intro ds hds d hd
      cases hds
      exact hsplits.all_digits d (List.mem_append_right _ hd)
  refine ⟨hwritten, rfl, 0, ?_, ?_, fun _ => rfl⟩
  · rw [hwritten.coefficient_eq, Option.getD_some, Decimal.positional_append c he,
      Text.ofDigitChars_paddedDigits, pow_zero, mul_one]
  · rw [hwritten.lastPlace_eq, Option.getD_some, Decimal.length_positional c he]
    push_cast
    omega

/-- A digit, a point with the others if there are any, and the exponent of the first digit. -/
theorem spells_exponent (width : ℕ) {d : Char} {ds : List Char} (hds : Text.digits c = d :: ds)
    (e : ℤ) : Spells
      ⟨negative, [d], if ds.isEmpty then none else some ds,
        some (decide (ds.length + e < 0), Text.paddedDigits width (ds.length + e).natAbs)⟩
      negative c e := by
  have hall : ∀ x ∈ d :: ds, x.isDigit = true := hds ▸ fun x => Text.isDigit_of_mem_digits
  have hpoint : ((if ds.isEmpty then none else some ds).getD [] : List Char) = ds := by
    cases ds <;> rfl
  have hwritten : Numeral.IsWritten
      ⟨negative, [d], if ds.isEmpty then none else some ds,
        some (decide (ds.length + e < 0), Text.paddedDigits width (ds.length + e).natAbs)⟩ := by
    refine ⟨List.cons_ne_nil _ _, ?_, ?_, ?_⟩
    · intro x hx
      rw [List.mem_singleton.1 hx]
      exact hall d List.mem_cons_self
    · intro rest hrest x hx
      change (if ds.isEmpty then none else some ds) = some rest at hrest
      rw [hrest, Option.getD_some] at hpoint
      exact hall x (List.mem_cons_of_mem _ (hpoint ▸ hx))
    · intro exponent hexponent
      cases hexponent
      refine ⟨?_, fun x => Text.isDigit_of_mem_paddedDigits⟩
      simp [Text.paddedDigits, Text.digits]
  refine ⟨hwritten, rfl, 0, ?_, ?_, fun _ => rfl⟩
  · rw [hwritten.coefficient_eq, hpoint, List.singleton_append, ← hds, Text.digits,
      Nat.ofDigitChars_ten_toDigits, pow_zero, mul_one]
  · rw [hwritten.lastPlace_eq, hpoint]
    dsimp only
    by_cases hneg : (ds.length : ℤ) + e < 0
    · rw [decide_eq_true hneg]
      dsimp only
      rw [Text.ofDigitChars_paddedDigits]
      omega
    · rw [decide_eq_false hneg]
      dsimp only
      rw [Text.ofDigitChars_paddedDigits]
      omega

/-- The numeral that is laid out. -/
theorem exists_numeral_text (l : Layout) (e : ℤ) :
    ∃ n : Numeral, n.text = (if negative then ['-'] else []) ++ l.text c e ∧
      Spells n negative c e := by
  rw [Layout.text]
  dsimp only
  by_cases hplace : l.positionalFrom ≤ ((Text.digits c).length : ℤ) - 1 + e ∧
      ((Text.digits c).length : ℤ) - 1 + e < l.positionalBelow
  · rw [if_pos hplace]
    by_cases he : 0 ≤ e
    · rw [if_pos he]
      obtain ⟨e, rfl⟩ := Int.eq_ofNat_of_zero_le he
      refine ⟨_, ?_, spells_whole negative c e⟩
      simp [Numeral.text, Numeral.pointText, Numeral.exponentText]
    · rw [if_neg he]
      refine ⟨_, ?_, spells_point negative c (not_le.1 he)⟩
      simp [Numeral.text, Numeral.pointText, Numeral.exponentText, Decimal.positional, he]
  · rw [if_neg hplace]
    have hsome : Text.digits c ≠ [] := Nat.toDigits_ne_nil
    obtain ⟨d, ds, hds⟩ := List.exists_cons_of_ne_nil hsome
    refine ⟨_, ?_, spells_exponent negative c l.exponentDigits hds e⟩
    rw [hds]
    cases ds with
    | nil => simp [Numeral.text, Numeral.pointText, Numeral.exponentText]
    | cons d' ds => simp [Numeral.text, Numeral.pointText, Numeral.exponentText]

end

/-! ## Reading the text of a number -/

section

variable (negative : Bool) (field : Fin 2047) (fraction : Fin (2 ^ 52))

/-- The text of a finite number is a numeral of its shortest decimal. -/
theorem exists_numeral_of_finite :
    ∃ n : Numeral, Numeral.read? (finite negative field fraction).text = some n ∧
      Spells n negative (shortest field fraction).1 (shortest field fraction).2 := by
  obtain ⟨n, htext, hspells⟩ := exists_numeral_text negative (shortest field fraction).1
    Layout.standard (shortest field fraction).2
  have hsame : n.text = (finite negative field fraction).text := htext
  refine ⟨n, ?_, hspells⟩
  rw [← hsame]
  exact Numeral.read?_text hspells.written

/-- A numeral of the shortest decimal of a number is rounded to the number. -/
theorem Spells.toBinary64_eq {n : Numeral}
    (h : Spells n negative (shortest field fraction).1 (shortest field fraction).2) :
    n.toBinary64 = finite negative field fraction := by
  obtain ⟨k, hcoefficient, hplace, -⟩ := h.zeros
  have hvalue : (n.coefficient * 10 ^ n.lastPlace : ℚ) =
      (shortest field fraction).1 * 10 ^ (shortest field fraction).2 := by
    rw [hcoefficient, hplace, zpow_sub₀ (by norm_num), zpow_natCast]
    push_cast
    field_simp
  rw [Numeral.toBinary64, h.negative_eq, ofDecimal_eq_finite_iff, hvalue]
  exact (isShortest_shortest field fraction).holds

/-- **The text of a finite number is read as the number.** -/
theorem ofText?_text :
    ofText? (finite negative field fraction).text = some (finite negative field fraction) := by
  obtain ⟨n, hread, hspells⟩ := exists_numeral_of_finite negative field fraction
  rw [Numeral.ofText?_of_read? hread, hspells.toBinary64_eq]

end

/-- The decimal number that a floating point number is written as: its text is read as either of
them, no decimal with fewer digits is rounded to the number, and none that has as many is nearer
to it. -/
structure IsWrittenAs (x : Binary64) (negative : Bool) (c : ℕ) (e : ℤ) : Prop where
  spelled : Decimal.ofText? x.text = some (.finite negative c e)
  reads_back : ofText? x.text = some x
  shortest : ∀ (c' : ℕ) (e' : ℤ), ofDecimal negative c' e' = x → digitCount c ≤ digitCount c'
  nearest : ∀ (c' : ℕ) (e' : ℤ), ofDecimal negative c' e' = x → digitCount c' = digitCount c →
    ∀ q ∈ x.value?, |q - Decimal.value negative c e| ≤ |q - Decimal.value negative c' e'|

section

variable (negative : Bool) (field : Fin 2047) (fraction : Fin (2 ^ 52))

/-- The shortest decimal of a number that is not whole has places after the point. -/
theorem shortest_exponent_neg
    (h : ∀ n : ℤ, (finite negative field fraction).value? ≠ some (n : ℚ)) :
    (shortest field fraction).2 < 0 := by
  by_contra hnonneg
  obtain ⟨e, he⟩ := Int.eq_ofNat_of_zero_le (not_lt.1 hnonneg)
  have hholds := (isShortest_shortest field fraction).holds
  have hwhole : ((shortest field fraction).1 * 10 ^ (shortest field fraction).2 : ℚ) =
      ((shortest field fraction).1 * 10 ^ e : ℕ) := by
    rw [he]
    push_cast
    rfl
  rw [hwhole] at hholds
  obtain ⟨m, hm⟩ := magnitude_of_holds_natCast field fraction hholds
  cases negative with
  | true =>
    refine h (-m) ?_
    rw [value?, hm]
    push_cast
    rfl
  | false =>
    refine h m ?_
    rw [value?, hm]
    rfl

/-- Numbers of one sign are as far apart as their sizes. -/
theorem abs_signed_sub (q r : ℚ) : |signed negative q - signed negative r| = |q - r| := by
  cases negative with
  | true =>
    rw [signed, signed, if_pos rfl, if_pos rfl, neg_sub_neg, abs_sub_comm]
  | false => rfl

theorem value?_finite :
    (finite negative field fraction).value? = some (signed negative (magnitude field fraction)) := by
  cases negative <;> rfl

/-- **A number that is not whole is written as its shortest decimal.** -/
theorem isWrittenAs_shortest
    (h : ∀ n : ℤ, (finite negative field fraction).value? ≠ some (n : ℚ)) :
    IsWrittenAs (finite negative field fraction) negative (shortest field fraction).1
      (shortest field fraction).2 := by
  have hshortest := isShortest_shortest field fraction
  refine ⟨?_, ofText?_text negative field fraction, fun c' e' hc => ?_,
    fun c' e' hc hcount q hq => ?_⟩
  · obtain ⟨n, hread, hspells⟩ := exists_numeral_of_finite negative field fraction
    obtain ⟨k, hcoefficient, hplace, hzero⟩ := hspells.zeros
    rw [hzero (shortest_exponent_neg negative field fraction h)] at hcoefficient hplace
    rw [Numeral.decimalOfText?_of_read? hread, Numeral.toDecimal, hspells.negative_eq,
      hcoefficient, hplace]
    simp
  · exact hshortest.digitCount_le c' e' ((ofDecimal_eq_finite_iff ..).1 hc)
  · rw [value?_finite, Option.mem_some_iff] at hq
    subst hq
    rw [Decimal.value, Decimal.value, abs_signed_sub, abs_signed_sub]
    exact hshortest.abs_sub_le c' e' ((ofDecimal_eq_finite_iff ..).1 hc) hcount

end

end Binary64
end DataPortal
