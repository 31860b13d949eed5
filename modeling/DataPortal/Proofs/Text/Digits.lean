import DataPortal.Text.Digit
/-!
# The digits of a number

The digits of a number in base ten, with or without zeros in front, denote it, and only zero has
digits that begin with a zero.
-/
namespace DataPortal.Text

theorem isDigit_of_mem_digits {n : Nat} {c : Char} (h : c ∈ digits n) : c.isDigit = true :=
  Nat.isDigit_of_mem_toDigits (by decide) (by decide) h

theorem isDigit_of_mem_paddedDigits {width n : Nat} {c : Char} (h : c ∈ paddedDigits width n) :
    c.isDigit = true := by
  rcases List.mem_append.1 h with h | h
  · rw [List.eq_of_mem_replicate h]
    rfl
  · exact isDigit_of_mem_digits h

/-- Zeros in front do not count. -/
theorem ofDigitChars_paddedDigits (width n : Nat) :
    Nat.ofDigitChars 10 (paddedDigits width n) 0 = n := by
  rw [paddedDigits, Nat.ofDigitChars_append, Nat.ofDigitChars_replicate_zero, Nat.mul_zero, digits,
    Nat.ofDigitChars_ten_toDigits]

theorem length_paddedDigits (width n : Nat) :
    (paddedDigits width n).length = max width (digits n).length := by
  rw [paddedDigits, List.length_append, List.length_replicate]
  omega

/-- The digits of a number do not begin with a zero, unless it is zero. -/
theorem head?_digits {n : Nat} (h : n ≠ 0) : (digits n).head? ≠ some '0' := by
  induction n using Nat.strongRecOn with
  | ind n ih =>
    by_cases hlt : n < 10
    · rw [digits, Nat.toDigits_of_lt_base hlt, List.head?_singleton, Ne, Option.some.injEq,
        Nat.digitChar_eq_zero]
      exact h
    · -- the first digit is that of the number without its last one
      have hrest := ih (n / 10) (by omega) (by omega)
      rw [digits, Nat.toDigits_of_base_le (by decide) (by omega)]
      rw [digits] at hrest
      cases hds : Nat.toDigits 10 (n / 10) with
      | nil => exact absurd hds Nat.toDigits_ne_nil
      | cons d ds =>
        rw [hds] at hrest
        exact hrest

/-! ## Digits as they are read -/

theorem digitValue?_ascii {c : Char} (h : '0' ≤ c ∧ c ≤ '9') :
    digitValue? c = some (c.toNat - '0'.toNat) := by
  have hlow : 48 ≤ c.toNat := h.1
  have hhigh : c.toNat ≤ 57 := h.2
  have hzero : digitZeros.find? (fun start => start ≤ c.toNat && c.toNat < start + 10) =
      some 48 := by
    rw [digitZeros, List.find?_cons_of_pos]
    simp
    omega
  rw [digitValue?, hzero]
  rfl

theorem digitValue_lt (c : Char) : digitValue c < 10 := by
  rw [digitValue]
  cases h : digitValue? c with
  | none => decide
  | some d => exact digitValue?_lt h

/-- A number is less than the power of ten that has one digit more. -/
theorem digitsValue_lt_pow (ds : List Char) : digitsValue ds < 10 ^ ds.length := by
  rw [digitsValue]
  -- every digit after some number moves it one place up
  have hfrom : ∀ n, ds.foldl (fun n c => 10 * n + digitValue c) n < (n + 1) * 10 ^ ds.length := by
    induction ds with
    | nil => simp
    | cons c ds ih =>
      intro n
      have hc := digitValue_lt c
      calc ds.foldl (fun n c => 10 * n + digitValue c) (10 * n + digitValue c)
          < (10 * n + digitValue c + 1) * 10 ^ ds.length := ih _
        _ ≤ (10 * (n + 1)) * 10 ^ ds.length := Nat.mul_le_mul_right _ (by omega)
        _ = (n + 1) * 10 ^ (ds.length + 1) := by rw [Nat.pow_succ']; ac_rfl
  simpa using hfrom 0

theorem isDigit_iff_ascii {c : Char} : c.isDigit = true ↔ '0' ≤ c ∧ c ≤ '9' := by
  rw [Char.isDigit, Bool.and_eq_true, decide_eq_true_eq, decide_eq_true_eq]
  rfl

theorem isDigit_ascii {c : Char} (h : c.isDigit = true) : isDigit c = true := by
  rw [isDigit, digitValue?_ascii (isDigit_iff_ascii.1 h)]
  rfl

theorem digitsValue_ascii {ds : List Char} (h : ∀ c ∈ ds, '0' ≤ c ∧ c ≤ '9') :
    digitsValue ds = Nat.ofDigitChars 10 ds 0 := by
  rw [digitsValue, Nat.ofDigitChars_eq_foldl]
  -- from any number on, since each digit adds to what was read before it
  generalize 0 = n
  induction ds generalizing n with
  | nil => rfl
  | cons c ds ih =>
    have hc := digitValue?_ascii (h c (by simp))
    rw [List.foldl_cons, List.foldl_cons, ih (fun d hd => h d (by simp [hd])), digitValue, hc]
    rfl

end DataPortal.Text
