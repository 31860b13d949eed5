import DataPortal.Proofs.FilterText.Literal
import DataPortal.Proofs.Number.ShortestText
import DataPortal.Query.Token
/-!
# Tokens of numbers

A number stands in a query in plain notation, with exactly its value: a whole number, a decimal
number with all its places, and a floating point number as the whole number that it is or else as
the shortest decimal that it is written as. A whole number is also read from its token.
-/
namespace DataPortal.Query

/-! ## Whole numbers -/

/-- The digits of a whole number as a literal. -/
def intDigits (n : ℤ) : FilterText.Digits where
  negative := decide (n < 0)
  digits := Text.digits n.natAbs
  some_digit := Nat.toDigits_ne_nil
  all_digits := fun _ hc => Text.isDigit_iff_ascii.1 (Text.isDigit_of_mem_digits hc)

theorem spelling_intDigits (n : ℤ) : (intDigits n).spelling = Value.intText n := by
  rw [FilterText.Digits.spelling, Value.intText, intDigits]
  exact if_congr decide_eq_true_iff rfl rfl

theorem value_intDigits (n : ℤ) : (intDigits n).value = n := by
  have hdigits : Nat.ofDigitChars 10 (intDigits n).digits 0 = n.natAbs :=
    Nat.ofDigitChars_ten_toDigits
  rw [FilterText.Digits.value, hdigits]
  by_cases h : n < 0
  · have hnegative : (intDigits n).negative = true := decide_eq_true h
    rw [if_pos hnegative]
    omega
  · have hnegative : (intDigits n).negative = false := decide_eq_false h
    rw [hnegative, if_neg Bool.false_ne_true]
    omega

/-- A whole number is read from its text, if that can be written. -/
theorem parseValue_intText {n : ℤ} (h : Value.isWritable n = true) :
    FilterText.parseValue (Value.intText n) = .ok (.int n) := by
  have hread := FilterText.parseValue_spelling (.integer (intDigits n))
  have hshort : (FilterText.Literal.integer (intDigits n)).isTooLong = false := by
    rw [Value.isWritable, decide_eq_true_eq] at h
    rw [FilterText.Literal.isTooLong, decide_eq_false_iff_not, Nat.not_lt]
    exact h
  rwa [FilterText.Literal.outcome, hshort, if_neg Bool.false_ne_true, FilterText.Literal.value,
    value_intDigits, FilterText.Literal.spelling, spelling_intDigits] at hread

theorem token_int_of_isWritable {n : ℤ} (h : Value.isWritable n = true) :
    token (.int n) = .ok (Value.intText n) := by
  rw [token, intToken, Value.intText?, if_pos h]

/-- A whole number of too many digits has no token. -/
theorem token_int_of_le {n : ℤ} (h : 10 ^ Text.maxDigits ≤ n.natAbs) :
    token (.int n) = .error .badValue := by
  rw [token, intToken, Value.intText?, if_neg]
  rw [Value.isWritable_iff]
  exact Nat.not_lt.2 h

/-! ## Floating point numbers -/

section

variable (negative : Bool) (field : Fin 2047) (fraction : Fin (2 ^ 52))

/-- A floating point number that is whole is written as that whole number. -/
theorem floatToken_of_value?_eq {n : ℤ}
    (h : (Binary64.finite negative field fraction).value? = some (n : ℚ)) :
    floatToken (.finite negative field fraction) = Value.intText n := by
  have hwhole : (Binary64.finite negative field fraction).toInt? = some n := by
    rw [Binary64.toInt?, h, Option.bind_some]
    simp
  rw [floatToken, hwhole]

/-- Another one is written as its shortest decimal. -/
theorem floatToken_of_value?_ne
    (h : ∀ n : ℤ, (Binary64.finite negative field fraction).value? ≠ some (n : ℚ)) :
    floatToken (.finite negative field fraction) =
      Decimal.plain negative (Binary64.shortest field fraction).1
        (Binary64.shortest field fraction).2 := by
  have hwhole : (Binary64.finite negative field fraction).toInt? = none := by
    rw [Binary64.toInt?, Binary64.value?_finite, Option.bind_some]
    rw [Binary64.value?_finite] at h
    generalize signed negative (Binary64.magnitude field fraction) = q at h ⊢
    rw [if_neg]
    intro hden
    exact h q.num (congrArg some (Rat.coe_int_num_of_den_eq_one hden).symm)
  rw [floatToken, hwhole]

/-- A finite number is written in plain notation. -/
theorem exists_plainNumber_floatToken : ∃ p : PlainNumber,
    floatToken (.finite negative field fraction) = p.text ∧
      (∀ n : ℤ, (Binary64.finite negative field fraction).value? = some (n : ℚ) → p.value = n) ∧
      ((∀ n : ℤ, (Binary64.finite negative field fraction).value? ≠ some (n : ℚ)) →
        ∃ c e, (Binary64.finite negative field fraction).IsWrittenAs negative c e ∧
          p.value = Decimal.value negative c e) := by
  by_cases hwhole : ∃ n : ℤ, (Binary64.finite negative field fraction).value? = some (n : ℚ)
  · obtain ⟨n, hn⟩ := hwhole
    obtain ⟨p, htext, hvalue⟩ := Value.exists_plainNumber_intText n
    refine ⟨p, ?_, fun m hm => ?_, fun h => absurd hn (h n)⟩
    · rw [floatToken_of_value?_eq negative field fraction hn, htext]
    · rw [hvalue, ← Option.some_inj, ← hn, hm]
  · rw [not_exists] at hwhole
    obtain ⟨p, htext, hvalue⟩ := Decimal.exists_plainNumber negative
      (Binary64.shortest field fraction).1 (Binary64.shortest field fraction).2
    refine ⟨p, ?_, fun n hn => absurd hn (hwhole n), fun h => ?_⟩
    · rw [floatToken_of_value?_ne negative field fraction hwhole, htext]
    · exact ⟨_, _, Binary64.isWrittenAs_shortest negative field fraction h, hvalue⟩

end

/-- **Every number has a token in plain notation**, which denotes exactly the number, but for
whole numbers of too many digits, which have none. A floating point number counts as the whole
number that it is, or as the shortest decimal that is read as it. A whole number is read from its
token. -/
theorem number_tokens_exact :
    (∀ n : ℤ, n.natAbs < 10 ^ Text.maxDigits →
      ∃ p : PlainNumber, token (.int n) = .ok p.text ∧ p.value = n ∧
        FilterText.parseValue p.text = .ok (.int n)) ∧
    (∀ n : ℤ, 10 ^ Text.maxDigits ≤ n.natAbs → token (.int n) = .error .badValue) ∧
    (∀ negative c e, ∃ p : PlainNumber, token (.decimal (.finite negative c e)) = .ok p.text ∧
      p.value = Decimal.value negative c e) ∧
    ∀ negative field fraction, ∃ p : PlainNumber,
      token (.float (.finite negative field fraction)) = .ok p.text ∧
        (∀ n : ℤ, (Binary64.finite negative field fraction).value? = some (n : ℚ) →
          p.value = n) ∧
        ((∀ n : ℤ, (Binary64.finite negative field fraction).value? ≠ some (n : ℚ)) →
          ∃ c e, (Binary64.finite negative field fraction).IsWrittenAs negative c e ∧
            p.value = Decimal.value negative c e) := by
  refine ⟨fun n hn => ?_, fun n hn => token_int_of_le hn, fun negative c e => ?_,
    fun negative field fraction => ?_⟩
  · have hwritable := (Value.isWritable_iff n).2 hn
    obtain ⟨p, htext, hvalue⟩ := Value.exists_plainNumber_intText n
    refine ⟨p, ?_, hvalue, ?_⟩
    · rw [token_int_of_isWritable hwritable, htext]
    · rw [← htext, parseValue_intText hwritable]
  · obtain ⟨p, htext, hvalue⟩ := Decimal.exists_plainNumber negative c e
    exact ⟨p, by rw [token, decimalToken, htext], hvalue⟩
  · obtain ⟨p, htext, hvalue⟩ := exists_plainNumber_floatToken negative field fraction
    exact ⟨p, by rw [token, htext], hvalue⟩

/-- The first whole number that is too long. -/
theorem power_of_ten_has_no_token :
    token (.int (10 ^ Text.maxDigits)) = .error .badValue ∧
      ∀ p : PlainNumber, token (.int (10 ^ Text.maxDigits)) ≠ .ok p.text := by
  have hsize : ∀ k, ((10 : ℤ) ^ k).natAbs = 10 ^ k := fun k => Int.natAbs_pow 10 k
  have hnone : token (.int (10 ^ Text.maxDigits)) = .error .badValue :=
    token_int_of_le (hsize Text.maxDigits).ge
  refine ⟨hnone, fun p hp => ?_⟩
  rw [hnone] at hp
  cases hp

/-- A half is written as its shortest decimal, a great power of two as a whole number, which is
read as minus seven is. -/
theorem half_and_power_of_two_exact :
    (∃ p c e, token (.float (.finite false 1022 0)) = .ok (PlainNumber.text p) ∧
      (Binary64.finite false 1022 0).IsWrittenAs false c e ∧
      p.value = Decimal.value false c e) ∧
    (∃ p, token (.float (.finite false 1123 0)) = .ok (PlainNumber.text p) ∧
      p.value = (2 ^ 100 : ℤ)) ∧
    ∃ p : PlainNumber, token (.int (-7)) = .ok p.text ∧ p.value = (-7 : ℤ) ∧
      FilterText.parseValue p.text = .ok (.int (-7)) := by
  obtain ⟨hint, -, -, hfloat⟩ := number_tokens_exact
  refine ⟨?_, ?_, hint (-7) ?_⟩
  · obtain ⟨p, htoken, -, hvalue⟩ := hfloat false 1022 0
    have hhalf : (Binary64.finite false 1022 0).value? = some (1 / 2) := by decide +kernel
    have hfraction : ∀ n : ℤ, (Binary64.finite false 1022 0).value? ≠ some (n : ℚ) := by
      intro n hn
      have hden := congrArg Rat.den (Option.some.inj (hhalf.symm.trans hn))
      rw [Rat.den_intCast] at hden
      exact absurd hden (by decide +kernel)
    obtain ⟨c, e, hwritten, hp⟩ := hvalue hfraction
    exact ⟨p, c, e, htoken, hwritten, hp⟩
  · obtain ⟨p, htoken, hvalue, -⟩ := hfloat false 1123 0
    have hpower : (Binary64.finite false 1123 0).value? = some ((2 ^ 100 : ℤ) : ℚ) := by
      decide +kernel
    exact ⟨p, htoken, hvalue _ hpower⟩
  · calc (-7 : ℤ).natAbs < 10 := by decide
      _ ≤ 10 ^ Text.maxDigits := Nat.le_self_pow (by decide) 10

end DataPortal.Query
