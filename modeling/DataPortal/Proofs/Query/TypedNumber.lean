import DataPortal.Proofs.FilterText.Answering
import DataPortal.Proofs.Query.NumberToken
/-!
# Numbers on their way from a text to a query

A number in a text is read as a whole number, or rounded to a floating point number. The token of
what is read is in plain notation again, but a number that is too great to be rounded to a finite
one is read as infinite, and of that the token is the one for values without any.
-/
namespace DataPortal

/-- A whole or a floating point number. -/
def Value.IsNumber : Value → Prop
  | .int _ | .float _ => True
  | _ => False

/-- The size of a number as it is written. -/
def Numeral.size (n : Numeral) : ℚ :=
  n.coefficient * 10 ^ n.lastPlace

/-- Whether a numeral is read as a finite number: it has digits alone, or it is rounded to one. -/
def Numeral.Fits (n : Numeral) : Prop :=
  n.isWhole = true ∨ n.size < Binary64.overflowBound

namespace FilterText

variable {s : List Char} {v : Value}

theorem not_isNumber_of_quotedText {mark : Char} (h : quotedText mark s = .ok v) :
    ¬v.IsNumber := by
  rw [quotedText] at h
  cases hcheck : checkDate (unquote mark s) with
  | error e =>
    rw [hcheck] at h
    cases h
  | ok u =>
    rw [hcheck] at h
    cases h
    exact id

/-- What is read as a number is a numeral, and not too long. -/
theorem read?_of_bareText (h : bareText s = .ok v) (hnumber : v.IsNumber) :
    ∃ n, Numeral.read? s = some n ∧ n.isTooLong = false ∧
      v = if n.isWhole then .int n.toInt else .float n.toBinary64 := by
  rw [bareText] at h
  cases hread : Numeral.read? s with
  | some n =>
    rw [hread] at h
    dsimp only at h
    rw [numberOf] at h
    cases hlong : n.isTooLong with
    | true =>
      rw [hlong] at h
      cases h
    | false =>
      rw [hlong] at h
      exact ⟨n, rfl, hlong, (Except.ok.inj h).symm⟩
  | none =>
    rw [hread] at h
    dsimp only at h
    split at h
    · cases h
    · cases h
      exact hnumber.elim

theorem read?_of_parseValue (h : parseValue s = .ok v) (hnumber : v.IsNumber) :
    ∃ n, Numeral.read? (Text.strip s) = some n ∧ n.isTooLong = false ∧
      v = if n.isWhole then .int n.toInt else .float n.toBinary64 := by
  rw [parseValue, parseTrimmed] at h
  split at h
  · cases h
    exact hnumber.elim
  · split at h
    · cases h
      exact hnumber.elim
    · split at h
      · cases h
        exact hnumber.elim
      · split at h
        · exact absurd hnumber (not_isNumber_of_quotedText h)
        · exact absurd hnumber (not_isNumber_of_quotedText h)
        · exact read?_of_bareText h hnumber

end FilterText

namespace Query

/-- The token of values without any is not in plain notation. -/
theorem text_ne_unknownToken (p : PlainNumber) : p.text ≠ unknownToken := by
  intro h
  have hunknown : unknownToken = "%22unknown%22".toList := by rfl
  obtain ⟨c, ds, hds⟩ := List.exists_cons_of_ne_nil p.some_whole
  have hc : c.isDigit = true := p.all_digits c (by simp [hds])
  rw [hunknown, PlainNumber.text, hds] at h
  cases hnegative : p.negative with
  | true =>
    rw [hnegative] at h
    exact absurd (List.cons.inj h).1 (by decide)
  | false =>
    rw [hnegative] at h
    rw [(List.cons.inj h).1] at hc
    exact absurd hc (by decide)

/-- A numeral that does not fit is read as infinite. -/
theorem toBinary64_eq_infinite_iff (n : Numeral) :
    n.toBinary64 = .infinite n.negative ↔ ¬n.size < Binary64.overflowBound := by
  rw [Numeral.toBinary64, Binary64.ofDecimal_eq_infinite_iff, not_lt, Numeral.size]

/-- The token of a numeral that is read. -/
theorem token_of_numeral {n : Numeral} (hshort : n.isTooLong = false) :
    ∃ t, token (if n.isWhole then .int n.toInt else .float n.toBinary64) = .ok t ∧
      (n.Fits → ∃ p : PlainNumber, t = p.text) ∧ (¬n.Fits → t = unknownToken) := by
  by_cases hwhole : n.isWhole = true
  · obtain ⟨p, htext, -⟩ := Value.exists_plainNumber_intText n.toInt
    rw [if_pos hwhole, token_int_of_isWritable (FilterText.isWritable_toInt hwhole hshort)]
    exact ⟨_, rfl, fun _ => ⟨p, htext⟩, fun h => absurd (.inl hwhole) h⟩
  · rw [if_neg hwhole]
    refine ⟨_, rfl, fun hfits => ?_, fun hfits => ?_⟩
    · have hfinite : n.toBinary64 ≠ .infinite n.negative := by
        rw [Ne, toBinary64_eq_infinite_iff, not_not]
        exact hfits.resolve_left hwhole
      obtain ⟨field, fraction, hx⟩ :=
        (Binary64.ofDecimal_cases n.negative n.coefficient n.lastPlace).resolve_left hfinite
      obtain ⟨p, htext, -⟩ := exists_plainNumber_floatToken n.negative field fraction
      exact ⟨p, by rw [Numeral.toBinary64, hx, htext]⟩
    · have hinfinite : n.toBinary64 = .infinite n.negative := by
        rw [toBinary64_eq_infinite_iff]
        exact fun h => hfits (.inr h)
      rw [hinfinite]
      rfl

/-- **A number that is read has a token in plain notation just if it fits**: if it is written in
digits alone, or is not so great that it is rounded to infinity. Any other one becomes the token
for values without any. -/
theorem typed_number_plain_iff {s : List Char} {v : Value}
    (hparse : FilterText.parseValue s = .ok v) (hnumber : v.IsNumber) :
    ∃ n t, Numeral.read? (Text.strip s) = some n ∧ token v = .ok t ∧
      ((∃ p : PlainNumber, t = p.text) ↔ n.Fits) ∧ (t = unknownToken ↔ ¬n.Fits) := by
  obtain ⟨n, hread, hshort, rfl⟩ := FilterText.read?_of_parseValue hparse hnumber
  obtain ⟨t, ht, hplain, hunknown⟩ := token_of_numeral hshort
  refine ⟨n, t, hread, ht, ⟨?_, hplain⟩, ⟨?_, hunknown⟩⟩
  · rintro ⟨p, rfl⟩
    by_contra hfits
    exact text_ne_unknownToken p (hunknown hfits)
  · rintro rfl hfits
    obtain ⟨p, hp⟩ := hplain hfits
    exact text_ne_unknownToken p hp.symm

/-- A half below zero, in exponent notation. -/
theorem minus_half_plain :
    FilterText.parseValue " -5e-1".toList = .ok (.float (.finite true 1022 0)) ∧
      (Value.float (.finite true 1022 0)).IsNumber ∧
      ∃ p : PlainNumber, token (.float (.finite true 1022 0)) = .ok p.text := by
  have hparse : FilterText.parseValue " -5e-1".toList = .ok (.float (.finite true 1022 0)) := by
    rfl
  refine ⟨hparse, trivial, ?_⟩
  obtain ⟨n, t, hread, ht, hplain, -⟩ := typed_number_plain_iff hparse trivial
  have hn : Numeral.read? (Text.strip " -5e-1".toList) =
      some ⟨true, ['5'], none, some (true, ['1'])⟩ := by rfl
  cases hn.symm.trans hread
  have hsize : Numeral.size ⟨true, ['5'], none, some (true, ['1'])⟩ < Binary64.overflowBound := by
    calc Numeral.size ⟨true, ['5'], none, some (true, ['1'])⟩ = (5 : ℕ) * 10 ^ (-1 : ℤ) := rfl
      _ < 2 ^ 54 - 1 := by norm_num
      _ ≤ Binary64.overflowBound :=
        le_mul_of_one_le_right (by norm_num) (one_le_zpow₀ (by norm_num) (by norm_num))
  obtain ⟨p, rfl⟩ := hplain.2 (.inr hsize)
  exact ⟨p, ht⟩

/-- A power of ten that is read as infinite. -/
theorem great_power_of_ten_unknown :
    FilterText.parseValue "1e309".toList = .ok (.float (.infinite false)) ∧
      token (.float (.infinite false)) = .ok unknownToken ∧
      ¬∃ p : PlainNumber, unknownToken = p.text := by
  have hread : FilterText.parseValue "1e309".toList =
      .ok (.float (Binary64.ofDecimal false 1 309)) := by rfl
  have hinfinite : Binary64.ofDecimal false 1 309 = .infinite false := by decide +kernel
  refine ⟨by rw [hread, hinfinite], rfl, ?_⟩
  rintro ⟨p, hp⟩
  exact text_ne_unknownToken p hp.symm

end Query
end DataPortal
