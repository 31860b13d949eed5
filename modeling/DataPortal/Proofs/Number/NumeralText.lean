import DataPortal.Proofs.Number.Numeral
import DataPortal.Proofs.Text.Digits
/-!
# Numerals as they are written

A numeral that is written with a sign or none, digits, a point with further digits or none, and an
exponent or none is read as it was.
-/
namespace DataPortal.Numeral

/-- Nothing, or a point and the digits after it. -/
def pointText : Option (List Char) → List Char
  | none => []
  | some ds => '.' :: ds

/-- Nothing, or an exponent, which always has a sign. -/
def exponentText : Option (Bool × List Char) → List Char
  | none => []
  | some (negative, ds) => 'e' :: (if negative then '-' else '+') :: ds

def text (n : Numeral) : List Char :=
  (if n.negative then ['-'] else []) ++ n.whole ++ pointText n.fraction ++ exponentText n.exponent

/-- A numeral of the digits `0` to `9`, with some of them before the point and some in the
exponent. -/
structure IsWritten (n : Numeral) : Prop where
  some_whole : n.whole ≠ []
  whole_digits : ∀ c ∈ n.whole, c.isDigit = true
  fraction_digits : ∀ ds ∈ n.fraction, ∀ c ∈ ds, c.isDigit = true
  exponent_digits : ∀ e ∈ n.exponent, e.2 ≠ [] ∧ ∀ c ∈ e.2, c.isDigit = true

theorem readExponent?_text {e : Option (Bool × List Char)}
    (h : ∀ d ∈ e, d.2 ≠ [] ∧ ∀ c ∈ d.2, c.isDigit = true) :
    readExponent? (exponentText e) = some e := by
  cases e with
  | none => rfl
  | some e =>
    obtain ⟨negative, ds⟩ := e
    obtain ⟨hne, hdigits⟩ := h _ rfl
    have hsign : takeSign ((if negative then '-' else '+') :: ds) = (negative, ds) := by
      cases negative <;> rfl
    have hall : (!ds.isEmpty && ds.all Text.isDigit) = true := by
      rw [Bool.and_eq_true, List.all_eq_true]
      exact ⟨by simpa using hne, fun c hc => Text.isDigit_ascii (hdigits c hc)⟩
    rw [exponentText, readExponent?, if_pos (.inl rfl), hsign]
    exact if_pos hall

/-- Neither a point nor an exponent begins with a digit. -/
theorem stopsRun_exponentText (e : Option (Bool × List Char)) :
    Text.StopsRun Text.isDigit (exponentText e) := by
  cases e with
  | none => simp [Text.StopsRun, exponentText]
  | some e =>
    intro c hc
    cases hc
    rfl

theorem stopsRun_pointText (fraction : Option (List Char)) (e : Option (Bool × List Char)) :
    Text.StopsRun Text.isDigit (pointText fraction ++ exponentText e) := by
  cases fraction with
  | none => exact stopsRun_exponentText e
  | some ds =>
    intro c hc
    cases hc
    rfl

theorem takeSign_digit {c : Char} (h : c.isDigit = true) (s : List Char) :
    takeSign (c :: s) = (false, c :: s) := by
  unfold takeSign
  split
  · rename_i heq
    cases heq
    exact absurd h (by decide)
  · rename_i heq
    cases heq
    exact absurd h (by decide)
  · rfl

theorem takeSign_text {n : Numeral} (h : n.IsWritten) :
    takeSign n.text = (n.negative, n.whole ++ (pointText n.fraction ++ exponentText n.exponent)) := by
  rw [text, List.append_assoc, List.append_assoc]
  cases n.negative with
  | true => rfl
  | false =>
    obtain ⟨c, ds, hds⟩ := List.exists_cons_of_ne_nil h.some_whole
    rw [hds]
    exact takeSign_digit (h.whole_digits c (by simp [hds])) _

/-- **What is written as a numeral is read as it.** -/
theorem read?_text {n : Numeral} (h : n.IsWritten) : read? n.text = some n := by
  have hdigits : ∀ {ds : List Char}, (∀ c ∈ ds, c.isDigit = true) →
      ∀ c ∈ ds, Text.isDigit c = true := fun h c hc => Text.isDigit_ascii (h c hc)
  have hwhole := hdigits h.whole_digits
  have hrest := stopsRun_pointText n.fraction n.exponent
  have hexponent := readExponent?_text h.exponent_digits
  have hsome : n.whole.isEmpty = false := by simpa using h.some_whole
  rw [read?, takeSign_text h]
  dsimp only
  rw [Text.takeWhile_run hwhole hrest, Text.dropWhile_run hwhole hrest, hsome]
  obtain ⟨negative, whole, fraction, exponent⟩ := n
  dsimp only at hexponent ⊢
  cases fraction with
  | some ds =>
    have hds := hdigits (h.fraction_digits ds rfl)
    have hstop := stopsRun_exponentText exponent
    simp only [pointText, List.cons_append]
    rw [Text.takeWhile_run hds hstop, Text.dropWhile_run hds hstop, hexponent]
    rfl
  | none =>
    rw [pointText, List.nil_append]
    cases exponent with
    | none => rfl
    | some e =>
      rw [exponentText] at hexponent ⊢
      exact congrArg (Option.map fun exponent => (⟨negative, whole, none, exponent⟩ : Numeral))
        hexponent

end DataPortal.Numeral
