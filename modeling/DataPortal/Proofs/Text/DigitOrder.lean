import DataPortal.Proofs.Text.Digits
/-!
# The order of digits

Runs of digits of one length are in the order of the numbers that they denote, and texts that
begin with such runs are in the order of these first.
-/
namespace DataPortal.Text

/-- Of texts that begin with parts of one length, these parts decide first. -/
theorem append_lt_append_iff {a b : List Char} (h : a.length = b.length) (s t : List Char) :
    a ++ s < b ++ t ↔ a < b ∨ a = b ∧ s < t := by
  induction a generalizing b with
  | nil =>
    obtain rfl : b = [] := List.length_eq_zero_iff.1 h.symm
    simp
  | cons c a ih =>
    cases b with
    | nil => simp at h
    | cons d b =>
      have hrest := @ih b (by simpa using h)
      simp only [List.cons_append, List.cons_lt_cons_iff, hrest, List.cons.injEq]
      grind

/-- The values of two digits are in their order. -/
theorem digit_lt_iff {c d : Char} (hc : c.isDigit = true) (hd : d.isDigit = true) :
    c < d ↔ c.toNat - '0'.toNat < d.toNat - '0'.toNat := by
  have hlow : 48 ≤ c.toNat := (isDigit_iff_ascii.1 hc).1
  have hlow' : 48 ≤ d.toNat := (isDigit_iff_ascii.1 hd).1
  have hzero : '0'.toNat = 48 := rfl
  have hlt : c < d ↔ c.toNat < d.toNat := Iff.rfl
  rw [hlt, hzero]
  omega

theorem digit_value_lt {c : Char} (h : c.isDigit = true) : c.toNat - '0'.toNat < 10 := by
  have hhigh : c.toNat ≤ 57 := (isDigit_iff_ascii.1 h).2
  have hzero : '0'.toNat = 48 := rfl
  omega

/-- The first digit of a run counts as many times as there are numbers in the rest. -/
theorem ofDigitChars_first (c : Char) (ds : List Char) :
    Nat.ofDigitChars 10 (c :: ds) 0 =
      10 ^ ds.length * (c.toNat - '0'.toNat) + Nat.ofDigitChars 10 ds 0 := by
  rw [Nat.ofDigitChars_cons, Nat.ofDigitChars_eq_ofDigitChars_zero, Nat.mul_zero, Nat.zero_add]

/-- A run of digits denotes less than the least number with one more. -/
theorem ofDigitChars_lt {ds : List Char} (h : ∀ c ∈ ds, c.isDigit = true) :
    Nat.ofDigitChars 10 ds 0 < 10 ^ ds.length := by
  induction ds with
  | nil => decide
  | cons c ds ih =>
    have hc := digit_value_lt (h c (by simp))
    have hrest := ih fun d hd => h d (by simp [hd])
    rw [ofDigitChars_first, List.length_cons, Nat.pow_succ]
    have := Nat.mul_le_mul_left (10 ^ ds.length) (show c.toNat - '0'.toNat ≤ 9 by omega)
    omega

/-- The greater place decides, unless it is the same. -/
theorem place_lt_iff {base m n x y : Nat} (hx : x < base) (hy : y < base) :
    base * m + x < base * n + y ↔ m < n ∨ m = n ∧ x < y := by
  rcases Nat.lt_trichotomy m n with hlt | rfl | hgt
  · have := Nat.mul_le_mul_left base (show m + 1 ≤ n from hlt)
    rw [Nat.mul_succ] at this
    simp only [hlt, true_or, iff_true]
    omega
  · simp
  · have := Nat.mul_le_mul_left base (show n + 1 ≤ m from hgt)
    rw [Nat.mul_succ] at this
    omega

/-- **Runs of digits of one length are in the order of their numbers.** -/
theorem digits_lt_iff {a b : List Char} (hlength : a.length = b.length)
    (ha : ∀ c ∈ a, c.isDigit = true) (hb : ∀ c ∈ b, c.isDigit = true) :
    a < b ↔ Nat.ofDigitChars 10 a 0 < Nat.ofDigitChars 10 b 0 := by
  induction a generalizing b with
  | nil =>
    obtain rfl : b = [] := List.length_eq_zero_iff.1 hlength.symm
    simp
  | cons c a ih =>
    cases b with
    | nil => simp at hlength
    | cons d b =>
      have hlength : a.length = b.length := by simpa using hlength
      have hc := ha c (by simp)
      have hd := hb d (by simp)
      have ha : ∀ c ∈ a, c.isDigit = true := fun x hx => ha x (by simp [hx])
      have hb : ∀ c ∈ b, c.isDigit = true := fun x hx => hb x (by simp [hx])
      have hrest := ofDigitChars_lt ha
      have hrest' := ofDigitChars_lt hb
      have hsame : c = d ↔ c.toNat - '0'.toNat = d.toNat - '0'.toNat := by
        have hlt := digit_lt_iff hc hd
        have hgt := digit_lt_iff hd hc
        grind
      rw [hlength] at hrest
      rw [List.cons_lt_cons_iff, ih hlength ha hb, digit_lt_iff hc hd, hsame, ofDigitChars_first,
        ofDigitChars_first, hlength, place_lt_iff hrest hrest']

/-! ## Digits with zeros in front -/

theorem length_digits_le_iff {n width : Nat} (h : 0 < width) :
    (digits n).length ≤ width ↔ n < 10 ^ width :=
  Nat.length_toDigits_le_iff (by decide) h

theorem length_paddedDigits_of_lt {width n : Nat} (hwidth : 0 < width) (h : n < 10 ^ width) :
    (paddedDigits width n).length = width := by
  rw [length_paddedDigits, Nat.max_eq_left ((length_digits_le_iff hwidth).2 h)]

/-- Numbers that fit into a width stand in their order. -/
theorem paddedDigits_append_lt_iff {width m n : Nat} (hwidth : 0 < width) (hm : m < 10 ^ width)
    (hn : n < 10 ^ width) (s t : List Char) :
    paddedDigits width m ++ s < paddedDigits width n ++ t ↔ m < n ∨ m = n ∧ s < t := by
  have hlength : (paddedDigits width m).length = (paddedDigits width n).length := by
    rw [length_paddedDigits_of_lt hwidth hm, length_paddedDigits_of_lt hwidth hn]
  have horder : paddedDigits width m < paddedDigits width n ↔ m < n := by
    rw [digits_lt_iff hlength (fun _ => isDigit_of_mem_paddedDigits)
      (fun _ => isDigit_of_mem_paddedDigits), ofDigitChars_paddedDigits, ofDigitChars_paddedDigits]
  have hsame : paddedDigits width m = paddedDigits width n ↔ m = n := by
    constructor
    · intro h
      rw [← ofDigitChars_paddedDigits width m, h, ofDigitChars_paddedDigits]
    · rintro rfl
      rfl
  rw [append_lt_append_iff hlength, horder, hsame]

end DataPortal.Text
