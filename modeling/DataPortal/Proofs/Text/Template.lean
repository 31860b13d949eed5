import DataPortal.Proofs.Number.Numeral
import DataPortal.Proofs.Text.DigitOrder
import DataPortal.Proofs.Text.Trimming
import DataPortal.Text.Template
/-!
# Texts of a shape

A template takes a text apart: each run of marks stands for as many digits, and a sign for itself.
A run of digits `0` to `9` is what its number is written as in that many digits.
-/
namespace DataPortal.Text

/-- At least and at most so many decimal digits, of any scripts. -/
structure IsDigits (least most : Nat) (ds : List Char) : Prop where
  le_length : least ≤ ds.length
  length_le : ds.length ≤ most
  isDigit : ∀ c ∈ ds, isDigit c = true

variable {template s rest : List Char}

theorem IsDigits.length_eq {n : Nat} {ds : List Char} (h : IsDigits n n ds) : ds.length = n :=
  Nat.le_antisymm h.length_le h.le_length

/-! ## Templates -/

theorem takeTemplate?_length (h : takeTemplate? template s = some rest) :
    s.length = template.length + rest.length := by
  induction template generalizing s with
  | nil =>
    cases h
    simp
  | cons p template ih =>
    cases s with
    | nil => cases h
    | cons c s =>
      rw [takeTemplate?] at h
      by_cases hc : (if p = '#' then isDigit c else p == c) = true
      · rw [if_pos hc] at h
        have := ih h
        simp only [List.length_cons]
        omega
      · rw [if_neg hc] at h
        cases h

theorem takeTemplate?_append (t t' s : List Char) :
    takeTemplate? (t ++ t') s = (takeTemplate? t s).bind (takeTemplate? t') := by
  induction t generalizing s with
  | nil => rfl
  | cons p t ih =>
    cases s with
    | nil => rfl
    | cons c s =>
      rw [List.cons_append, takeTemplate?, takeTemplate?, ih]
      by_cases hc : (if p = '#' then isDigit c else p == c) = true
      · rw [if_pos hc, if_pos hc]
      · rw [if_neg hc, if_neg hc]
        rfl

/-- A run of digits has the shape of as many marks. -/
theorem takeTemplate?_digits {ds : List Char} (h : ∀ c ∈ ds, isDigit c = true)
    (template s : List Char) :
    takeTemplate? (List.replicate ds.length '#' ++ template) (ds ++ s) =
      takeTemplate? template s := by
  induction ds with
  | nil => rfl
  | cons c ds ih =>
    have hc := h c (by simp)
    simp [List.replicate_succ, takeTemplate?, hc, ih fun d hd => h d (by simp [hd])]

theorem takeTemplate?_paddedDigits (width : Nat) {n : Nat} (hwidth : 0 < width)
    (hn : n < 10 ^ width) (template s : List Char) :
    takeTemplate? (List.replicate width '#' ++ template) (paddedDigits width n ++ s) =
      takeTemplate? template s := by
  have hrun := takeTemplate?_digits
    (fun c (hc : c ∈ paddedDigits width n) => isDigit_ascii (isDigit_of_mem_paddedDigits hc))
    template s
  rwa [length_paddedDigits_of_lt hwidth hn] at hrun

/-- Some marks in front take as many digits. -/
theorem takeTemplate?_run_iff (n : Nat) :
    takeTemplate? (List.replicate n '#' ++ template) s = some rest ↔
      ∃ ds s', s = ds ++ s' ∧ IsDigits n n ds ∧ takeTemplate? template s' = some rest := by
  constructor
  · intro h
    induction n generalizing s with
    | zero => exact ⟨[], s, rfl, ⟨Nat.le_refl 0, Nat.le_refl 0, by simp⟩, h⟩
    | succ n ih =>
      cases s with
      | nil => cases h
      | cons c s =>
        rw [List.replicate_succ, List.cons_append, takeTemplate?, if_pos rfl] at h
        by_cases hc : isDigit c = true
        · rw [if_pos hc] at h
          obtain ⟨ds, s', rfl, hds, hrest⟩ := ih h
          have hlength : (c :: ds).length = n + 1 := by rw [List.length_cons, hds.length_eq]
          refine ⟨c :: ds, s', rfl, ⟨Nat.le_of_eq hlength.symm, Nat.le_of_eq hlength, ?_⟩, hrest⟩
          exact List.forall_mem_cons.2 ⟨hc, hds.isDigit⟩
        · rw [if_neg hc] at h
          cases h
  · rintro ⟨ds, s', rfl, hds, hrest⟩
    rw [← hds.length_eq, takeTemplate?_digits hds.isDigit, hrest]

/-- A sign in front takes itself. -/
theorem takeTemplate?_sign_iff {p : Char} (hp : p ≠ '#') :
    takeTemplate? (p :: template) s = some rest ↔
      ∃ s', s = p :: s' ∧ takeTemplate? template s' = some rest := by
  cases s with
  | nil => simp [takeTemplate?]
  | cons c s =>
    rw [takeTemplate?, if_neg hp]
    by_cases hc : p = c
    · subst hc
      simp
    · simp [hc, Ne.symm hc]

/-- Taking digits off takes a whole run of them off. -/
theorem takeDigits?_eq_some_iff {least most : Nat} :
    takeDigits? least most s = some rest ↔
      ∃ run, s = run ++ rest ∧ IsDigits least most run ∧ StopsRun isDigit rest := by
  rw [takeDigits?]
  constructor
  · intro h
    split at h
    · rename_i hlength
      cases h
      refine ⟨s.takeWhile isDigit, List.takeWhile_append_dropWhile.symm,
        ⟨hlength.1, hlength.2, List.all_eq_true.1 List.all_takeWhile⟩, ?_⟩
      intro c hc
      have hhead := List.head?_dropWhile_not isDigit s
      rwa [hc] at hhead
    · cases h
  · rintro ⟨run, rfl, hrun, hstops⟩
    rw [takeWhile_run hrun.isDigit hstops, dropWhile_run hrun.isDigit hstops,
      if_pos ⟨hrun.le_length, hrun.length_le⟩]

theorem isAtEnd_iff : isAtEnd s = true ↔ s = [] ∨ s = ['\n'] := by
  rw [isAtEnd, Bool.or_eq_true, beq_iff_eq, beq_iff_eq]

/-- A text does not go on with a digit where it ends. -/
theorem stopsRun_of_isAtEnd (h : isAtEnd s = true) : StopsRun isDigit s := by
  rcases isAtEnd_iff.1 h with rfl | rfl
  · rintro c ⟨⟩
  · rintro c ⟨⟩
    rfl

/-! ## The digits `0` to `9` -/

theorem isDigit_of_ascii {c : Char} (h : isDigit c = true) (hc : c.toNat < 128) :
    c.isDigit = true := by
  have hascii :=
    of_isDigit (p := fun c => decide (128 ≤ c.toNat) || c.isDigit) (by decide +kernel) h
  rw [Bool.or_eq_true, decide_eq_true_eq] at hascii
  exact hascii.resolve_left (by omega)

/-- A run of digits is the only one of its length for its number. -/
theorem paddedDigits_ofDigitChars {ds : List Char} (h : ∀ c ∈ ds, c.isDigit = true)
    (hne : ds ≠ []) : paddedDigits ds.length (Nat.ofDigitChars 10 ds 0) = ds := by
  have hlength : (paddedDigits ds.length (Nat.ofDigitChars 10 ds 0)).length = ds.length :=
    length_paddedDigits_of_lt (List.length_pos_iff.2 hne) (ofDigitChars_lt h)
  have hpadded : ∀ c ∈ paddedDigits ds.length (Nat.ofDigitChars 10 ds 0), c.isDigit = true :=
    fun _ => isDigit_of_mem_paddedDigits
  -- neither of the two comes before the other, since they denote one number
  have hlt := digits_lt_iff hlength hpadded h
  have hgt := digits_lt_iff hlength.symm h hpadded
  rw [ofDigitChars_paddedDigits] at hlt hgt
  apply List.le_antisymm
  · intro hcontra
    exact absurd (hgt.1 hcontra) (Nat.lt_irrefl _)
  · intro hcontra
    exact absurd (hlt.1 hcontra) (Nat.lt_irrefl _)

theorem digitsValue_paddedDigits (width n : Nat) : digitsValue (paddedDigits width n) = n := by
  rw [digitsValue_ascii, ofDigitChars_paddedDigits]
  intro c hc
  exact isDigit_iff_ascii.1 (isDigit_of_mem_paddedDigits hc)

end DataPortal.Text
