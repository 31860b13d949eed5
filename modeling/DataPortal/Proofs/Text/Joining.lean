import DataPortal.Text.Blank
import DataPortal.Value.Display
/-!
# Texts with a separator between them

Joined texts are taken apart at the separator after the first of them or before the last. Texts
without a character are what is left between it when they were joined by it.
-/
namespace DataPortal.Text

variable {separator : List Char} {ss : List (List Char)}

theorem joinWith_cons (separator s : List Char) (h : ss ≠ []) :
    joinWith separator (s :: ss) = s ++ separator ++ joinWith separator ss := by
  cases ss with
  | nil => exact absurd rfl h
  | cons t ss => rfl

theorem joinWith_append_singleton (separator e : List Char) (h : ss ≠ []) :
    joinWith separator (ss ++ [e]) = joinWith separator ss ++ separator ++ e := by
  induction ss with
  | nil => exact absurd rfl h
  | cons s ss ih =>
    by_cases hss : ss = []
    · subst hss
      rfl
    · rw [List.cons_append, joinWith_cons separator s (by simp), joinWith_cons separator s hss,
        ih hss]
      simp only [List.append_assoc]

/-- A character of joined texts is in the separator or in one of them. -/
theorem mem_joinWith {c : Char} (h : c ∈ joinWith separator ss) :
    c ∈ separator ∨ ∃ s ∈ ss, c ∈ s := by
  induction ss with
  | nil => cases h
  | cons s ss ih =>
    by_cases hss : ss = []
    · subst hss
      exact .inr ⟨s, by simp, h⟩
    · rw [joinWith_cons separator s hss, List.mem_append, List.mem_append] at h
      rcases h with (h | h) | h
      · exact .inr ⟨s, by simp, h⟩
      · exact .inl h
      · rcases ih h with h | ⟨u, hu, h⟩
        · exact .inl h
        · exact .inr ⟨u, List.mem_cons_of_mem _ hu, h⟩

theorem mem_joinWith_of_mem (separator : List Char) {s : List Char} {c : Char} (hs : s ∈ ss)
    (hc : c ∈ s) : c ∈ joinWith separator ss := by
  induction ss with
  | nil => cases hs
  | cons t ss ih =>
    by_cases hss : ss = []
    · subst hss
      rw [List.mem_singleton] at hs
      rwa [hs] at hc
    · rw [joinWith_cons separator t hss, List.append_assoc, List.mem_append, List.mem_append]
      rcases List.mem_cons.1 hs with rfl | hs
      · exact .inl hc
      · exact .inr (.inr (ih hs))

/-! ## Cutting joined texts -/

theorem pieces_of_none {α : Type} {separates : α → Bool} {s : List α}
    (h : ∀ c ∈ s, separates c = false) : pieces separates s = [s] := by
  induction s with
  | nil => rfl
  | cons c s ih =>
    have hc : separates c = false := h c (by simp)
    rw [pieces, if_neg (by simp [hc]), ih fun d hd => h d (by simp [hd])]

theorem pieces_append_cons {α : Type} {separates : α → Bool} {s : List α} {c : α}
    (h : ∀ d ∈ s, separates d = false) (hc : separates c = true) (rest : List α) :
    pieces separates (s ++ c :: rest) = s :: pieces separates rest := by
  induction s with
  | nil => simp [pieces, hc]
  | cons d s ih =>
    have hd : separates d = false := h d (by simp)
    rw [List.cons_append, pieces, if_neg (by simp [hd]), ih fun e he => h e (by simp [he])]

/-- Texts joined by a character that is in none of them are the pieces between it. -/
theorem pieces_joinWith {c : Char} (hne : ss ≠ []) (h : ∀ s ∈ ss, c ∉ s) :
    pieces (· == c) (joinWith [c] ss) = ss := by
  have hnone : ∀ s : List Char, c ∉ s → ∀ d ∈ s, (d == c) = false := by
    intro s hs d hd
    rw [beq_eq_false_iff_ne]
    rintro rfl
    exact hs hd
  induction ss with
  | nil => exact absurd rfl hne
  | cons s ss ih =>
    have hs := hnone s (h s (by simp))
    by_cases hss : ss = []
    · subst hss
      exact pieces_of_none hs
    · rw [joinWith_cons [c] s hss, List.append_assoc, List.singleton_append,
        pieces_append_cons hs (by simp), ih hss fun u hu => h u (by simp [hu])]

end DataPortal.Text
