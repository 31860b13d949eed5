import DataPortal.Proofs.Text.Joining
import DataPortal.Proofs.Text.Trimming
/-!
# The words of a text

A text is cut at some of its characters into words, which are all that lies between them. What the
words are does not depend on how the text is cut (`nonemptyPieces_eq_iff`), and every character that
does not separate is in one of them.
-/
namespace DataPortal.Text

/-- A text has these words. Each has characters, none of which separates, and goes on to the next
character that does; what lies before and after the words only separates. -/
inductive HasWords {α : Type} (separates : α → Bool) : List α → List (List α) → Prop where
  | none {gap : List α} : (∀ c ∈ gap, separates c = true) → HasWords separates gap []
  | word {gap word rest : List α} {words : List (List α)} :
      (∀ c ∈ gap, separates c = true) → word ≠ [] → (∀ c ∈ word, separates c = false) →
      StopsRun (!separates ·) rest → HasWords separates rest words →
      HasWords separates (gap ++ (word ++ rest)) (word :: words)

variable {α : Type} {separates : α → Bool} {s : List α} {ws : List (List α)}

/-! ## Cutting -/

theorem nonemptyPieces_cons {c : α} (hc : separates c = true) (s : List α) :
    nonemptyPieces separates (c :: s) = nonemptyPieces separates s := by
  rw [nonemptyPieces, pieces, if_pos hc]
  rfl

/-- What separates at the front is in no word. -/
theorem nonemptyPieces_gap {gap : List α} (h : ∀ c ∈ gap, separates c = true) (s : List α) :
    nonemptyPieces separates (gap ++ s) = nonemptyPieces separates s := by
  induction gap with
  | nil => rfl
  | cons c gap ih =>
    rw [List.cons_append, nonemptyPieces_cons (h c (by simp)), ih fun d hd => h d (by simp [hd])]

/-- A run of other characters at the front is the first word. -/
theorem nonemptyPieces_word {word rest : List α} (hne : word ≠ [])
    (hword : ∀ c ∈ word, separates c = false) (hrest : StopsRun (!separates ·) rest) :
    nonemptyPieces separates (word ++ rest) = word :: nonemptyPieces separates rest := by
  have hkept : (!word.isEmpty) = true := by simp [hne]
  cases rest with
  | nil =>
    rw [List.append_nil, nonemptyPieces, pieces_of_none hword, List.filter_cons, if_pos hkept]
    rfl
  | cons c rest =>
    have hc : separates c = true := by simpa using hrest c rfl
    rw [nonemptyPieces_cons hc, nonemptyPieces, pieces_append_cons hword hc,
      List.filter_cons, if_pos hkept]
    rfl

theorem HasWords.nonemptyPieces_eq (h : HasWords separates s ws) :
    nonemptyPieces separates s = ws := by
  induction h with
  | @none gap hgap =>
    rw [← List.append_nil gap, nonemptyPieces_gap hgap]
    rfl
  | word hgap hne hword hstops _ ih =>
    rw [nonemptyPieces_gap hgap, nonemptyPieces_word hne hword hstops, ih]

/-! ## Every text has words -/

/-- One more character at the front is in the gap, in the first word, or is a word of its own. -/
theorem HasWords.exists_cons (h : HasWords separates s ws) (c : α) :
    ∃ ws', HasWords separates (c :: s) ws' := by
  by_cases hc : separates c = true
  · cases h with
    | none hgap => exact ⟨_, .none (List.forall_mem_cons.2 ⟨hc, hgap⟩)⟩
    | word hgap hne hword hstops hrest =>
      exact ⟨_, .word (List.forall_mem_cons.2 ⟨hc, hgap⟩) hne hword hstops hrest⟩
  · rw [Bool.not_eq_true] at hc
    have halone : StopsRun (!separates ·) s → ∃ ws', HasWords separates (c :: s) ws' := by
      intro hstops
      have hword : ∀ d ∈ [c], separates d = false := by simpa using hc
      exact ⟨_, .word (List.forall_mem_nil _) (List.cons_ne_nil c []) hword hstops h⟩
    -- the character goes on with the first word where no gap lies between them
    cases h with
    | @none gap hgap =>
      apply halone
      intro d hd
      simp [hgap d (List.mem_of_mem_head? hd)]
    | @word gap word rest words hgap hne hword hstops hrest =>
      cases gap with
      | nil =>
        exact ⟨_, .word (List.forall_mem_nil _) (List.cons_ne_nil c word)
          (List.forall_mem_cons.2 ⟨hc, hword⟩) hstops hrest⟩
      | cons d gap =>
        apply halone
        rintro _ ⟨⟩
        simp [hgap d (by simp)]

theorem exists_hasWords (separates : α → Bool) (s : List α) :
    ∃ ws, HasWords separates s ws := by
  induction s with
  | nil => exact ⟨[], .none (List.forall_mem_nil _)⟩
  | cons c s ih =>
    obtain ⟨ws, hws⟩ := ih
    exact hws.exists_cons c

/-- **Cutting a text gives its words**, and nothing else is the words of the text. -/
theorem nonemptyPieces_eq_iff :
    nonemptyPieces separates s = ws ↔ HasWords separates s ws := by
  constructor
  · rintro rfl
    obtain ⟨ws, hws⟩ := exists_hasWords separates s
    rwa [hws.nonemptyPieces_eq]
  · exact HasWords.nonemptyPieces_eq

/-! ## What is in the words -/

theorem not_separates_of_mem_nonemptyPieces {word : List α}
    (h : word ∈ nonemptyPieces separates s) : ∀ c ∈ word, separates c = false :=
  not_separates_of_mem_pieces (List.mem_filter.1 h).1

/-- A character that does not separate is in some word. -/
theorem HasWords.exists_mem (h : HasWords separates s ws) {c : α} (hc : c ∈ s)
    (hword : separates c = false) : ∃ word ∈ ws, c ∈ word := by
  induction h with
  | none hgap =>
    rw [hgap c hc] at hword
    cases hword
  | word hgap _ _ _ _ ih =>
    rcases List.mem_append.1 hc with hc | hc
    · rw [hgap c hc] at hword
      cases hword
    · rcases List.mem_append.1 hc with hc | hc
      · exact ⟨_, List.mem_cons_self, hc⟩
      · obtain ⟨word, hmem, hc⟩ := ih hc
        exact ⟨word, List.mem_cons_of_mem _ hmem, hc⟩

/-- Where two classes of characters do not differ in a text, they cut it alike. -/
theorem pieces_congr {p q : α → Bool} (h : ∀ c ∈ s, p c = q c) : pieces p s = pieces q s := by
  induction s with
  | nil => rfl
  | cons c s ih =>
    rw [pieces, pieces, h c (by simp), ih fun d hd => h d (by simp [hd])]

end DataPortal.Text
