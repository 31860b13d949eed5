import DataPortal.Text.Blank
/-!
# Texts with white space around them

A text that neither begins nor ends with white space is what is left when white space around
it is taken away. Runs of a class of characters are taken off up to the first character that
is not of it.
-/
namespace DataPortal.Text

/-- Nothing, or a text that does not begin with a character of some class. -/
def StopsRun {α : Type} (p : α → Bool) (s : List α) : Prop :=
  ∀ c ∈ s.head?, p c = false

theorem takeWhile_run {p : Char → Bool} {run s : List Char} (hrun : ∀ c ∈ run, p c = true)
    (hs : StopsRun p s) : (run ++ s).takeWhile p = run := by
  rw [List.takeWhile_append_of_pos hrun]
  cases s with
  | nil => simp
  | cons c s =>
    have hc : p c = false := hs c rfl
    simp [hc]

theorem dropWhile_run {p : Char → Bool} {run s : List Char} (hrun : ∀ c ∈ run, p c = true)
    (hs : StopsRun p s) : (run ++ s).dropWhile p = s := by
  rw [List.dropWhile_append_of_pos hrun]
  cases s with
  | nil => rfl
  | cons c s =>
    have hc : p c = false := hs c rfl
    simp [hc]

/-- A text with characters, the first and the last of which are no white space. -/
structure IsTrimmed (s : List Char) : Prop where
  ne_nil : s ≠ []
  head : ∀ c ∈ s.head?, isBlank c = false
  last : ∀ c ∈ s.getLast?, isBlank c = false

/-- A text is trimmed that begins and ends as trimmed texts do. -/
theorem IsTrimmed.append {s t u : List Char} (hs : IsTrimmed s) (hu : IsTrimmed u) :
    IsTrimmed (s ++ t ++ u) := by
  refine ⟨by simp [hs.ne_nil], ?_, ?_⟩ <;> intro c hc
  · have hhead : s.head? ≠ none := by simpa using hs.ne_nil
    cases h : s.head? with
    | none => exact absurd h hhead
    | some d =>
      rw [List.append_assoc, List.head?_append, h] at hc
      exact hs.head c (h.trans hc)
  · have hlast : u.getLast? ≠ none := by simpa using hu.ne_nil
    cases h : u.getLast? with
    | none => exact absurd h hlast
    | some d =>
      rw [List.getLast?_append, h] at hc
      exact hu.last c (h.trans hc)

theorem IsTrimmed.singleton {c : Char} (h : isBlank c = false) : IsTrimmed [c] := by
  refine ⟨by simp, ?_, ?_⟩ <;>
  · intro d hd
    cases hd
    exact h

theorem dropEndWhile_run {p : Char → Bool} {s run : List Char} (hrun : ∀ c ∈ run, p c = true)
    (hs : ∀ c ∈ s.getLast?, p c = false) : dropEndWhile p (s ++ run) = s := by
  rw [dropEndWhile, List.reverse_append, dropWhile_run, List.reverse_reverse]
  · intro c hc
    exact hrun c (List.mem_reverse.1 hc)
  · intro c hc
    rw [List.head?_reverse] at hc
    exact hs c hc

/-- White space around a trimmed text is taken away. -/
theorem strip_padded {before s after : List Char} (hbefore : ∀ c ∈ before, isBlank c = true)
    (hs : IsTrimmed s) (hafter : ∀ c ∈ after, isBlank c = true) :
    strip (before ++ s ++ after) = s := by
  have hstart : StopsRun isBlank (s ++ after) := by
    intro c hc
    cases s with
    | nil => exact absurd rfl hs.ne_nil
    | cons d s => exact hs.head c hc
  rw [strip, stripStart, List.append_assoc, dropWhile_run hbefore hstart,
    dropEndWhile_run hafter hs.last]

/-- What is left of a text stands in it. -/
theorem strip_isInfix (s : List Char) : strip s <:+: s := by
  have hend : strip s <+: stripStart s := by
    rw [strip, dropEndWhile, ← List.reverse_suffix, List.reverse_reverse]
    exact List.dropWhile_suffix _
  exact hend.isInfix.trans (List.dropWhile_suffix _).isInfix

theorem IsTrimmed.strip_eq {s : List Char} (h : IsTrimmed s) : strip s = s := by
  have hstrip := @strip_padded [] s [] (by simp) h (by simp)
  rwa [List.nil_append, List.append_nil] at hstrip

end DataPortal.Text
