import DataPortal.Proofs.FilterText.Arguments
import DataPortal.Proofs.Text.Percent
import DataPortal.Query.Token
import Mathlib.Algebra.Group.Nat.Even
import Mathlib.Data.List.Induction
/-!
# Texts in their quotes

In a query a text stands between double quotes, with a backslash before each double quote of its
own. The backslashes of its own stay as they are, and to a reader who takes a backslash for the
escape of the next character they are escapes. So the text stays between its quotes exactly
where its backslashes come in pairs: where an even number of them stands before each of its
double quotes and at its end.
-/
namespace DataPortal.FilterText

/-- What stands before each double quote of a text is of some kind. -/
def BeforeQuotes (P : List Char → Prop) (s : List Char) : Prop :=
  ∀ before after, s = before ++ '"' :: after → P before

/-- Where a walk stands after a text. -/
def Quoting.after (q : Quoting) (s : List Char) : Quoting :=
  s.foldl Quoting.next q

/-- Just after an opening double quote. -/
def Quoting.opened : Quoting :=
  ⟨some '"', false⟩

/-- The walk after an opening double quote stands just after a backslash that escapes. -/
def EndsEscaped (s : List Char) : Prop :=
  (Quoting.opened.after s).escaped = true

/-- Between double quotes, no double quote of the text ends it, and it does not end amid an
escape. -/
structure StaysQuoted (body : List Char) : Prop where
  quotes_escaped : BeforeQuotes EndsEscaped body
  not_escaped : ¬EndsEscaped body

/-- How many backslashes a text ends in. -/
def finalBackslashes (s : List Char) : Nat :=
  (s.reverse.takeWhile (· == '\\')).length

/-- An even number of backslashes stands before each double quote and at the end. -/
structure PairsBackslashes (s : List Char) : Prop where
  before_quotes : BeforeQuotes (fun before => Even (finalBackslashes before)) s
  at_end : Even (finalBackslashes s)

/-! ## One more character -/

/-- What is found in a text is its last character or was there before that. -/
theorem concat_eq_append_cons {s before after : List Char} {c d : Char}
    (h : s ++ [c] = before ++ d :: after) :
    s = before ∧ c = d ∧ after = [] ∨ ∃ rest, s = before ++ d :: rest ∧ after = rest ++ [c] := by
  rcases List.eq_nil_or_concat after with rfl | ⟨rest, last, rfl⟩
  · obtain ⟨hs, hc⟩ := List.append_singleton_inj.1 h
    exact .inl ⟨hs, hc, rfl⟩
  · rw [List.concat_eq_append, ← List.cons_append, ← List.append_assoc,
      List.append_singleton_inj] at h
    obtain ⟨hs, rfl⟩ := h
    exact .inr ⟨rest, hs, List.concat_eq_append⟩

theorem beforeQuotes_concat {P : List Char → Prop} {s : List Char} {c : Char} :
    BeforeQuotes P (s ++ [c]) ↔ BeforeQuotes P s ∧ (c = '"' → P s) := by
  constructor
  · intro h
    constructor
    · rintro before after rfl
      exact h before (after ++ [c]) (by simp)
    · rintro rfl
      exact h s [] rfl
  · rintro ⟨hs, hc⟩ before after heq
    rcases concat_eq_append_cons heq with ⟨rfl, hquote, -⟩ | ⟨rest, hrest, -⟩
    · exact hc hquote
    · exact hs before rest hrest

theorem after_concat (q : Quoting) (s : List Char) (c : Char) :
    q.after (s ++ [c]) = (q.after s).next c := by
  simp [Quoting.after]

theorem finalBackslashes_concat (s : List Char) (c : Char) :
    finalBackslashes (s ++ [c]) = if c = '\\' then finalBackslashes s + 1 else 0 := by
  by_cases hc : c = '\\' <;> simp [finalBackslashes, hc]

/-! ## The only quote that is not escaped -/

/-- A text stays between its quotes where the closing one is the only one that is not
escaped. -/
theorem staysQuoted_iff_last {body : List Char} :
    StaysQuoted body ↔ ∀ before after, body ++ ['"'] = before ++ '"' :: after →
      (¬EndsEscaped before ↔ after = []) := by
  constructor
  · rintro ⟨hquotes, hend⟩ before after heq
    rcases concat_eq_append_cons heq with ⟨rfl, -, rfl⟩ | ⟨rest, hrest, rfl⟩
    · simpa using hend
    · simpa using hquotes before rest hrest
  · intro h
    constructor
    · rintro before after rfl
      have hbefore := h before (after ++ ['"']) (by simp)
      simpa using hbefore
    · exact (h body [] rfl).2 rfl

/-- A walk does not leave the quotes of a text that stays between them. -/
theorem inside_after {body : List Char} (h : BeforeQuotes EndsEscaped body) :
    (Quoting.opened.after body).inside = some '"' := by
  induction body using List.reverseRecOn with
  | nil => rfl
  | append_singleton s c ih =>
    obtain ⟨hs, hc⟩ := beforeQuotes_concat.1 h
    have hinside := ih hs
    rw [after_concat, Quoting.next]
    split
    · exact hinside
    · rename_i hescaped
      have hquote : c ≠ '"' := fun hquote => hescaped (hc hquote)
      split
      · exact hinside
      · split
        · rw [hinside]
          simp [hquote, hinside]
        · exact hinside

/-- Nothing in it is taken for the end of an argument. -/
theorem StaysQuoted.passes {body : List Char} (h : StaysQuoted body) :
    Quoting.outside.Passes ('"' :: body ++ ['"']) .outside := by
  have hbody : ∀ s, BeforeQuotes EndsEscaped s →
      Quoting.opened.Passes s (Quoting.opened.after s) := by
    intro s hs
    induction s using List.reverseRecOn with
    | nil => exact .nil _
    | append_singleton s c ih =>
      have hs' := (beforeQuotes_concat.1 hs).1
      rw [after_concat]
      refine (ih hs').append (.cons ?_ (.nil _))
      simp [Quoting.splitsAt, inside_after hs']
  have hclosed : (Quoting.opened.after body).next '"' = .outside := by
    have hescaped : (Quoting.opened.after body).escaped = false := by
      simpa [EndsEscaped] using h.not_escaped
    simp [Quoting.next, hescaped, inside_after h.quotes_escaped]
  refine .cons rfl ((hbody body h.quotes_escaped).append (.cons ?_ ?_))
  · simp [Quoting.splitsAt]
  · rw [hclosed]
    exact .nil _

end DataPortal.FilterText

namespace DataPortal.Query

open FilterText

theorem escapeQuotes_concat (s : List Char) (c : Char) :
    escapeQuotes (s ++ [c]) =
      if c = '"' then escapeQuotes s ++ ['\\'] ++ ['"'] else escapeQuotes s ++ [c] := by
  by_cases hc : c = '"' <;> simp [escapeQuotes, hc]

/-- The walk over a text with its quotes escaped: its quotes are met as escaped where pairs of
backslashes stand before them, and then its own last backslashes decide how it ends. -/
theorem beforeQuotes_escapeQuotes (s : List Char) :
    (BeforeQuotes EndsEscaped (escapeQuotes s) ↔
      BeforeQuotes (fun before => Even (finalBackslashes before)) s) ∧
    (BeforeQuotes EndsEscaped (escapeQuotes s) →
      Quoting.opened.after (escapeQuotes s) =
        ⟨some '"', decide ¬Even (finalBackslashes s)⟩) := by
  -- from the left to the right, so on the last character
  induction s using List.reverseRecOn with
  | nil => exact ⟨by simp [BeforeQuotes, escapeQuotes], fun _ => by rfl⟩
  | append_singleton s c ih =>
    obtain ⟨hiff, hafter⟩ := ih
    rw [escapeQuotes_concat, beforeQuotes_concat, finalBackslashes_concat]
    by_cases hquote : c = '"'
    · subst hquote
      have hends : BeforeQuotes EndsEscaped (escapeQuotes s) →
          (EndsEscaped (escapeQuotes s ++ ['\\']) ↔ Even (finalBackslashes s)) := by
        intro h
        rw [EndsEscaped, after_concat, hafter h]
        by_cases heven : Even (finalBackslashes s) <;> simp [Quoting.next, heven]
      rw [if_pos rfl, beforeQuotes_concat, beforeQuotes_concat]
      constructor
      · rw [← hiff]
        constructor
        · rintro ⟨⟨h, -⟩, hescaped⟩
          exact ⟨h, fun _ => (hends h).1 (hescaped rfl)⟩
        · rintro ⟨h, heven⟩
          exact ⟨⟨h, fun hne => absurd hne (by decide)⟩, fun _ => (hends h).2 (heven rfl)⟩
      · rintro ⟨⟨h, -⟩, hescaped⟩
        have heven := (hends h).1 (hescaped rfl)
        rw [after_concat, after_concat, hafter h]
        simp [Quoting.next, heven]
    · rw [if_neg hquote, beforeQuotes_concat]
      constructor
      · rw [hiff]
        simp [hquote]
      · rintro ⟨h, -⟩
        rw [after_concat, hafter h]
        by_cases hback : c = '\\'
        · by_cases heven : Even (finalBackslashes s) <;>
            simp [Quoting.next, hback, heven, Nat.even_add_one]
        · simp [Quoting.next, hback, hquote]

theorem staysQuoted_escapeQuotes_iff (s : List Char) :
    StaysQuoted (escapeQuotes s) ↔ PairsBackslashes s := by
  obtain ⟨hiff, hafter⟩ := beforeQuotes_escapeQuotes s
  have hend : BeforeQuotes EndsEscaped (escapeQuotes s) →
      (¬EndsEscaped (escapeQuotes s) ↔ Even (finalBackslashes s)) := by
    intro h
    rw [EndsEscaped, hafter h]
    simp
  constructor
  · rintro ⟨hquotes, hescaped⟩
    exact ⟨hiff.1 hquotes, (hend hquotes).1 hescaped⟩
  · rintro ⟨hbefore, heven⟩
    have hquotes := hiff.2 hbefore
    exact ⟨hquotes, (hend hquotes).2 heven⟩

/-- **A text stays between its quotes exactly where its backslashes come in pairs.** Then the
closing quote is the only one that is not escaped, and no comma in the text ends an argument. -/
theorem text_stays_quoted_iff (s : String) :
    ∃ t body, token (.str s) = .ok t ∧
      Text.Percent.decode? t = some ('"' :: body ++ ['"']) ∧
      (StaysQuoted body ↔ PairsBackslashes s.toList) ∧
      (StaysQuoted body ↔ ∀ before after, body ++ ['"'] = before ++ '"' :: after →
        (¬EndsEscaped before ↔ after = [])) ∧
      (StaysQuoted body → Quoting.outside.Passes ('"' :: body ++ ['"']) .outside) :=
  ⟨textToken s.toList, escapeQuotes s.toList, rfl, Text.Percent.decode?_encode _,
    staysQuoted_escapeQuotes_iff _, staysQuoted_iff_last, StaysQuoted.passes⟩

/-- A backslash at the end of a text escapes the quote that should close it. -/
theorem lone_backslash_leaves_quotes :
    ∃ t body, token (.str "\\") = .ok t ∧
      Text.Percent.decode? t = some ('"' :: body ++ ['"']) ∧ ¬StaysQuoted body := by
  refine ⟨textToken ['\\'], ['\\'], rfl, Text.Percent.decode?_encode _, ?_⟩
  intro h
  exact h.not_escaped rfl

end DataPortal.Query
