import DataPortal.Proofs.FilterText.Literal
import DataPortal.Value.Display
/-!
# Spelled arguments

A list of literals with commas between them and spaces round them. The walk over its text goes
past a spelled literal without a split and is outside of quotes again after it, whatever
commas, marks and backslashes are inside (`Literal.passes`), so it splits exactly where the
list has its commas.
-/
namespace DataPortal.FilterText

/-- White space within one line. -/
def IsSpace (s : List Char) : Prop :=
  ∀ c ∈ s, Text.isBlank c = true ∧ c ≠ '\n'

instance (s : List Char) : Decidable (IsSpace s) :=
  List.decidableBAll (fun c => Text.isBlank c = true ∧ c ≠ '\n') s

/-- A literal as an argument, with spaces round it. -/
structure Argument where
  before : List Char
  literal : Literal
  after : List Char
  space_before : IsSpace before
  space_after : IsSpace after

def Argument.spelling (a : Argument) : List Char :=
  a.before ++ a.literal.spelling ++ a.after

def Argument.value (a : Argument) : Value :=
  a.literal.value

/-- Arguments with commas between them. -/
def spelledArguments (as : List Argument) : List Char :=
  Text.joinWith [','] (as.map Argument.spelling)

/-! ## Walking past a text -/

/-- The walk goes past a text without a split. -/
inductive Quoting.Passes : Quoting → List Char → Quoting → Prop where
  | nil (q : Quoting) : Passes q [] q
  | cons {q r : Quoting} {c : Char} {s : List Char} (hc : q.splitsAt c = false)
      (h : Passes (q.next c) s r) : Passes q (c :: s) r

theorem Quoting.Passes.append {p q r : Quoting} {s t : List Char} (h : Passes p s q)
    (h' : Passes q t r) : Passes p (s ++ t) r := by
  induction h with
  | nil => exact h'
  | cons hc _ ih => exact .cons hc (ih h')

/-- A text in front of the first of several texts. -/
def prependFirst (s : List Char) (ts : List (List Char)) : List (List Char) :=
  s.foldr consFirst ts

theorem splitArguments_append {q r : Quoting} {s : List Char} (h : q.Passes s r)
    (t : List Char) : splitArguments q (s ++ t) = prependFirst s (splitArguments r t) := by
  induction h with
  | nil => rfl
  | cons hc _ ih =>
    rw [List.cons_append, splitArguments, hc, if_neg (by decide), ih]
    rfl

theorem prependFirst_cons (s t : List Char) (ts : List (List Char)) :
    prependFirst s (t :: ts) = (s ++ t) :: ts := by
  induction s with
  | nil => rfl
  | cons c s ih =>
    have h : prependFirst (c :: s) (t :: ts) = consFirst c (prependFirst s (t :: ts)) := rfl
    rw [h, ih]
    rfl

/-! ## Walking past a literal -/

/-- A character that means nothing to the walk outside of quotes. -/
def isPlain (c : Char) : Bool :=
  c != '\\' && c != '"' && c != '\'' && c != ','

theorem passes_plain {s : List Char} (h : ∀ c ∈ s, isPlain c = true) :
    Quoting.outside.Passes s .outside := by
  induction s with
  | nil => exact .nil _
  | cons c s ih =>
    have hc := h c (by simp)
    simp only [isPlain, Bool.and_eq_true, bne_iff_ne] at hc
    obtain ⟨⟨⟨hback, hdouble⟩, hsingle⟩, hcomma⟩ := hc
    have hnext : Quoting.outside.next c = .outside := by
      simp [Quoting.next, Quoting.outside, hback, hdouble, hsingle]
    refine .cons (by simp [Quoting.splitsAt, hcomma]) ?_
    rw [hnext]
    exact ih fun d hd => h d (by simp [hd])

theorem passes_space {s : List Char} (h : IsSpace s) : Quoting.outside.Passes s .outside := by
  apply passes_plain
  intro c hc
  have hblank := (h c hc).1
  have hne : ∀ d, Text.isBlank d = false → c ≠ d := by
    rintro d hd rfl
    rw [hblank] at hd
    cases hd
  simp [isPlain, hne '\\' (by decide), hne '"' (by decide), hne '\'' (by decide),
    hne ',' (by decide)]

theorem passes_digits (d : Digits) : Quoting.outside.Passes d.spelling .outside := by
  have hdigits : Quoting.outside.Passes d.digits .outside := by
    apply passes_plain
    intro c hc
    have hne : ∀ k, ¬('0' ≤ k ∧ k ≤ '9') → c ≠ k := by
      intro k hk
      exact ne_of_digit (d.all_digits c hc) hk
    simp [isPlain, hne '\\' (by decide), hne '"' (by decide), hne '\'' (by decide),
      hne ',' (by decide)]
  unfold Digits.spelling
  split
  · exact .cons (by decide) hdigits
  · exact hdigits

/-- Inside quotes a spelled text neither splits nor ends them: each mark of their kind has
its backslash. -/
theorem passes_escaped (m : QuoteMark) (s : List Char) :
    Quoting.Passes ⟨some m.char, false⟩ (escaped m.char s) ⟨some m.char, false⟩ := by
  induction s with
  | nil => exact .nil _
  | cons c s ih =>
    rw [escaped_cons]
    refine Quoting.Passes.append ?_ ih
    by_cases hc : c = '\\' ∨ c = m.char
    · -- the walk takes the backslash and then the character whatever it is
      have hback : Quoting.next ⟨some m.char, false⟩ '\\' = ⟨some m.char, true⟩ := rfl
      have hnext : Quoting.next ⟨some m.char, true⟩ c = ⟨some m.char, false⟩ := rfl
      rw [escapedChar, if_pos hc]
      refine .cons (by simp [Quoting.splitsAt]) ?_
      rw [hback]
      refine .cons (by simp [Quoting.splitsAt]) ?_
      rw [hnext]
      exact .nil _
    · rw [not_or] at hc
      have hnext : Quoting.next ⟨some m.char, false⟩ c = ⟨some m.char, false⟩ := by
        simp [Quoting.next, hc.1, hc.2]
      rw [escapedChar, if_neg (by simp [hc])]
      refine .cons (by simp [Quoting.splitsAt]) ?_
      rw [hnext]
      exact .nil _

theorem passes_text (t : QuotedText) : Quoting.outside.Passes t.spelling .outside := by
  have hopens : Quoting.outside.next t.mark.char = ⟨some t.mark.char, false⟩ := by
    cases t.mark <;> rfl
  have hcloses : Quoting.next ⟨some t.mark.char, false⟩ t.mark.char = .outside := by
    cases t.mark <;> rfl
  have hopen : Quoting.outside.splitsAt t.mark.char = false := by
    cases t.mark <;> rfl
  rw [QuotedText.spelling, List.cons_append]
  refine .cons hopen ?_
  rw [hopens]
  refine (passes_escaped t.mark t.content).append (.cons (by simp [Quoting.splitsAt]) ?_)
  rw [hcloses]
  exact .nil _

/-- **No literal is split**, and after it the walk is outside of quotes. -/
theorem Literal.passes (l : Literal) : Quoting.outside.Passes l.spelling .outside := by
  cases l with
  | null => exact passes_plain (List.all_eq_true.1 rfl)
  | truth b => cases b <;> exact passes_plain (List.all_eq_true.1 rfl)
  | integer d => exact passes_digits d
  | text t => exact passes_text t

theorem Argument.passes (a : Argument) : Quoting.outside.Passes a.spelling .outside :=
  ((passes_space a.space_before).append a.literal.passes).append (passes_space a.space_after)

/-! ## Reading the arguments -/

/-- The text of some arguments is split into these. -/
theorem splitArguments_spelled (a : Argument) (as : List Argument) :
    splitArguments .outside (spelledArguments (a :: as)) = (a :: as).map Argument.spelling := by
  induction as generalizing a with
  | nil =>
    have h := splitArguments_append a.passes []
    rw [List.append_nil, splitArguments, prependFirst_cons, List.append_nil] at h
    exact h
  | cons b as ih =>
    have hjoin : spelledArguments (a :: b :: as) =
        a.spelling ++ ',' :: spelledArguments (b :: as) := by
      simp [spelledArguments, Text.joinWith]
    have hcomma : splitArguments .outside (',' :: spelledArguments (b :: as)) =
        [] :: splitArguments .outside (spelledArguments (b :: as)) := rfl
    rw [hjoin, splitArguments_append a.passes, hcomma, ih b, prependFirst_cons, List.append_nil]
    rfl

theorem parseValue_argument (a : Argument) : parseValue a.spelling = a.literal.outcome :=
  parseValue_padded (fun c hc => (a.space_before c hc).1) a.literal
    (fun c hc => (a.space_after c hc).1)

theorem strip_argument (a : Argument) : Text.strip a.spelling = a.literal.spelling :=
  Text.strip_padded (fun c hc => (a.space_before c hc).1) a.literal.hasEdges.trimmed
    (fun c hc => (a.space_after c hc).1)

/-- What reading some literals comes to: all their values, unless one of them is too long. -/
def outcomes (ls : List Literal) : Except Failure (List Value) :=
  if ls.any Literal.isTooLong then .error .badValue else .ok (ls.map Literal.value)

theorem outcomes_cons (l : Literal) (ls : List Literal) :
    outcomes (l :: ls) = (do return (← l.outcome) :: (← outcomes ls)) := by
  rw [outcomes, outcomes, Literal.outcome, List.any_cons]
  cases l.isTooLong
  · cases ls.any Literal.isTooLong <;> rfl
  · rfl

theorem parseArguments_spelled (a : Argument) (as : List Argument) :
    parseArguments ((a :: as).map Argument.spelling) =
      outcomes ((a :: as).map Argument.literal) := by
  induction as generalizing a with
  | nil =>
    have hsome : (Text.strip a.spelling).isEmpty = false := by
      rw [strip_argument]
      simpa using a.literal.hasEdges.ne_nil
    rw [List.map_singleton, List.map_singleton, outcomes_cons, parseArguments, hsome,
      if_neg (by decide), parseValue_argument]
    rfl
  | cons b as ih =>
    have hrest := ih b
    simp only [List.map_cons] at hrest ⊢
    rw [parseArguments, parseValue_argument, hrest, outcomes_cons a.literal]
    simp

/-- **The arguments are read as what they were**, in their order, if none is too long. -/
theorem parseValueList_spelled (a : Argument) (as : List Argument) :
    parseValueList (spelledArguments (a :: as)) = outcomes ((a :: as).map Argument.literal) := by
  rw [parseValueList, splitArguments_spelled, parseArguments_spelled]

end DataPortal.FilterText
