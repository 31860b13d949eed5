import DataPortal.Proofs.FilterText.Literal
/-!
# Unquoting in one scan

A text between quotes is unquoted in two passes: first each mark loses the backslash before it,
then pairs of backslashes become one. Where a pair stands before a mark the first pass takes its
second backslash, and the second pass leaves the other one alone. So the passes come to what one
scan from the left does, in which a backslash escapes the character after it.
-/
namespace DataPortal.FilterText

/-- The text that one scan from the left makes of a text between quotes. A backslash before another
one or before the mark is dropped and the character after it is kept; all else is copied. -/
def unescape (mark : Char) : List Char → List Char
  | [] => []
  | [c] => [c]
  | c :: d :: rest =>
    if c = '\\' ∧ (d = '\\' ∨ d = mark) then d :: unescape mark rest
    else c :: unescape mark (d :: rest)

variable {mark c d : Char} {s : List Char}

/-- A backslash that escapes nothing is kept, and so is any other character. -/
theorem unquote_cons (h : c ≠ '\\' ∨ ∀ d ∈ s.head?, d ≠ '\\' ∧ d ≠ mark) :
    unquote mark (c :: s) = c :: unquote mark s := by
  have hfirst : replacePair '\\' mark mark (c :: s) = c :: replacePair '\\' mark mark s :=
    replacePair_cons (h.imp_right fun hs d hd => (hs d hd).2)
  rw [unquote, hfirst, replacePair_cons, unquote]
  refine h.imp_right fun hs => ?_
  cases s with
  | nil => simp [replacePair]
  | cons d s =>
    -- the first pass leaves the character that comes next
    have hd := hs d rfl
    rw [replacePair_cons (.inl hd.1)]
    rintro _ ⟨⟩
    exact hd.1

/-- A mark loses the backslash before it. -/
theorem unquote_mark (hmark : mark ≠ '\\') (s : List Char) :
    unquote mark ('\\' :: mark :: s) = mark :: unquote mark s := by
  rw [unquote, replacePair_pair, replacePair_cons (.inl hmark), unquote]

/-- A pair of backslashes becomes one, also in front of a mark. -/
theorem unquote_pair (hmark : mark ≠ '\\') (s : List Char) :
    unquote mark ('\\' :: '\\' :: s) = '\\' :: unquote mark s := by
  have hfirst : replacePair '\\' mark mark ('\\' :: '\\' :: s) =
      '\\' :: replacePair '\\' mark mark ('\\' :: s) :=
    replacePair_cons (.inr fun d hd => by cases hd; exact hmark.symm)
  rw [unquote, hfirst]
  by_cases hs : s.head? = some mark
  · -- the mark takes the second backslash, so the first one stands alone in the second pass
    obtain ⟨s, rfl⟩ := List.head?_eq_some_iff.1 hs
    rw [replacePair_pair, replacePair_cons (.inr fun d hd => by cases hd; exact hmark),
      replacePair_cons (.inl hmark), unquote_cons (.inl hmark), unquote]
  · have hnext : ∀ d ∈ s.head?, d ≠ mark := by
      rintro d hd rfl
      exact hs hd
    rw [replacePair_cons (.inr hnext), replacePair_pair, unquote]

/-- **The two passes come to one scan**, for every text and either mark. -/
theorem unquote_eq_unescape (m : QuoteMark) (s : List Char) :
    unquote m.char s = unescape m.char s := by
  fun_induction unescape m.char s with
  | case1 => rfl
  | case2 c => rfl
  | case3 c d rest hescapes ih =>
    obtain ⟨rfl, rfl | rfl⟩ := hescapes
    · rw [unquote_pair m.char_ne_backslash, ih]
    · rw [unquote_mark m.char_ne_backslash, ih]
  | case4 c d rest hcopied ih =>
    rw [unquote_cons, ih]
    by_cases hc : c = '\\'
    · refine .inr ?_
      rintro _ ⟨⟩
      exact not_or.1 fun hd => hcopied ⟨hc, hd⟩
    · exact .inl hc

/-- A mark after two backslashes, and after three. -/
example :
    unescape '"' ['a', '\\', '\\', '"', '\\', '\\', '\\', '"', '\\'] =
      ['a', '\\', '"', '\\', '"', '\\'] := by
  decide

end DataPortal.FilterText
