import DataPortal.Proofs.Outcome
import DataPortal.Proofs.Wire.Reassociation
import DataPortal.Proofs.Wire.Spelling
import DataPortal.Query.Filter
/-!
# Reading a filter back

The text of a filter has parentheses only round an "or" directly under an "and". That is
enough: with each condition as one term, the text is cut into symbols in one way, has one
tree, and that tree is the filter up to re-association.

The symbols of a filter (`Filter.symbols`) are method: its text with the conditions kept
whole. A filter is a conjunction to the grammar unless it is an "or", and an "or" becomes an
operand by its parentheses; this is the invariant of the induction.
-/
namespace DataPortal.Query

open Wire Outcome

namespace Filter

/-- The conditions of a filter from left to right. -/
def conditions : Filter → List Condition
  | .condition c => [c]
  | .and left right | .or left right => left.conditions ++ right.conditions

/-- A filter as a tree of terms. -/
def phrase : Filter → Phrase Condition
  | .condition c => .term c
  | .and left right => .and left.phrase right.phrase
  | .or left right => .or left.phrase right.phrase

/-- The symbols of a filter as an operand of "and". -/
def conjunctSymbols (f : Filter) (ts : List (Symbol Condition)) : List (Symbol Condition) :=
  if f.isOr then .left :: ts ++ [.right] else ts

/-- The text of a filter with its conditions kept whole. -/
def symbols : Filter → List (Symbol Condition)
  | .condition c => [.term c]
  | .and left right =>
    left.conjunctSymbols left.symbols ++ .and :: right.conjunctSymbols right.symbols
  | .or left right => left.symbols ++ .or :: right.symbols

/-! ## The symbols are a cut of the text -/

theorem terms_conjunctSymbols (f : Filter) (ts : List (Symbol Condition)) :
    terms (f.conjunctSymbols ts) = terms ts := by
  unfold conjunctSymbols
  split <;> simp

theorem terms_symbols (f : Filter) : terms f.symbols = f.conditions := by
  induction f with
  | condition c => rfl
  | and l r ihl ihr => simp [symbols, conditions, terms_conjunctSymbols, ihl, ihr]
  | or l r ihl ihr => simp [symbols, conditions, ihl, ihr]

theorem spelling_conjunctSymbols (f : Filter) (ts : List (Symbol Condition)) :
    spelling Condition.render (f.conjunctSymbols ts) =
      (spelling Condition.render ts).map f.asConjunct := by
  unfold conjunctSymbols
  by_cases h : f.isOr = true
  · simp only [h, if_true, List.cons_append, spelling_cons, spelling_append, Symbol.text]
    cases spelling Condition.render ts with
    | error e => rfl
    | ok s => simp [Except.bind, Except.map, asConjunct, h, parenthesized]
  · simp only [h, Bool.false_eq_true, if_false]
    cases spelling Condition.render ts with
    | error e => rfl
    | ok s => simp [Except.map, asConjunct, h]

theorem spelling_symbols (f : Filter) : spelling Condition.render f.symbols = f.render := by
  induction f with
  | condition c =>
    rw [symbols, render, spelling_cons]
    cases h : c.render <;> simp [Symbol.text, Except.bind, Except.map, h]
  | and l r ihl ihr =>
    rw [symbols, render, spelling_append, spelling_cons, spelling_conjunctSymbols,
      spelling_conjunctSymbols, ihl, ihr]
    cases l.render <;> cases r.render <;> rfl
  | or l r ihl ihr =>
    rw [symbols, render, spelling_append, spelling_cons, ihl, ihr]
    cases l.render <;> cases r.render <;> rfl

/-- A filter has a text where its conditions have. -/
theorem exists_render {f : Filter} (h : ∀ c ∈ f.conditions, ∃ u, c.render = .ok u) :
    ∃ s, f.render = .ok s := by
  induction f with
  | condition c => exact h c (by simp [conditions])
  | and l r ihl ihr | or l r ihl ihr =>
    obtain ⟨s, hs⟩ := ihl fun c hc => h c (by simp [conditions, hc])
    obtain ⟨t, ht⟩ := ihr fun c hc => h c (by simp [conditions, hc])
    exact ⟨_, by rw [render, hs, ht]; rfl⟩

end Filter

/-- A condition is more than signs: it has the sign of its comparison or a point. -/
theorem Condition.hasBody {c : Condition} {s : List Char} (h : c.render = .ok s) :
    HasBody s := by
  cases c with
  | comparison field o v =>
    obtain ⟨t, -, hs⟩ := bind_eq_ok.1 h
    cases pure_eq_ok.1 hs
    have hany : o.symbol.any (fun d => !isSign d) = true := by cases o <;> rfl
    obtain ⟨d, hd, hsign⟩ := List.any_eq_true.1 hany
    exact ⟨d, by simp [hd], by simpa using hsign⟩
  | text field o v =>
    obtain ⟨t, -, hs⟩ := bind_eq_ok.1 h
    cases pure_eq_ok.1 hs
    exact ⟨'.', by simp [callText], by decide⟩
  | membership field o vs =>
    obtain ⟨ts, -, hs⟩ := bind_eq_ok.1 h
    cases pure_eq_ok.1 hs
    exact ⟨'.', by simp [callText], by decide⟩
  | foreign v => cases h

namespace Filter

/-! ## The symbols are read as the filter -/

/-- What the grammar takes a filter for. -/
def level (f : Filter) : Level :=
  if f.isOr then .disjunction else .conjunction

theorem derives_conjunct {f : Filter} {ts : List (Symbol Condition)} {g : Phrase Condition}
    (h : Derives f.level ts g) : Derives .conjunction (f.conjunctSymbols ts) g := by
  by_cases hf : f.isOr = true
  · simp only [level, hf, if_true] at h
    simpa only [conjunctSymbols, hf, if_true] using h.group.operand
  · simp only [level, hf, Bool.false_eq_true, if_false] at h
    simpa only [conjunctSymbols, hf, Bool.false_eq_true, if_false] using h

theorem derives_disjunct {α : Type} {f : Filter} {ts : List (Symbol α)} {g : Phrase α}
    (h : Derives f.level ts g) : Derives .disjunction ts g := by
  unfold level at h
  split at h
  · exact h
  · exact h.conjunction

theorem derives_symbols (f : Filter) :
    ∃ g, Derives f.level f.symbols g ∧ Reassociates g f.phrase := by
  induction f with
  | condition c => exact ⟨.term c, (Derives.term c).operand, .refl _⟩
  | and l r ihl ihr =>
    -- an "or" on either side is a conjunction by its parentheses
    obtain ⟨g, hg, hgl⟩ := ihl
    obtain ⟨g', hg', hgr⟩ := ihr
    obtain ⟨v, hv, hr⟩ := (derives_conjunct hg).and_conjunction (derives_conjunct hg')
    exact ⟨v, hv, hr.trans (hgl.and hgr)⟩
  | or l r ihl ihr =>
    obtain ⟨g, hg, hgl⟩ := ihl
    obtain ⟨g', hg', hgr⟩ := ihr
    obtain ⟨v, hv, hr⟩ := (derives_disjunct hg).or_disjunction (derives_disjunct hg')
    exact ⟨v, hv, hr.trans (hgl.or hgr)⟩

/-- **A filter is read back from its text**: where its conditions have texts, so has the
filter; the text is cut into symbols with these conditions in one way, and the grammar reads
the symbols as one tree, which is the filter up to re-association and so is true where the
filter is. -/
theorem reads_back (f : Filter) (h : ∀ c ∈ f.conditions, ∃ u, c.render = .ok u) :
    ∃ s ts g, f.render = .ok s ∧
      (∀ us, Cut Condition.render f.conditions s us ↔ us = ts) ∧
      (∀ t, ReadAs ts t ↔ t = g) ∧
      Reassociates g f.phrase ∧
      ∀ truth, g.holds truth = f.phrase.holds truth := by
  obtain ⟨s, hs⟩ := exists_render h
  obtain ⟨g, hg, hr⟩ := f.derives_symbols
  have hcut : Cut Condition.render f.conditions s f.symbols :=
    ⟨f.terms_symbols, f.spelling_symbols.trans hs⟩
  have hread : ReadAs f.symbols g := derives_disjunct hg
  have hbodies : ∀ c ∈ f.conditions, ∀ u, c.render = .ok u → HasBody u := by
    intro c _ u hu
    exact Condition.hasBody hu
  exact ⟨s, f.symbols, g, hs, hcut.iff_eq hbodies, hread.iff_eq, hr, hr.holds_eq⟩

/-- A filter with every kind of condition, an "or" on either side of an "and", and runs of
both that lean to the right. -/
def nested : Filter :=
  .and (.or (comparing "a" .eq (.int 1)) (matching "b" .contains (.str "x|y")))
    (.and (.condition (.membership "c" .among [.null, .str "(&)"]))
      (.or (.and (comparing "d" .le (.bool true)) (comparing "e" .ne .null))
        (.or (comparing "f" .gt (.int (-2))) (comparing "a" .eq (.int 1)))))

theorem nested_reads_back :
    (∀ c ∈ nested.conditions, ∃ u, c.render = .ok u) ∧
      ∃ s ts g, nested.render = .ok s ∧
        (∀ us, Cut Condition.render nested.conditions s us ↔ us = ts) ∧
        (∀ t, ReadAs ts t ↔ t = g) ∧
        Reassociates g nested.phrase ∧
        ∀ truth, g.holds truth = nested.phrase.holds truth := by
  have h : ∀ c ∈ nested.conditions, ∃ u, c.render = .ok u := by
    intro c hc
    simp only [nested, conditions, comparing, matching, List.cons_append, List.nil_append,
      List.mem_cons, List.not_mem_nil, or_false] at hc
    rcases hc with rfl | rfl | rfl | rfl | rfl | rfl | rfl <;> exact ⟨_, rfl⟩
  exact ⟨h, reads_back nested h⟩

end Filter
end DataPortal.Query
