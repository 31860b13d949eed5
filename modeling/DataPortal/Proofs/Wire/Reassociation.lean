import DataPortal.Proofs.Wire.Grammar
/-!
# Trees up to re-association

The grammar reads `a&b&c` as `(a&b)&c`, whatever tree was written. Trees that differ only in
how directly nested "and"s, or directly nested "or"s, are bracketed are true together.
-/
namespace DataPortal.Wire

variable {α β : Type}

/-- The truth of a tree where each term is true or false. -/
def Phrase.holds (truth : α → Bool) : Phrase α → Bool
  | .term a => truth a
  | .and left right => left.holds truth && right.holds truth
  | .or left right => left.holds truth || right.holds truth

theorem Phrase.holds_map (f : α → β) (truth : β → Bool) (t : Phrase α) :
    (t.map f).holds truth = t.holds (fun a => truth (f a)) := by
  induction t with
  | term a => rfl
  | and l r ihl ihr => simp only [Phrase.map, Phrase.holds, ihl, ihr]
  | or l r ihl ihr => simp only [Phrase.map, Phrase.holds, ihl, ihr]

/-- Trees that differ only in how runs of "and"s and runs of "or"s are bracketed. -/
inductive Reassociates : Phrase α → Phrase α → Prop where
  | refl (t : Phrase α) : Reassociates t t
  | symm {t u : Phrase α} (h : Reassociates t u) : Reassociates u t
  | trans {t u v : Phrase α} (h : Reassociates t u) (h' : Reassociates u v) : Reassociates t v
  | and {t t' u u' : Phrase α} (h : Reassociates t t') (h' : Reassociates u u') :
      Reassociates (.and t u) (.and t' u')
  | or {t t' u u' : Phrase α} (h : Reassociates t t') (h' : Reassociates u u') :
      Reassociates (.or t u) (.or t' u')
  | and_assoc (t u v : Phrase α) : Reassociates (.and (.and t u) v) (.and t (.and u v))
  | or_assoc (t u v : Phrase α) : Reassociates (.or (.or t u) v) (.or t (.or u v))

theorem Reassociates.holds_eq {t u : Phrase α} (h : Reassociates t u) (truth : α → Bool) :
    t.holds truth = u.holds truth := by
  induction h with
  | refl => rfl
  | symm _ ih => exact ih.symm
  | trans _ _ ih ih' => exact ih.trans ih'
  | and _ _ ih ih' => simp only [Phrase.holds, ih, ih']
  | or _ _ ih ih' => simp only [Phrase.holds, ih, ih']
  | and_assoc t u v => simp only [Phrase.holds, Bool.and_assoc]
  | or_assoc t u v => simp only [Phrase.holds, Bool.or_assoc]

/-! ## Texts side by side -/

/-- Conjunctions joined by `&` are read as one conjunction. -/
theorem Derives.and_conjunction {ts us : List (Symbol α)} {t u : Phrase α}
    (h : Derives .conjunction ts t) (h' : Derives .conjunction us u) :
    ∃ v, Derives .conjunction (ts ++ .and :: us) v ∧ Reassociates v (.and t u) := by
  -- on the second text, whose factors move to the first one by one
  generalize hl : Level.conjunction = l at h'
  induction h' with
  | operand h' => exact ⟨_, .and h h', .refl _⟩
  | @and us us' u u' _ h' ih _ =>
    obtain ⟨v, hv, hr⟩ := ih hl
    refine ⟨.and v u', ?_, (hr.and (.refl u')).trans (.and_assoc t u u')⟩
    simpa using hv.and h'
  | _ => cases hl

/-- Disjunctions joined by `|` are read as one disjunction. -/
theorem Derives.or_disjunction {ts us : List (Symbol α)} {t u : Phrase α}
    (h : Derives .disjunction ts t) (h' : Derives .disjunction us u) :
    ∃ v, Derives .disjunction (ts ++ .or :: us) v ∧ Reassociates v (.or t u) := by
  generalize hl : Level.disjunction = l at h'
  induction h' with
  | conjunction h' => exact ⟨_, .or h h', .refl _⟩
  | @or us us' u u' _ h' ih _ =>
    obtain ⟨v, hv, hr⟩ := ih hl
    refine ⟨.or v u', ?_, (hr.or (.refl u')).trans (.or_assoc t u u')⟩
    simpa using hv.or h'
  | _ => cases hl

end DataPortal.Wire
