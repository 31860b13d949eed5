import DataPortal.Proofs.Wire.Reassociation
import DataPortal.Proofs.Wire.Spelling
import DataPortal.Value.Display
/-!
# Texts joined by "and"

Texts of symbols with `&` between each two. Texts that are conjunctions make one conjunction.
Where one of them is a disjunction, the texts before it go to its first alternative and those
after it to its last: the whole is an "or".
-/
namespace DataPortal.Wire

variable {α : Type} {spell : α → Except Failure (List Char)}

/-- Texts of symbols with `&` between each two. -/
def conjoined : List (List (Symbol α)) → List (Symbol α)
  | [] => []
  | [ts] => ts
  | ts :: rest => ts ++ .and :: conjoined rest

theorem conjoined_cons (ts : List (Symbol α)) {rest : List (List (Symbol α))} (h : rest ≠ []) :
    conjoined (ts :: rest) = ts ++ .and :: conjoined rest := by
  cases rest with
  | nil => exact absurd rfl h
  | cons us rest => rfl

theorem conjoined_append {ps rs : List (List (Symbol α))} (hp : ps ≠ []) (hr : rs ≠ []) :
    conjoined (ps ++ rs) = conjoined ps ++ .and :: conjoined rs := by
  induction ps with
  | nil => exact absurd rfl hp
  | cons ts ps ih =>
    cases ps with
    | nil => exact conjoined_cons ts hr
    | cons us ps =>
      rw [List.cons_append, conjoined_cons ts (by simp), conjoined_cons ts (by simp),
        ih (by simp), List.append_assoc, List.cons_append]

theorem terms_conjoined (ps : List (List (Symbol α))) :
    terms (conjoined ps) = ps.flatMap terms := by
  induction ps with
  | nil => rfl
  | cons ts ps ih =>
    cases ps with
    | nil => simp [conjoined]
    | cons us ps => rw [conjoined_cons ts (by simp), terms_append, terms_cons_and, ih]; rfl

/-- Parts with texts have the joined text. -/
theorem spelling_conjoined {ps : List (List (Symbol α))} {ss : List (List Char)}
    (h : ps.map (spelling spell) = ss.map .ok) :
    spelling spell (conjoined ps) = .ok (Text.joinWith ['&'] ss) := by
  -- there are as many texts as parts, so that both lists are taken apart together
  induction ps generalizing ss with
  | nil =>
    cases ss with
    | nil => rfl
    | cons s ss => simp at h
  | cons ts ps ih =>
    cases ss with
    | nil => simp at h
    | cons s ss =>
      simp only [List.map_cons, List.cons.injEq] at h
      obtain ⟨hs, h⟩ := h
      cases ps with
      | nil =>
        cases ss with
        | nil => exact hs
        | cons s' ss => simp at h
      | cons us ps =>
        cases ss with
        | nil => simp at h
        | cons s' ss =>
          rw [conjoined_cons ts (by simp), spelling_append, hs, spelling_cons, ih h]
          simp [Except.bind, Except.map, Symbol.text, Text.joinWith]

/-- Conjunctions make one conjunction, which holds where all of them do. -/
theorem derives_conjoined {ps : List (List (Symbol α) × Phrase α)} (hne : ps ≠ [])
    (h : ∀ p ∈ ps, Derives .conjunction p.1 p.2) :
    ∃ g, Derives .conjunction (conjoined (ps.map Prod.fst)) g ∧
      ∀ truth, g.holds truth = ps.all fun p => p.2.holds truth := by
  induction ps with
  | nil => exact absurd rfl hne
  | cons p ps ih =>
    have hp := h p (by simp)
    by_cases hps : ps = []
    · subst hps
      exact ⟨p.2, hp, by simp⟩
    · obtain ⟨g, hg, hall⟩ := ih hps fun r hr => h r (by simp [hr])
      obtain ⟨v, hv, hr⟩ := hp.and_conjunction hg
      refine ⟨v, ?_, ?_⟩
      · rwa [List.map_cons, conjoined_cons p.1 (by simpa using hps)]
      · intro truth
        rw [hr.holds_eq, Phrase.holds, hall, List.all_cons]

/-- A tree of true terms is true. -/
theorem Phrase.holds_of_terms {truth : α → Bool} {t : Phrase α}
    (h : ∀ a ∈ t.terms, truth a = true) : t.holds truth = true := by
  induction t with
  | term a => exact h a (by simp [terms])
  | and l r ihl ihr =>
    rw [holds, ihl fun a ha => h a (by simp [terms, ha]),
      ihr fun a ha => h a (by simp [terms, ha])]
    rfl
  | or l r ihl _ =>
    rw [holds, ihl fun a ha => h a (by simp [terms, ha])]
    rfl

/-! ## A disjunction among them -/

/-- A conjunction in front of a disjunction is read as one disjunction. -/
theorem Derives.and_disjunction {ts us : List (Symbol α)} {t u : Phrase α}
    (h : Derives .conjunction ts t) (h' : Derives .disjunction us u) :
    ∃ v, Derives .disjunction (ts ++ .and :: us) v := by
  -- the conjunction goes to the first alternative, however many there are
  generalize hl : Level.disjunction = l at h'
  induction h' with
  | conjunction h' =>
    obtain ⟨v, hv, -⟩ := h.and_conjunction h'
    exact ⟨v, hv.conjunction⟩
  | @or us us' u u' _ h' ih _ =>
    obtain ⟨v, hv⟩ := ih hl
    exact ⟨.or v u', by simpa using hv.or h'⟩
  | _ => cases hl

theorem conjoined_append_cons (ts us : List (Symbol α)) (rest : List (List (Symbol α))) :
    conjoined ((ts ++ us) :: rest) = ts ++ conjoined (us :: rest) := by
  cases rest with
  | nil => rfl
  | cons vs rest => simp [conjoined]

/-- The sign between two alternatives parts the texts before it from those after it. -/
theorem conjoined_around (ps rs : List (List (Symbol α))) (us us' : List (Symbol α)) :
    conjoined (ps ++ (us ++ .or :: us') :: rs) =
      conjoined (ps ++ [us]) ++ .or :: conjoined (us' :: rs) := by
  have hr : conjoined ((us ++ .or :: us') :: rs) = us ++ .or :: conjoined (us' :: rs) := by
    rw [conjoined_append_cons]
    exact congrArg (us ++ ·) (conjoined_append_cons [.or] us' rs)
  by_cases hp : ps = []
  · subst hp
    exact hr
  · rw [conjoined_append hp (by simp), conjoined_append hp (by simp), hr]
    simp [conjoined]

/-- A disjunction among conjunctions makes an "or" of the texts before its last `|` and those
after it. -/
theorem derives_around {ps rs : List (List (Symbol α) × Phrase α)} {us us' : List (Symbol α)}
    {u u' : Phrase α} (hp : ∀ p ∈ ps, Derives .conjunction p.1 p.2)
    (hr : ∀ r ∈ rs, Derives .conjunction r.1 r.2) (hu : Derives .disjunction us u)
    (hu' : Derives .conjunction us' u') :
    ∃ v v', ReadAs (conjoined (ps.map Prod.fst ++ (us ++ .or :: us') :: rs.map Prod.fst))
        (.or v v') ∧
      v.terms = ps.flatMap (fun p => terms p.1) ++ terms us ∧
      v'.terms = terms us' ++ rs.flatMap (fun r => terms r.1) := by
  obtain ⟨v, hv⟩ : ∃ v, Derives .disjunction (conjoined (ps.map Prod.fst ++ [us])) v := by
    by_cases hps : ps = []
    · subst hps
      exact ⟨u, hu⟩
    · obtain ⟨g, hg, -⟩ := derives_conjoined hps hp
      rw [conjoined_append (by simpa using hps) (by simp)]
      exact hg.and_disjunction hu
  have hlater : ∀ r ∈ (us', u') :: rs, Derives .conjunction r.1 r.2 := by
    intro r hmem
    rcases List.mem_cons.1 hmem with rfl | hmem
    · exact hu'
    · exact hr r hmem
  obtain ⟨v', hv', -⟩ := derives_conjoined (by simp) hlater
  refine ⟨v, v', ?_, ?_, ?_⟩
  · rw [ReadAs, conjoined_around]
    exact hv.or hv'
  · rw [hv.terms_eq, terms_conjoined]
    simp [List.flatMap_map]
  · rw [hv'.terms_eq, terms_conjoined]
    simp [List.flatMap_map]

end DataPortal.Wire
