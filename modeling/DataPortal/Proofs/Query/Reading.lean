import DataPortal.Proofs.Query.FilterReading
import DataPortal.Proofs.Text.Joining
import DataPortal.Proofs.Wire.Conjunction
import DataPortal.Query.Basic
/-!
# Reading a query

The clauses of a query are joined by `&`, its filter among them, and a filter that is an "or"
stands there without parentheses. Its text is then read as an "or", whose first alternative
takes the clauses before the filter and whose last one those after it. The text of a query
asks for all clauses and the filter exactly when this does not happen:
`reads_as_conjunction_iff`.
-/
namespace DataPortal.Query

open Wire Outcome

/-- A term of a query text: a condition of the filter, a clause of the query, or a clause that
was added to its text. -/
inductive Term where
  | condition (c : Condition)
  | clause (s : List Char)
  | added (s : List Char)

/-- The text of a term. -/
def Term.render : Term → Except Failure (List Char)
  | .condition c => c.render
  | .clause s | .added s => .ok s

/-- Whether a term is a condition of the filter. -/
def Term.isCondition : Term → Bool
  | .condition _ => true
  | _ => false

/-- A query text, maybe with one more clause. -/
def withClause (s : List Char) : Option (List Char) → List Char
  | none => s
  | some e => appendClause s e

/-- The filter of a query as a tree of terms. -/
def filterPhrase (f : Filter) : Phrase Term :=
  f.phrase.map .condition

/-- The terms before the filter. -/
def earlierTerms (q : Query) : List Term :=
  q.selectClause.map .clause

/-- The conditions of the filter. -/
def filterTerms (q : Query) : List Term :=
  q.filter.toList.flatMap fun f => f.conditions.map .condition

/-- The terms after the filter. -/
def laterTerms (q : Query) (extra : Option (List Char)) : List Term :=
  q.laterClauses.map .clause ++ extra.toList.map .added

/-- The terms of a query text in their order. -/
def terms (q : Query) (extra : Option (List Char)) : List Term :=
  q.earlierTerms ++ q.filterTerms ++ q.laterTerms extra

/-- The clauses of a query text, the filter apart. -/
def clauseTerms (q : Query) (extra : Option (List Char)) : List Term :=
  q.earlierTerms ++ q.laterTerms extra

/-- Whether a term does not stand after the filter. -/
def isUpToFilter (q : Query) : Term → Bool
  | .condition _ => true
  | .clause s => decide (s ∈ q.selectClause)
  | .added _ => false

/-- What a query asks for: all of its clauses, and its filter. -/
def Asks (q : Query) (extra : Option (List Char)) (truth : Term → Bool) : Prop :=
  (∀ a ∈ q.clauseTerms extra, truth a = true) ∧
    ∀ f ∈ q.filter, (filterPhrase f).holds truth = true

/-! ## The symbols are a cut of the text -/

/-- A term alone, with its tree. -/
def alone (a : Term) : List (Symbol Term) × Phrase Term :=
  ([.term a], .term a)

/-- A filter as symbols of a query text. -/
def filterSymbols (f : Filter) : List (Symbol Term) :=
  f.symbols.map (Symbol.map .condition)

/-- The clauses of a query text and its filter, with their terms kept whole. -/
def parts (q : Query) (extra : Option (List Char)) : List (List (Symbol Term)) :=
  (q.earlierTerms.map alone).map Prod.fst ++ q.filter.toList.map filterSymbols ++
    ((q.laterTerms extra).map alone).map Prod.fst

/-- The text of a query with its terms kept whole. -/
def symbols (q : Query) (extra : Option (List Char)) : List (Symbol Term) :=
  conjoined (q.parts extra)

theorem terms_filterSymbols (f : Filter) :
    Wire.terms (filterSymbols f) = f.conditions.map .condition := by
  rw [filterSymbols, terms_map, f.terms_symbols]

theorem spelling_filterSymbols (f : Filter) :
    spelling Term.render (filterSymbols f) = f.render :=
  (spelling_map (fun _ => rfl) f.symbols).trans f.spelling_symbols

theorem flatMap_terms_alone (as : List Term) :
    (as.map alone).flatMap (fun p => Wire.terms p.1) = as := by
  induction as with
  | nil => rfl
  | cons a as ih => simpa [alone] using ih

theorem terms_symbols (q : Query) (extra : Option (List Char)) :
    Wire.terms (q.symbols extra) = q.terms extra := by
  have halone : ∀ as : List Term, ((as.map alone).map Prod.fst).flatMap Wire.terms = as := by
    intro as
    rw [List.flatMap_map]
    exact flatMap_terms_alone as
  rw [symbols, terms_conjoined, parts, List.flatMap_append, List.flatMap_append, halone, halone,
    terms, filterTerms]
  congr 2
  cases q.filter <;> simp [terms_filterSymbols]

/-- The clauses of a query text. -/
theorem render_eq_ok {q : Query} {s : List Char} (h : q.render = .ok s) :
    ∃ fs, q.filterText = .ok fs ∧ s = joinClauses (q.selectClause ++ fs ++ q.laterClauses) := by
  obtain ⟨parts, hparts, hs⟩ := bind_eq_ok.1 h
  obtain ⟨fs, hfs, hp⟩ := bind_eq_ok.1 hparts
  cases pure_eq_ok.1 hs
  cases pure_eq_ok.1 hp
  exact ⟨fs, hfs, rfl⟩

theorem spelling_filterText {q : Query} {fs : List (List Char)} (h : q.filterText = .ok fs) :
    (q.filter.toList.map filterSymbols).map (spelling Term.render) = fs.map .ok := by
  unfold filterText at h
  cases hq : q.filter with
  | none =>
    rw [hq] at h
    cases h
    rfl
  | some f =>
    rw [hq] at h
    obtain ⟨s, hs, hfs⟩ := bind_eq_ok.1 h
    cases pure_eq_ok.1 hfs
    simp [spelling_filterSymbols, hs]

theorem withClause_joinClauses {ss : List (List Char)} (h : ss ≠ [])
    (extra : Option (List Char)) :
    withClause (joinClauses ss) extra = '?' :: Text.joinWith ['&'] (ss ++ extra.toList) := by
  have hss : ss.isEmpty = false := by simpa using h
  cases extra with
  | none => simp [withClause, joinClauses, hss]
  | some e =>
    simp [withClause, joinClauses, hss, appendClause, Text.joinWith_append_singleton ['&'] e h]

theorem map_spelling_alone (term : List Char → Term)
    (hterm : ∀ s, (term s).render = .ok s) (ss : List (List Char)) :
    (((ss.map term).map alone).map Prod.fst).map (spelling Term.render) = ss.map .ok := by
  induction ss with
  | nil => rfl
  | cons s ss ih =>
    simp only [List.map_cons, ih, List.cons.injEq, and_true]
    simp [alone, spelling_cons, Symbol.text, hterm, Except.bind, Except.map]

theorem spelling_parts {q : Query} {fs : List (List Char)} (h : q.filterText = .ok fs)
    (extra : Option (List Char)) :
    (q.parts extra).map (spelling Term.render) =
      (q.selectClause ++ fs ++ q.laterClauses ++ extra.toList).map .ok := by
  rw [parts, laterTerms, earlierTerms]
  simp only [List.map_append, map_spelling_alone .clause fun _ => rfl,
    map_spelling_alone .added fun _ => rfl, spelling_filterText h,
    List.append_assoc]

/-- The text of a query with clauses, as symbols. -/
theorem exists_cut {q : Query} {s : List Char} (hs : q.render = .ok s) (hne : s ≠ [])
    (extra : Option (List Char)) :
    q.parts extra ≠ [] ∧ ∃ body, withClause s extra = '?' :: body ∧
      Cut Term.render (q.terms extra) body (q.symbols extra) := by
  obtain ⟨fs, hfs, rfl⟩ := render_eq_ok hs
  have hclauses : q.selectClause ++ fs ++ q.laterClauses ≠ [] := by
    intro h
    simp [joinClauses, h] at hne
  have hparts := spelling_parts hfs extra
  refine ⟨?_, _, withClause_joinClauses hclauses extra, q.terms_symbols extra,
    spelling_conjoined hparts⟩
  intro h
  rw [h] at hparts
  have := List.map_eq_nil_iff.1 hparts.symm
  exact hclauses (List.append_eq_nil_iff.1 this).1

/-- Every clause is more than signs: its name is. -/
theorem hasBody_clause {name : String} (h : HasBody name.toList) (arguments : List Char) :
    HasBody (clause name arguments) := by
  obtain ⟨c, hc, hsign⟩ := h
  exact ⟨c, by simp [clause, hc], hsign⟩

theorem eq_clause_of_mem_selectClause {q : Query} {s : List Char} (h : s ∈ q.selectClause) :
    ∃ arguments, s = clause "select" arguments := by
  unfold selectClause at h
  split at h
  · simp at h
  · exact ⟨_, List.mem_singleton.1 h⟩

theorem eq_clause_of_mem_laterClauses {q : Query} {s : List Char} (h : s ∈ q.laterClauses) :
    ∃ name ∈ ["sort", "limit", "count"], ∃ arguments, s = clause name arguments := by
  unfold laterClauses at h
  rcases List.mem_append.1 h with h | h
  · rcases List.mem_append.1 h with h | h
    · split at h
      · simp at h
      · exact ⟨"sort", by simp, _, List.mem_singleton.1 h⟩
    · split at h
      · simp at h
      · exact ⟨"limit", by simp, _, List.mem_singleton.1 h⟩
  · split at h
    · exact ⟨"count", by simp, _, List.mem_singleton.1 h⟩
    · simp at h

/-- No clause after the filter is the one before it: their names differ. -/
theorem not_mem_selectClause {q : Query} {s : List Char} (h : s ∈ q.laterClauses) :
    s ∉ q.selectClause := by
  intro h'
  obtain ⟨as, rfl⟩ := eq_clause_of_mem_selectClause h'
  obtain ⟨name, hname, bs, hs⟩ := eq_clause_of_mem_laterClauses h
  simp only [List.mem_cons, List.not_mem_nil, or_false] at hname
  rcases hname with rfl | rfl | rfl <;> simp [clause] at hs

theorem hasBody_of_mem_terms {q : Query} {extra : Option (List Char)}
    (hextra : ∀ e ∈ extra, HasBody e) {a : Term} (ha : a ∈ q.terms extra) {u : List Char}
    (hu : a.render = .ok u) : HasBody u := by
  cases a with
  | condition c => exact Condition.hasBody hu
  | clause s =>
    obtain rfl : s = u := Except.ok.inj hu
    have hs : s ∈ q.selectClause ∨ s ∈ q.laterClauses := by
      simpa [terms, earlierTerms, filterTerms, laterTerms] using ha
    rcases hs with hs | hs
    · obtain ⟨as, rfl⟩ := eq_clause_of_mem_selectClause hs
      exact hasBody_clause ⟨'s', by decide, rfl⟩ as
    · obtain ⟨name, hname, as, rfl⟩ := eq_clause_of_mem_laterClauses hs
      refine hasBody_clause ⟨'t', ?_, rfl⟩ as
      simp only [List.mem_cons, List.not_mem_nil, or_false] at hname
      rcases hname with rfl | rfl | rfl <;> decide
  | added s =>
    cases hu
    apply hextra
    simpa [terms, earlierTerms, filterTerms, laterTerms] using ha

/-! ## How the symbols are read -/

theorem derives_alone (as : List Term) :
    ∀ p ∈ as.map alone, Derives .conjunction p.1 p.2 := by
  intro p hp
  obtain ⟨a, -, rfl⟩ := List.mem_map.1 hp
  exact (Derives.term a).operand

theorem derives_filterSymbols (f : Filter) :
    ∃ g, Derives f.level (filterSymbols f) g ∧
      ∀ truth, g.holds truth = (filterPhrase f).holds truth := by
  obtain ⟨g, hg, hr⟩ := f.derives_symbols
  refine ⟨g.map .condition, hg.map Term.condition, ?_⟩
  intro truth
  rw [filterPhrase, Phrase.holds_map, Phrase.holds_map, hr.holds_eq]

theorem all_alone (truth : Term → Bool) (as : List Term) :
    ((as.map alone).all fun p => p.2.holds truth) = as.all truth := by
  rw [List.all_map]
  rfl

/-- Without an "or" at the top of its filter, a query is read as all it asks for. -/
theorem reads_all {q : Query} {extra : Option (List Char)}
    (hf : ∀ f ∈ q.filter, f.isOr = false) (hne : q.parts extra ≠ []) :
    ∃ g, ReadAs (q.symbols extra) g ∧ ∀ truth, g.holds truth = true ↔ q.Asks extra truth := by
  -- the filter, if there is one, is a conjunction like the clauses around it
  obtain ⟨mid, hmid, hderives, hholds⟩ : ∃ mid : List (List (Symbol Term) × Phrase Term),
      mid.map Prod.fst = q.filter.toList.map filterSymbols ∧
      (∀ p ∈ mid, Derives .conjunction p.1 p.2) ∧
      ∀ truth, (mid.all fun p => p.2.holds truth) = true ↔
        ∀ f ∈ q.filter, (filterPhrase f).holds truth = true := by
    cases hq : q.filter with
    | none => exact ⟨[], by simp⟩
    | some f =>
      obtain ⟨g, hg, hholds⟩ := derives_filterSymbols f
      have hlevel : f.level = .conjunction := by simp [Filter.level, hf f hq]
      exact ⟨[(filterSymbols f, g)], by simp, by simpa [hlevel] using hg, by simp [hholds]⟩
  have hsymbols : q.parts extra =
      (q.earlierTerms.map alone ++ mid ++ (q.laterTerms extra).map alone).map Prod.fst := by
    rw [parts, ← hmid, List.map_append, List.map_append]
  have hparts : ∀ p ∈ q.earlierTerms.map alone ++ mid ++ (q.laterTerms extra).map alone,
      Derives .conjunction p.1 p.2 := by
    intro p hp
    rcases List.mem_append.1 hp with hp | hp
    · rcases List.mem_append.1 hp with hp | hp
      · exact derives_alone _ p hp
      · exact hderives p hp
    · exact derives_alone _ p hp
  have hsome : q.earlierTerms.map alone ++ mid ++ (q.laterTerms extra).map alone ≠ [] := by
    intro h
    exact hne (by rw [hsymbols, h]; rfl)
  obtain ⟨g, hg, hall⟩ := derives_conjoined hsome hparts
  refine ⟨g, by rw [symbols, hsymbols]; exact hg.conjunction, ?_⟩
  intro truth
  rw [hall, List.all_append, List.all_append, all_alone, all_alone, Bool.and_eq_true,
    Bool.and_eq_true, hholds, List.all_eq_true, List.all_eq_true, Asks, clauseTerms]
  simp only [List.mem_append]
  grind

/-- A filter alone is read as the filter. -/
theorem reads_filter {q : Query} {extra : Option (List Char)} {f : Filter}
    (hf : q.filter = some f) (hc : q.clauseTerms extra = []) :
    ∃ g, ReadAs (q.symbols extra) g ∧ ∀ truth, g.holds truth = true ↔ q.Asks extra truth := by
  obtain ⟨g, hg, hholds⟩ := derives_filterSymbols f
  obtain ⟨hearlier, hlater⟩ := List.append_eq_nil_iff.1 hc
  refine ⟨g, ?_, ?_⟩
  · rw [symbols, parts, hearlier, hlater, hf]
    exact Filter.derives_disjunct hg
  · intro truth
    rw [Asks, hc, hf, hholds]
    simp

/-- The symbols of an "or" are split at the last `|` that stands in no parentheses. -/
theorem exists_split {f : Filter} (hf : f.isOr = true) :
    ∃ us us' u u', f.symbols = us ++ .or :: us' ∧ Derives .disjunction us u ∧
      Derives .conjunction us' u' := by
  induction f with
  | condition c => cases hf
  | and l r => cases hf
  | or l r _ ihr =>
    obtain ⟨g, hg, -⟩ := l.derives_symbols
    have hl := Filter.derives_disjunct hg
    by_cases hr : r.isOr = true
    · -- the last `|` is inside the right alternative
      obtain ⟨us, us', u, u', hsplit, hu, hu'⟩ := ihr hr
      obtain ⟨v, hv, -⟩ := hl.or_disjunction hu
      exact ⟨_, us', v, u', by simp [Filter.symbols, hsplit], hv, hu'⟩
    · obtain ⟨g', hg', -⟩ := r.derives_symbols
      have hlevel : r.level = .conjunction := by simp [Filter.level, hr]
      exact ⟨l.symbols, r.symbols, g, g', rfl, hl, hlevel ▸ hg'⟩

/-- An "or" among clauses is read as more than what the query asks for: some clause is false,
and the alternative that does not have it still holds. -/
theorem reads_more {q : Query} {extra : Option (List Char)} {f : Filter}
    (hf : q.filter = some f) (hor : f.isOr = true) (hc : q.clauseTerms extra ≠ []) :
    ∃ g, ReadAs (q.symbols extra) g ∧
      ∃ truth, g.holds truth = true ∧ ¬q.Asks extra truth := by
  obtain ⟨us, us', u, u', hsplit, hu, hu'⟩ := exists_split hor
  obtain ⟨v, v', hread, hv, hv'⟩ := derives_around (derives_alone q.earlierTerms)
    (derives_alone (q.laterTerms extra)) (hu.map Term.condition) (hu'.map Term.condition)
  rw [flatMap_terms_alone] at hv hv'
  refine ⟨.or v v', ?_, ?_⟩
  · rw [symbols, parts, hf]
    simpa [filterSymbols, hsplit, Symbol.map] using hread
  have hcondition : ∀ truth : Term → Bool, (∀ c, truth (.condition c) = true) →
      ∀ ts : List (Symbol Condition),
        ∀ a ∈ Wire.terms (ts.map (Symbol.map Term.condition)), truth a = true := by
    intro truth htruth ts a ha
    rw [terms_map] at ha
    obtain ⟨c, -, rfl⟩ := List.mem_map.1 ha
    exact htruth c
  by_cases hlater : q.laterTerms extra = []
  · -- the last alternative does not have the clause before the filter
    have hv' : v'.holds Term.isCondition = true := by
      apply Phrase.holds_of_terms
      rw [hv', hlater, List.append_nil]
      exact hcondition _ (fun _ => rfl) us'
    refine ⟨Term.isCondition, by rw [Phrase.holds, hv', Bool.or_true], ?_⟩
    intro hasks
    obtain ⟨a, ha⟩ := List.exists_mem_of_ne_nil _ hc
    have htrue := hasks.1 a ha
    rw [clauseTerms, hlater, List.append_nil, earlierTerms] at ha
    obtain ⟨s, -, rfl⟩ := List.mem_map.1 ha
    cases htrue
  · -- the first alternative does not have the clauses after the filter
    have hv : v.holds q.isUpToFilter = true := by
      apply Phrase.holds_of_terms
      intro a ha
      rw [hv] at ha
      rcases List.mem_append.1 ha with ha | ha
      · obtain ⟨s, hs, rfl⟩ := List.mem_map.1 ha
        exact decide_eq_true hs
      · exact hcondition _ (fun _ => rfl) us a ha
    refine ⟨q.isUpToFilter, by rw [Phrase.holds, hv, Bool.true_or], ?_⟩
    intro hasks
    obtain ⟨a, ha⟩ := List.exists_mem_of_ne_nil _ hlater
    have htrue := hasks.1 a (List.mem_append_right _ ha)
    rcases List.mem_append.1 ha with ha | ha
    · obtain ⟨s, hs, rfl⟩ := List.mem_map.1 ha
      exact not_mem_selectClause hs (of_decide_eq_true htrue)
    · obtain ⟨s, -, rfl⟩ := List.mem_map.1 ha
      cases htrue

/-- **When a query asks for all of its parts.** The text of a query with some clause, maybe
with one clause added, is cut into symbols with the terms of the query in one way and read as
one tree. That tree is true exactly where every clause is and the filter is, unless the filter
is an "or" that stands beside another clause. -/
theorem reads_as_conjunction_iff (q : Query) (extra : Option (List Char))
    (hextra : ∀ e ∈ extra, HasBody e) {s : List Char} (hs : q.render = .ok s) (hne : s ≠ []) :
    ∃ body ts g, withClause s extra = '?' :: body ∧
      (∀ us, Cut Term.render (q.terms extra) body us ↔ us = ts) ∧
      (∀ t, ReadAs ts t ↔ t = g) ∧
      ((∀ truth, g.holds truth = true ↔ q.Asks extra truth) ↔
        ¬((∃ f ∈ q.filter, f.isOr = true) ∧ q.clauseTerms extra ≠ [])) := by
  obtain ⟨hparts, body, hbody, hcut⟩ := exists_cut hs hne extra
  have hbodies : ∀ a ∈ q.terms extra, ∀ u, a.render = .ok u → HasBody u := by
    intro a ha u hu
    exact hasBody_of_mem_terms hextra ha hu
  by_cases hor : ∃ f ∈ q.filter, f.isOr = true
  · obtain ⟨f, hf, hfor⟩ := hor
    by_cases hc : q.clauseTerms extra = []
    · obtain ⟨g, hg, hholds⟩ := reads_filter hf hc
      refine ⟨body, q.symbols extra, g, hbody, hcut.iff_eq hbodies, hg.iff_eq, ?_⟩
      exact ⟨fun _ h => h.2 hc, fun _ => hholds⟩
    · obtain ⟨g, hg, truth, hholds, hasks⟩ := reads_more hf hfor hc
      refine ⟨body, q.symbols extra, g, hbody, hcut.iff_eq hbodies, hg.iff_eq, ?_⟩
      constructor
      · intro h
        exact absurd ((h truth).1 hholds) hasks
      · intro h
        exact absurd ⟨⟨f, hf, hfor⟩, hc⟩ h
  · have hall : ∀ f ∈ q.filter, f.isOr = false := by
      intro f hf
      rw [← Bool.not_eq_true]
      exact fun h => hor ⟨f, hf, h⟩
    obtain ⟨g, hg, hholds⟩ := reads_all hall hparts
    refine ⟨body, q.symbols extra, g, hbody, hcut.iff_eq hbodies, hg.iff_eq, ?_⟩
    exact ⟨fun _ h => hor h.1, fun _ => hholds⟩

/-- An "or" beside a clause. -/
def alternative : Query :=
  (empty.select ["name"]).addFilter
    (.or (.comparing "a" .eq (.int 1)) (.comparing "b" .eq (.int 2)))

/-- The same with a second filter: the "or" is in parentheses then. -/
def alternativeAnd : Query :=
  alternative.addFilter (.comparing "c" .gt (.int 3))

theorem alternativeAnd_reads_as_conjunction :
    let extra := some (pageClause ['x'])
    let s := "?select(name)&(a=1|b=2)&c>3".toList
    (∀ e ∈ extra, HasBody e) ∧ alternativeAnd.render = .ok s ∧ s ≠ [] ∧
      ∃ body ts g, withClause s extra = '?' :: body ∧
        (∀ us, Cut Term.render (alternativeAnd.terms extra) body us ↔ us = ts) ∧
        (∀ t, ReadAs ts t ↔ t = g) ∧
        ((∀ truth, g.holds truth = true ↔ alternativeAnd.Asks extra truth) ↔
          ¬((∃ f ∈ alternativeAnd.filter, f.isOr = true) ∧
            alternativeAnd.clauseTerms extra ≠ [])) := by
  have hextra : ∀ e ∈ some (pageClause ['x']), HasBody e := by
    intro e he
    cases he
    exact hasBody_clause ⟨'p', by decide, rfl⟩ _
  have hs : alternativeAnd.render = .ok "?select(name)&(a=1|b=2)&c>3".toList := rfl
  exact ⟨hextra, hs, by decide, reads_as_conjunction_iff _ _ hextra hs (by decide)⟩

/-- `select(name)&a=1|b=2` holds where `b=2` does, with nothing selected. -/
theorem alternative_not_read_as_conjunction :
    alternative.render = .ok "?select(name)&a=1|b=2".toList ∧
      ¬∃ ts g, Cut Term.render (alternative.terms none) "select(name)&a=1|b=2".toList ts ∧
        ReadAs ts g ∧ ∀ truth, g.holds truth = true ↔ alternative.Asks none truth := by
  refine ⟨rfl, ?_⟩
  rintro ⟨ts, g, hcut, hread, hall⟩
  let s := Term.clause "select(name)".toList
  let a := Term.condition (.comparison "a" .eq (.int 1))
  let b := Term.condition (.comparison "b" .eq (.int 2))
  have hcut' : Cut Term.render (alternative.terms none) "select(name)&a=1|b=2".toList
      [.term s, .and, .term a, .or, .term b] := ⟨rfl, rfl⟩
  have hbodies : ∀ c ∈ alternative.terms none, ∀ u, c.render = .ok u → HasBody u := by
    intro c hc u hu
    exact hasBody_of_mem_terms (by simp) hc hu
  obtain rfl := hcut'.unique hbodies hcut
  have hread' : ReadAs [.term s, .and, .term a, .or, .term b]
      (.or (.and (.term s) (.term a)) (.term b)) :=
    Derives.or (Derives.and (Derives.term s).operand (Derives.term a)).conjunction
      (Derives.term b).operand
  obtain rfl := hread'.unique hread
  have hasks := (hall Term.isCondition).1 rfl
  have hs : s ∈ alternative.clauseTerms none := .head _
  cases hasks.1 s hs

end DataPortal.Query
