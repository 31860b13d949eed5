import DataPortal.Proofs.FilterText.Answering
import DataPortal.Proofs.Query.Calls
/-!
# Filter texts applied to a query

Filters that were read are added to a query one after the other, each joined by "and" to what
was there. A text that is read states a single condition, so the only filter of the chain that
can need parentheses is the one that the query had before. Nothing but the filter changes.
-/
namespace DataPortal.Query

open FilterText Outcome Text

/-- Filters that are added to a query are joined from the left to the one it has. -/
theorem foldl_addFilter (q : Query) (fs : List Filter) :
    fs.foldl addFilter q = { q with filter := conjunction (q.filter.toList ++ fs) } := by
  induction fs using List.reverseRecOn with
  | nil =>
    obtain ⟨fields, sortKeys, limit, counts, filter⟩ := q
    cases filter <;> rfl
  | append_singleton fs f ih =>
    rw [List.foldl_append, ih, ← List.append_assoc, conjunction_concat]
    rfl

/-- Filters that were read can be applied, each as the condition that it states. -/
theorem applyFilters_eq {ps : List Parsed} (h : ∀ p ∈ ps, IsRead p) (q : Query) :
    q.applyFilters ps =
      .ok (((ps.map Parsed.condition).map Filter.condition).foldl addFilter q) := by
  induction ps generalizing q with
  | nil => rfl
  | cons p ps ih =>
    have hp := (h p (by simp)).toFilter_eq
    rw [applyFilters, hp]
    exact ih (fun p' hp' => h p' (by simp [hp'])) _

theorem applyFilters_append (q : Query) (ps rest : List Parsed) :
    q.applyFilters (ps ++ rest) = q.applyFilters ps >>= fun q' => q'.applyFilters rest := by
  induction ps generalizing q with
  | nil => rfl
  | cons p ps ih =>
    rw [List.cons_append, applyFilters, applyFilters]
    cases p.toFilter with
    | error e => rfl
    | ok f => exact ih _

/-! ## The text of the filter -/

theorem mapM_conjunctText {cs : List Condition} {ts : List (List Char)}
    (h : cs.map Condition.render = ts.map .ok) :
    (cs.map Filter.condition).mapM conjunctText = .ok ts := by
  induction cs generalizing ts with
  | nil =>
    cases ts with
    | nil => rfl
    | cons t ts => cases h
  | cons c cs ih =>
    cases ts with
    | nil => cases h
    | cons t ts =>
      rw [List.map_cons, List.map_cons, List.cons.injEq] at h
      have hc : conjunctText (.condition c) = .ok t :=
        (conjunctText_of_isOr_eq_false rfl).trans h.1
      rw [List.map_cons, List.mapM_cons, hc, ih h.2]
      rfl

/-- Conditions alone are joined by `&`. -/
theorem filterText_of_none {q : Query} (hq : q.filter = none) {cs : List Condition}
    {ts : List (List Char)} (h : cs.map Condition.render = ts.map .ok) :
    ((cs.map Filter.condition).foldl addFilter q).filterText =
      .ok (if ts = [] then [] else [joinWith ['&'] ts]) := by
  rw [foldl_addFilter, hq, Option.toList_none, List.nil_append]
  cases cs with
  | nil =>
    cases ts with
    | nil => rfl
    | cons t ts => cases h
  | cons c cs =>
    have hts : ts ≠ [] := by
      rintro rfl
      cases h
    have hor : ((cs.map Filter.condition).foldl Filter.and (Filter.condition c)).isOr = false :=
      isOr_foldl rfl _
    have htext := conjunctText_foldl (Filter.condition c) (cs.map Filter.condition)
    rw [conjunctText_of_isOr_eq_false hor, ← List.map_cons, mapM_conjunctText h] at htext
    simp only [filterText, List.map_cons, conjunction, htext, if_neg hts]
    rfl

/-- Conditions after a filter are joined to it by `&`, and it stands in parentheses if it is an
"or". -/
theorem filterText_of_some {q : Query} {f : Filter} (hq : q.filter = some f)
    {cs : List Condition} {ts : List (List Char)} (h : cs.map Condition.render = ts.map .ok) :
    ((cs.map Filter.condition).foldl addFilter q).filterText =
      f.render.map fun s =>
        [joinWith ['&']
          ((if f.isOr = true ∧ ts ≠ [] then Filter.parenthesized s else s) :: ts)] := by
  rw [foldl_addFilter, hq, Option.toList_some, List.singleton_append]
  simp only [filterText, conjunction, render_foldl]
  cases cs with
  | nil =>
    cases ts with
    | nil =>
      have hfirst : (fun s => [joinWith ['&']
          ((if f.isOr = true ∧ ([] : List (List Char)) ≠ [] then Filter.parenthesized s else s) ::
            [])]) = fun s => [s] := by
        simp [joinWith]
      rw [hfirst, List.map_nil, filterClause]
      cases f.render <;> rfl
    | cons t ts => cases h
  | cons c cs =>
    have hts : ts ≠ [] := by
      rintro rfl
      cases h
    have hmany : filterClause (f :: (c :: cs).map Filter.condition) =
        ((f :: (c :: cs).map Filter.condition).mapM conjunctText).map (joinWith ['&']) := rfl
    rw [hmany, List.mapM_cons, mapM_conjunctText h, conjunctText]
    cases f.render with
    | error e => rfl
    | ok s => simp [Except.map, bind, Except.bind, pure, Except.pure, hts, Filter.asConjunct]

theorem render_eq_map (q : Query) :
    q.render = q.filterText.map fun clauses =>
      joinClauses (q.selectClause ++ clauses ++ q.laterClauses) := by
  rw [render, clauses]
  cases q.filterText <;> rfl

/-! ## Texts that were read -/

theorem isRead_of_mapM {texts : List (List Char)} {ps : List Parsed}
    (h : texts.mapM parse = .ok ps) : ∀ p ∈ ps, IsRead p := by
  induction texts generalizing ps with
  | nil =>
    cases h
    simp
  | cons s texts ih =>
    rw [List.mapM_cons] at h
    obtain ⟨p, hp, h⟩ := bind_eq_ok.1 h
    obtain ⟨rest, hrest, h⟩ := bind_eq_ok.1 h
    cases pure_eq_ok.1 h
    have hread : IsRead p := by
      have hanswer := answers_parse s
      rw [hp] at hanswer
      cases hanswer with
      | value hread => exact hread
    exact List.forall_mem_cons.2 ⟨hread, ih hrest⟩

/-- Filters that were read have texts. -/
theorem exists_texts {ps : List Parsed} (h : ∀ p ∈ ps, IsRead p) :
    ∃ ts : List (List Char),
      (ps.map Parsed.condition).map Condition.render = ts.map .ok := by
  induction ps with
  | nil => exact ⟨[], rfl⟩
  | cons p ps ih =>
    obtain ⟨t, ht⟩ := (h p (by simp)).exists_render
    obtain ⟨ts, hts⟩ := ih fun p' hp' => h p' (by simp [hp'])
    exact ⟨t :: ts, by simp [ht, hts]⟩

/-- **Filter texts are added at the end of the filter.** Texts that are read can be applied to
any query. They change its filter alone, whose text is then that of the old filter, in
parentheses just if that is an "or" and there are texts to add, followed by the text of each
filter that was read, in their order, all joined by `&`. To apply some filters and then others
is to apply all of them. -/
theorem applied_filters_are_conjoined :
    (∀ (q : Query) (texts : List (List Char)) (ps : List Parsed), texts.mapM parse = .ok ps →
      ∃ q' ts, q.applyFilters ps = .ok q' ∧
        ps.map (fun p => p.toFilter >>= Filter.render) = ts.map .ok ∧
        { q' with filter := q.filter } = q ∧
        (q.filter = none → q'.filterText = .ok (if ts = [] then [] else [joinWith ['&'] ts])) ∧
        (∀ f, q.filter = some f → q'.filterText = f.render.map fun s =>
          [joinWith ['&']
            ((if f.isOr = true ∧ ts ≠ [] then Filter.parenthesized s else s) :: ts)]) ∧
        q'.render = q'.filterText.map fun clauses =>
          joinClauses (q.selectClause ++ clauses ++ q.laterClauses)) ∧
      ∀ (q : Query) (ps rest : List Parsed),
        q.applyFilters (ps ++ rest) = q.applyFilters ps >>= fun q' => q'.applyFilters rest := by
  refine ⟨?_, applyFilters_append⟩
  intro q texts ps h
  have hread := isRead_of_mapM h
  obtain ⟨ts, hts⟩ := exists_texts hread
  have hown : ps.map (fun p => p.toFilter >>= Filter.render) = ts.map .ok := by
    rw [← hts, List.map_map]
    refine List.map_congr_left fun p hp => ?_
    rw [(hread p hp).toFilter_eq]
    rfl
  refine ⟨_, ts, applyFilters_eq hread q, hown, ?_, fun hq => filterText_of_none hq hts,
    fun f hq => filterText_of_some hq hts, ?_⟩
  · rw [foldl_addFilter]
  · rw [render_eq_map, foldl_addFilter]
    rfl

/-- Two texts applied to a query that has a clause of every kind, and an "or" for its filter. -/
theorem two_texts_conjoined :
    let q : Query := ⟨["name"], [⟨"date", true⟩], some (.int 5), true,
      some (.or (.comparing "a" .eq (.int 1)) (.comparing "b" .eq (.int 2)))⟩
    let texts := ["metai=2025".toList, "status.in(\"a\", 'b')".toList]
    ∃ ps q', texts.mapM parse = .ok ps ∧ q.applyFilters ps = .ok q' ∧
      q'.render = .ok ("?select(name)&(a=1|b=2)&metai=2025&status.in(%22a%22,%22b%22)" ++
        "&sort(-date)&limit(5)&count()").toList := by
  intro q texts
  obtain ⟨ps, hps⟩ : ∃ ps, texts.mapM parse = .ok ps := ⟨_, rfl⟩
  obtain ⟨q', ts, happly, hts, -, -, hsome, hrender⟩ :=
    applied_filters_are_conjoined.1 q texts ps hps
  cases hps
  have htexts : ts = ["metai=2025".toList, "status.in(%22a%22,%22b%22)".toList] :=
    (List.map_inj_right fun _ _ => Except.ok.inj).1 hts.symm
  refine ⟨_, q', rfl, happly, ?_⟩
  rw [hrender, hsome _ rfl, htexts]
  rfl

end DataPortal.Query
