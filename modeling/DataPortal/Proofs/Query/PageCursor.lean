import DataPortal.Client.Paging
import DataPortal.Proofs.FilterText.Literal
import DataPortal.Proofs.Outcome
import DataPortal.Proofs.Query.Quoting
import DataPortal.Proofs.Text.Percent
import Mathlib.Data.List.DropRight
/-!
# Page cursors in a query

The last clause of the query for a further page is the cursor between double quotes, as it is. So
whoever takes the query apart, decodes the clause and reads the literal in it finds the cursor
exactly where nothing in the cursor has a meaning to one of these readings: where it has no double
quote, no percent sign, no ampersand and no number sign, and its backslashes are single and none of
them is at its end. All three readings only ever shorten a text, so where something is lost on the
way it does not come back.
-/
namespace DataPortal

open FilterText Text

/-! ## Texts that end amid an escape -/

namespace FilterText

/-- A text ends amid an escape where its last character is a backslash that is not itself
escaped. -/
theorem endsEscaped_concat {s : List Char} {c : Char} :
    EndsEscaped (s ++ [c]) ↔ ¬EndsEscaped s ∧ c = '\\' := by
  rw [EndsEscaped, EndsEscaped, after_concat]
  generalize Quoting.opened.after s = q
  rw [Quoting.next]
  by_cases hescaped : q.escaped = true
  · simp [hescaped]
  · by_cases hback : c = '\\'
    · simp [hescaped, hback]
    · rw [if_neg hescaped, if_neg hback]
      simp only [hback, and_false, iff_false]
      split
      · split
        · simp
        · split
          · simp [Quoting.outside]
          · exact hescaped
      · exact hescaped

theorem EndsEscaped.getLast? {s : List Char} (h : EndsEscaped s) : s.getLast? = some '\\' := by
  rcases List.eq_nil_or_concat s with rfl | ⟨rest, c, rfl⟩
  · cases h
  · rw [List.concat_eq_append] at h ⊢
    rw [(endsEscaped_concat.1 h).2, List.getLast?_concat]

end FilterText

namespace Query

/-! ## Reading a cursor -/

/-- The last clause of what stands after a question mark. A number sign ends that text, and there
is an ampersand between each two clauses. -/
def lastClause (s : List Char) : List Char :=
  (s.takeWhile (· != '#')).rtakeWhile (· != '&')

/-- The last clause of a query. -/
def finalClause (query : List Char) : List Char :=
  lastClause (query.drop 1)

/-- A clause carries a cursor: decoded it is the clause of a page, with a literal that ends at its
last quote and stands for the cursor. -/
def Carries (clause cursor : List Char) : Prop :=
  ∃ body, Percent.decode? clause = some (pageClause body) ∧ StaysQuoted body ∧
    unquote '"' body = cursor

/-- Nothing in a cursor has a meaning in a query or in a literal. -/
structure IsPlainCursor (cursor : List Char) : Prop where
  no_sign : ∀ c ∈ ['"', '%', '&', '#'], c ∉ cursor
  no_pair : ¬['\\', '\\'] <:+: cursor
  not_escaping : cursor.getLast? ≠ some '\\'

variable {s t cursor body base : List Char}

theorem lastClause_append (h : '#' ∉ s) : lastClause (s ++ '&' :: t) = lastClause t := by
  have hall : ∀ c ∈ s, (c != '#') = true := by
    intro c hc
    rw [bne_iff_ne]
    rintro rfl
    exact h hc
  rw [lastClause, List.takeWhile_append_of_pos hall, List.takeWhile_cons_of_pos (by decide),
    lastClause]
  generalize t.takeWhile (· != '#') = tail
  induction tail using List.reverseRecOn with
  | nil => exact List.rtakeWhile_concat_neg _ _ _ (by decide)
  | append_singleton tail c ih =>
    rw [← List.cons_append, ← List.append_assoc, List.rtakeWhile_concat, List.rtakeWhile_concat, ih]

theorem lastClause_of_mem (h : '#' ∈ s) : lastClause (s ++ t) = lastClause s := by
  have hcut : (s ++ t).takeWhile (· != '#') = s.takeWhile (· != '#') := by
    rw [List.takeWhile_append, if_neg]
    intro hlength
    have hwhole := (List.takeWhile_prefix (· != '#')).eq_of_length hlength
    rw [List.takeWhile_eq_self_iff] at hwhole
    simpa using hwhole _ h
  rw [lastClause, hcut, lastClause]

theorem lastClause_sublist (s : List Char) : List.Sublist (lastClause s) s :=
  ((List.rtakeWhile_suffix ..).sublist).trans (List.takeWhile_prefix _).sublist

theorem lastClause_eq_self_iff : lastClause s = s ↔ '#' ∉ s ∧ '&' ∉ s := by
  constructor
  · intro h
    rw [← h]
    constructor
    · intro hmem
      have hcut := ((List.rtakeWhile_suffix ..).sublist).subset hmem
      simpa using List.mem_takeWhile_imp hcut
    · intro hmem
      simpa using List.mem_rtakeWhile_imp hmem
  · rintro ⟨hnumber, hampersand⟩
    have hcut : s.takeWhile (· != '#') = s := by
      rw [List.takeWhile_eq_self_iff]
      intro c hc
      rw [bne_iff_ne]
      rintro rfl
      exact hnumber hc
    rw [lastClause, hcut, List.rtakeWhile_eq_self_iff]
    intro c hc
    rw [bne_iff_ne]
    rintro rfl
    exact hampersand hc

theorem length_pageClause (body : List Char) : (pageClause body).length = body.length + 8 := by
  simp [pageClause, clause, quoted]

theorem mem_pageClause {c : Char} (hc : c ∈ ['%', '&', '#']) :
    c ∈ pageClause cursor ↔ c ∈ cursor := by
  simp only [List.mem_cons, List.not_mem_nil, or_false] at hc
  obtain rfl | rfl | rfl := hc <;> simp [pageClause, clause, quoted]

theorem pageClause_inj : pageClause body = pageClause cursor ↔ body = cursor := by
  simp [pageClause, clause, quoted]

/-! ## When it is read -/

/-- A literal of a plain cursor ends at its last quote and stands for it. -/
theorem IsPlainCursor.carries (h : IsPlainCursor cursor) :
    Carries (lastClause (pageClause cursor)) cursor := by
  have hsign : ∀ c ∈ ['%', '&', '#'], c ∉ pageClause cursor := by
    intro c hc
    rw [mem_pageClause hc]
    exact h.no_sign c (List.mem_cons_of_mem _ hc)
  have hquote : '"' ∉ cursor := h.no_sign '"' (by simp)
  refine ⟨cursor, ?_, ⟨?_, ?_⟩, ?_⟩
  · rw [lastClause_eq_self_iff.2 ⟨hsign _ (by simp), hsign _ (by simp)⟩]
    exact Percent.decode?_plain (hsign _ (by simp))
  · rintro before after rfl
    simp at hquote
  · exact fun hescaped => h.not_escaping hescaped.getLast?
  · rw [unquote_eq_self_iff]
    refine ⟨fun hpair => hquote (hpair.subset (by simp)), h.no_pair⟩

/-- No reading makes a text longer, so none of them has changed a cursor that is carried. -/
theorem eq_of_carries (h : Carries (lastClause (pageClause cursor)) cursor) :
    ('#' ∉ cursor ∧ '&' ∉ cursor ∧ '%' ∉ cursor) ∧ StaysQuoted cursor ∧
      unquote '"' cursor = cursor := by
  obtain ⟨body, hdecode, hstays, hvalue⟩ := h
  have hunquote := length_unquote_le '"' body
  obtain ⟨hdecoded, hescape⟩ := Percent.length_decode?_le hdecode
  have hsub := lastClause_sublist (pageClause cursor)
  have hclause := hsub.length_le
  rw [hvalue] at hunquote
  rw [length_pageClause] at hdecoded hclause hescape
  have hwhole : lastClause (pageClause cursor) = pageClause cursor := by
    apply hsub.eq_of_length_le
    rw [length_pageClause]
    omega
  have hplain : '%' ∉ pageClause cursor := by
    intro hmem
    have hless := hescape (by rwa [hwhole])
    omega
  rw [hwhole, Percent.decode?_plain hplain, Option.some.injEq, pageClause_inj] at hdecode
  subst hdecode
  obtain ⟨hnumber, hampersand⟩ := lastClause_eq_self_iff.1 hwhole
  rw [mem_pageClause (by simp)] at hnumber hampersand hplain
  exact ⟨⟨hnumber, hampersand, hplain⟩, hstays, hvalue⟩

theorem isPlainCursor_of_carries (h : Carries (lastClause (pageClause cursor)) cursor) :
    IsPlainCursor cursor := by
  obtain ⟨⟨hnumber, hampersand, hpercent⟩, hstays, hvalue⟩ := eq_of_carries h
  obtain ⟨hescape, hpair⟩ := unquote_eq_self_iff.1 hvalue
  -- a double quote would stand after a backslash, which unquoting would drop
  have hquote : '"' ∉ cursor := by
    intro hmem
    obtain ⟨before, after, heq⟩ := List.append_of_mem hmem
    have hlast := (hstays.quotes_escaped before after heq).getLast?
    obtain ⟨rest, hrest⟩ := List.getLast?_eq_some_iff.1 hlast
    exact hescape ⟨rest, after, by rw [heq, hrest]; simp⟩
  refine ⟨?_, hpair, ?_⟩
  · simp [hquote, hpercent, hampersand, hnumber]
  · intro hlast
    obtain ⟨rest, hrest⟩ := List.getLast?_eq_some_iff.1 hlast
    have hsingle : ¬EndsEscaped rest := by
      intro hescaped
      obtain ⟨rest', hrest'⟩ := List.getLast?_eq_some_iff.1 hescaped.getLast?
      exact hpair ⟨rest', [], by rw [hrest, hrest']; simp⟩
    apply hstays.not_escaped
    rw [hrest, endsEscaped_concat]
    exact ⟨hsingle, rfl⟩

/-! ## In the query of a page -/

theorem finalClause_pageQuery (h : '#' ∉ base) (cursor : String) :
    finalClause (PageWalk.pageQuery base (some (.str cursor))) =
      lastClause (pageClause cursor.toList) := by
  cases base with
  | nil => rfl
  | cons c rest => exact lastClause_append fun hmem => h (List.mem_cons_of_mem _ hmem)

/-- A number sign in the query of the first page hides all clauses that come after it. -/
theorem finalClause_of_mem (h : '#' ∈ base) (hbase : base.head? ≠ some '#') (cursor : String) :
    finalClause (PageWalk.pageQuery base (some (.str cursor))) = finalClause base := by
  cases base with
  | nil => cases h
  | cons c rest =>
    have hrest : '#' ∈ rest := by
      rcases List.mem_cons.1 h with rfl | hrest
      · exact absurd rfl hbase
      · exact hrest
    exact lastClause_of_mem hrest

/-- What the query of a further page carries. -/
theorem carries_pageQuery_iff (hbase : base.head? ≠ some '#') (cursor : String) :
    Carries (finalClause (PageWalk.pageQuery base (some (.str cursor)))) cursor.toList ↔
      '#' ∉ base ∧ IsPlainCursor cursor.toList ∨
        '#' ∈ base ∧ Carries (finalClause base) cursor.toList := by
  by_cases h : '#' ∈ base
  · rw [finalClause_of_mem h hbase]
    simp [h]
  · rw [finalClause_pageQuery h]
    simp only [h, not_false_eq_true, true_and, false_and, or_false]
    exact ⟨isPlainCursor_of_carries, IsPlainCursor.carries⟩

end Query

end DataPortal
