import DataPortal.FilterText.Basic
import DataPortal.Proofs.FilterText.Spelling
import DataPortal.Proofs.Query.FilterReading
import DataPortal.Proofs.Text.Component
import DataPortal.Proofs.Text.Joining
/-!
# What gives a filter text its structure

The token of a value, whatever the value holds, is a component of plain characters and escapes.
So the signs in the text of a filter are those that the filter has: one `&` for each "and", one
`|` for each "or", and in the arguments of a membership one comma between each two values.
-/
namespace DataPortal

open Text

/-! ## Numbers -/

theorem Text.isPlainChar_digits {n : ℕ} {c : Char} (h : c ∈ digits n) : isPlainChar c = true :=
  isPlainChar_of_isDigit (Nat.isDigit_of_mem_toDigits (by decide) (by decide) h)

theorem Text.isPlainChar_paddedDigits {width n : ℕ} {c : Char} (h : c ∈ paddedDigits width n) :
    isPlainChar c = true := by
  rcases List.mem_append.1 h with h | h
  · rw [List.eq_of_mem_replicate h]
    rfl
  · exact isPlainChar_digits h

theorem Value.isComponent_intText (n : Int) : IsComponent (intText n) := by
  have hdigits : IsComponent (digits n.natAbs) :=
    isComponent_of_plain fun c hc => isPlainChar_digits hc
  unfold intText
  split
  · exact .plain rfl hdigits
  · exact hdigits

theorem Decimal.isPlainChar_positional (c : ℕ) (e : Int) :
    (∀ d ∈ (positional c e).1, isPlainChar d = true) ∧
      ∀ d ∈ (positional c e).2, isPlainChar d = true := by
  unfold positional
  split
  · exact ⟨fun d hd => isPlainChar_digits hd, by simp⟩
  · exact ⟨fun d hd => isPlainChar_paddedDigits (List.mem_of_mem_take hd),
      fun d hd => isPlainChar_paddedDigits (List.mem_of_mem_drop hd)⟩

theorem Decimal.mem_of_mem_trimZeros {d : Char} {fraction : List Char}
    (h : d ∈ trimZeros fraction) : d ∈ fraction := by
  have hsub := (List.dropWhile_sublist (· == '0') (l := fraction.reverse)).subset
  exact List.mem_reverse.1 (hsub (List.mem_reverse.1 h))

theorem Decimal.isComponent_plain (negative : Bool) (c : ℕ) (e : Int) :
    IsComponent (plain negative c e) := by
  obtain ⟨hwhole, hfraction⟩ := isPlainChar_positional c e
  have htrimmed : IsComponent (trimZeros (positional c e).2) :=
    isComponent_of_plain fun d hd => hfraction d (mem_of_mem_trimZeros hd)
  unfold plain
  refine (IsComponent.append ?_ (isComponent_of_plain hwhole)).append ?_
  · cases negative
    · exact .nil
    · exact .plain rfl .nil
  · split
    · exact .nil
    · exact .plain rfl htrimmed

namespace Query

open Outcome

/-! ## Tokens -/

theorem isComponent_floatToken (x : Binary64) : IsComponent (floatToken x) := by
  unfold floatToken
  split
  · split
    · exact Value.isComponent_intText _
    · exact Decimal.isComponent_plain ..
  · exact Percent.isComponent_encode _

theorem isComponent_decimalToken (d : Decimal) : IsComponent (decimalToken d) := by
  unfold decimalToken
  split
  · exact Decimal.isComponent_plain ..
  · exact Percent.isComponent_encode _

theorem isComponent_intToken {n : Int} {t : List Char} (h : intToken n = .ok t) :
    IsComponent t := by
  rw [intToken, Value.intText?] at h
  cases hwritable : Value.isWritable n with
  | true =>
    rw [hwritable] at h
    cases h
    exact Value.isComponent_intText n
  | false =>
    rw [hwritable] at h
    cases h

theorem isComponent_jsonToken {v : Value} {t : List Char} (h : jsonToken v = .ok t) :
    IsComponent t := by
  unfold jsonToken at h
  split at h
  · split at h
    · cases h
      exact Percent.isComponent_encode _
    · cases h
  · cases h
    exact Percent.isComponent_encode _

/-- **The token of a value is a component.** -/
theorem isComponent_token {v : Value} {t : List Char} (h : token v = .ok t) : IsComponent t := by
  have hword : ∀ s : List Char, s.all isPlainChar = true → IsComponent s :=
    fun s hs => isComponent_of_plain (List.all_eq_true.1 hs)
  cases v with
  | null => cases h; exact hword _ (by decide)
  | bool b => cases b <;> cases h <;> exact hword _ (by decide)
  | int n => exact isComponent_intToken h
  | float x => cases h; exact isComponent_floatToken x
  | decimal d => cases h; exact isComponent_decimalToken d
  | str s => cases h; exact Percent.isComponent_encode _
  | date d => cases h; exact Percent.isComponent_encode _
  | datetime d =>
    rw [token, dateTimeToken] at h
    split at h <;> cases h
    exact Percent.isComponent_encode _
  | broken s => cases h
  | list items | tuple items | dict items => exact isComponent_jsonToken h
  | bytes content | set members | unknown => cases h; exact Percent.isComponent_encode _

theorem tokens_eq_ok {vs : List Value} {ts : List (List Char)} :
    tokens vs = .ok ts ↔ vs.map token = ts.map .ok := by
  induction vs generalizing ts with
  | nil => cases ts <;> simp [tokens]
  | cons v vs ih =>
    rw [tokens, bind_eq_ok]
    constructor
    · rintro ⟨t, ht, hts⟩
      obtain ⟨us, hus, hts⟩ := bind_eq_ok.1 hts
      cases pure_eq_ok.1 hts
      rw [List.map_cons, List.map_cons, ht, ih.1 hus]
    · intro h
      cases ts with
      | nil => cases h
      | cons t us =>
        rw [List.map_cons, List.map_cons, List.cons.injEq] at h
        exact ⟨t, h.1, bind_eq_ok.2 ⟨us, ih.2 h.2, rfl⟩⟩

theorem not_mem_token {v : Value} {t : List Char} (h : token v = .ok t) {c : Char}
    (hc : c ∈ ['&', '|', ',']) : c ∉ t := by
  have hall : ['&', '|', ','].all (fun c => !isPlainChar c && c != '%') = true := by decide
  have hsign := List.all_eq_true.1 hall c hc
  simp only [Bool.and_eq_true, Bool.not_eq_true', bne_iff_ne] at hsign
  exact (isComponent_token h).not_mem hsign.1 hsign.2

theorem not_mem_tokens {vs : List Value} {ts : List (List Char)} (h : tokens vs = .ok ts)
    {c : Char} (hc : c ∈ ['&', '|', ',']) : ∀ t ∈ ts, c ∉ t := by
  intro t ht
  have hmem : .ok t ∈ vs.map token := by
    rw [tokens_eq_ok.1 h]
    exact List.mem_map_of_mem ht
  obtain ⟨v, -, hv⟩ := List.mem_map.1 hmem
  exact not_mem_token hv hc

/-! ## Conditions -/

/-- The field that a condition is on. -/
def Condition.field? : Condition → Option String
  | .comparison field _ _ | .text field _ _ | .membership field _ _ => some field
  | .foreign _ => none

theorem not_mem_callText {c : Char} {field method arguments : List Char} (hfield : c ∉ field)
    (hmethod : c ∉ method) (harguments : c ∉ arguments) (hc : c ∉ ['.', '(', ')']) :
    c ∉ callText field method arguments := by
  simp only [List.mem_cons, List.not_mem_nil, or_false, not_or] at hc
  simp [callText, hfield, hmethod, harguments, hc]

/-- No condition has a sign in it that joins conditions. -/
theorem Condition.not_mem_render (x : Condition) {u : List Char} (h : x.render = .ok u)
    (hname : ∀ field ∈ x.field?, FilterText.isFieldName field.toList = true) {c : Char}
    (hc : c ∈ ['&', '|']) : c ∉ u := by
  have hsign : c ∈ ['&', '|', ','] := List.mem_append_left [','] hc
  have hplace : c ∉ ['.', '(', ')'] ∧ c ≠ ',' ∧ FilterText.isNameChar c = false := by
    simp only [List.mem_cons, List.not_mem_nil, or_false] at hc
    rcases hc with rfl | rfl <;> decide
  obtain ⟨hcall, hcomma, hnameChar⟩ := hplace
  have hnames : ∀ word : List Char, (∀ d ∈ word, FilterText.isNameChar d = true) → c ∉ word := by
    intro word hword hmem
    have hchar := hword c hmem
    rw [hnameChar] at hchar
    cases hchar
  have hfield : ∀ field ∈ x.field?, c ∉ field.toList :=
    fun field hx => hnames _ (FilterText.nameChar_of_mem (hname field hx))
  cases x with
  | comparison field o v =>
    obtain ⟨t, ht, hu⟩ := bind_eq_ok.1 h
    cases pure_eq_ok.1 hu
    have hsymbol : c ∉ o.symbol := by
      simp only [List.mem_cons, List.not_mem_nil, or_false] at hc
      rcases hc with rfl | rfl <;> cases o <;> decide
    simp [hfield field rfl, hsymbol, not_mem_token ht hsign]
  | text field o v =>
    obtain ⟨t, ht, hu⟩ := bind_eq_ok.1 h
    cases pure_eq_ok.1 hu
    exact not_mem_callText (hfield field rfl) (hnames _ (List.all_eq_true.1 (by cases o <;> rfl)))
      (not_mem_token ht hsign) hcall
  | membership field o vs =>
    obtain ⟨ts, hts, hu⟩ := bind_eq_ok.1 h
    cases pure_eq_ok.1 hu
    refine not_mem_callText (hfield field rfl) (hnames _ (List.all_eq_true.1 (by cases o <;> rfl))) ?_ hcall
    -- the commas are between the tokens, and neither is a sign that joins conditions
    intro hmem
    rcases mem_joinWith hmem with hmem | ⟨t, ht, hmem⟩
    · exact hcomma (List.mem_singleton.1 hmem)
    · exact not_mem_tokens hts hsign t ht hmem
  | foreign v => cases h

/-- The arguments of a membership are cut at their commas into the tokens of its values. -/
theorem Condition.exists_arguments {field : String} {o : Membership} {vs : List Value}
    {u : List Char} (h : (Condition.membership field o vs).render = .ok u) (hne : vs ≠ []) :
    ∃ arguments, u = callText field.toList o.name.toList arguments ∧
      (pieces (· == ',') arguments).map .ok = vs.map token := by
  obtain ⟨ts, hts, hu⟩ := bind_eq_ok.1 h
  have htokens := tokens_eq_ok.1 hts
  have hsome : ts ≠ [] := by
    rintro rfl
    exact hne (by simpa using htokens)
  refine ⟨joinWith [','] ts, (pure_eq_ok.1 hu).symm, ?_⟩
  rw [pieces_joinWith hsome (not_mem_tokens hts (by decide)), htokens]

namespace Filter

/-! ## Filters -/

/-- The number of times "and" stands in a filter. -/
def ands : Filter → ℕ
  | .condition _ => 0
  | .and left right => left.ands + right.ands + 1
  | .or left right => left.ands + right.ands

/-- The number of times "or" stands in a filter. -/
def ors : Filter → ℕ
  | .condition _ => 0
  | .and left right => left.ors + right.ors
  | .or left right => left.ors + right.ors + 1

theorem render_and_eq_ok {l r : Filter} {s : List Char} (h : (and l r).render = .ok s) :
    ∃ a b, l.render = .ok a ∧ r.render = .ok b ∧ s = l.asConjunct a ++ '&' :: r.asConjunct b := by
  obtain ⟨a, ha, h⟩ := bind_eq_ok.1 h
  obtain ⟨b, hb, h⟩ := bind_eq_ok.1 h
  exact ⟨a, b, ha, hb, (pure_eq_ok.1 h).symm⟩

theorem render_or_eq_ok {l r : Filter} {s : List Char} (h : (or l r).render = .ok s) :
    ∃ a b, l.render = .ok a ∧ r.render = .ok b ∧ s = a ++ '|' :: b := by
  obtain ⟨a, ha, h⟩ := bind_eq_ok.1 h
  obtain ⟨b, hb, h⟩ := bind_eq_ok.1 h
  exact ⟨a, b, ha, hb, (pure_eq_ok.1 h).symm⟩

theorem count_asConjunct (f : Filter) (s : List Char) {c : Char} (hc : c ∉ ['(', ')']) :
    (f.asConjunct s).count c = s.count c := by
  simp only [List.mem_cons, List.not_mem_nil, or_false, not_or] at hc
  unfold asConjunct
  split
  · simp [parenthesized, Ne.symm hc.1, Ne.symm hc.2]
  · rfl

theorem infix_asConjunct (f : Filter) (s : List Char) : s <:+: f.asConjunct s := by
  unfold asConjunct
  split
  · exact ⟨['('], [')'], rfl⟩
  · exact List.infix_refl s

/-- A sign that is in no condition stands in the text of a filter where it joins conditions. -/
theorem count_render {f : Filter} {s : List Char} (h : f.render = .ok s)
    (hconditions : ∀ x ∈ f.conditions, ∀ u, x.render = .ok u → '&' ∉ u ∧ '|' ∉ u) :
    s.count '&' = f.ands ∧ s.count '|' = f.ors := by
  induction f generalizing s with
  | condition x =>
    obtain ⟨hand, hor⟩ := hconditions x (by simp [conditions]) s h
    exact ⟨List.count_eq_zero_of_not_mem hand, List.count_eq_zero_of_not_mem hor⟩
  | and l r ihl ihr =>
    -- the parentheses round an "or" add no sign
    obtain ⟨a, b, ha, hb, rfl⟩ := render_and_eq_ok h
    obtain ⟨hla, hlo⟩ := ihl ha fun x hx => hconditions x (by simp [conditions, hx])
    obtain ⟨hra, hro⟩ := ihr hb fun x hx => hconditions x (by simp [conditions, hx])
    constructor
    · rw [List.count_append, List.count_cons, count_asConjunct l a (by decide),
        count_asConjunct r b (by decide), hla, hra, ands]
      simp only [beq_self_eq_true, if_true]
      omega
    · rw [List.count_append, List.count_cons, count_asConjunct l a (by decide),
        count_asConjunct r b (by decide), hlo, hro, ors]
      rfl
  | or l r ihl ihr =>
    obtain ⟨a, b, ha, hb, rfl⟩ := render_or_eq_ok h
    obtain ⟨hla, hlo⟩ := ihl ha fun x hx => hconditions x (by simp [conditions, hx])
    obtain ⟨hra, hro⟩ := ihr hb fun x hx => hconditions x (by simp [conditions, hx])
    constructor
    · rw [List.count_append, List.count_cons, hla, hra, ands]
      rfl
    · rw [List.count_append, List.count_cons, hlo, hro, ors]
      simp only [beq_self_eq_true, if_true]
      omega

/-- Each condition of a filter that has a text has one, and it stands in the filter's. -/
theorem exists_infix {f : Filter} {s : List Char} (h : f.render = .ok s) {x : Condition}
    (hx : x ∈ f.conditions) : ∃ u, x.render = .ok u ∧ u <:+: s := by
  induction f generalizing s with
  | condition y =>
    cases List.mem_singleton.1 hx
    exact ⟨s, h, List.infix_refl s⟩
  | and l r ihl ihr =>
    obtain ⟨a, b, ha, hb, rfl⟩ := render_and_eq_ok h
    rcases List.mem_append.1 hx with hx | hx
    · obtain ⟨u, hu, hin⟩ := ihl ha hx
      have hleft : l.asConjunct a <:+: l.asConjunct a ++ '&' :: r.asConjunct b :=
        (List.prefix_append ..).isInfix
      exact ⟨u, hu, (hin.trans (infix_asConjunct l a)).trans hleft⟩
    · obtain ⟨u, hu, hin⟩ := ihr hb hx
      have hright : r.asConjunct b <:+: l.asConjunct a ++ '&' :: r.asConjunct b :=
        ((List.suffix_cons ..).trans (List.suffix_append ..)).isInfix
      exact ⟨u, hu, (hin.trans (infix_asConjunct r b)).trans hright⟩
  | or l r ihl ihr =>
    obtain ⟨a, b, ha, hb, rfl⟩ := render_or_eq_ok h
    rcases List.mem_append.1 hx with hx | hx
    · obtain ⟨u, hu, hin⟩ := ihl ha hx
      exact ⟨u, hu, hin.trans (List.prefix_append ..).isInfix⟩
    · obtain ⟨u, hu, hin⟩ := ihr hb hx
      exact ⟨u, hu, hin.trans ((List.suffix_cons ..).trans (List.suffix_append ..)).isInfix⟩

/-- **No value adds structure.** The token of a value is a component. So in the text of a filter
on field names there is one `&` for each "and" and one `|` for each "or", and every membership
among some values stands in it with arguments that are cut at their commas into the tokens of
these values, in their order. -/
theorem values_add_no_structure :
    (∀ v t, token v = .ok t → IsComponent t) ∧
      ∀ f : Filter,
        (∀ x ∈ f.conditions, ∀ field ∈ x.field?,
          FilterText.isFieldName field.toList = true) →
        ∀ s, f.render = .ok s →
          s.count '&' = f.ands ∧ s.count '|' = f.ors ∧
            ∀ field o values, .membership field o values ∈ f.conditions → values ≠ [] →
              ∃ arguments,
                (Condition.membership field o values).render =
                  .ok (callText field.toList o.name.toList arguments) ∧
                callText field.toList o.name.toList arguments <:+: s ∧
                (pieces (· == ',') arguments).map .ok = values.map token := by
  refine ⟨fun v t => isComponent_token, ?_⟩
  intro f hnames s hs
  obtain ⟨hands, hors⟩ := count_render hs fun x hx u hu =>
    ⟨x.not_mem_render hu (hnames x hx) (by decide), x.not_mem_render hu (hnames x hx) (by decide)⟩
  refine ⟨hands, hors, ?_⟩
  intro field o values hx hne
  obtain ⟨u, hu, hin⟩ := exists_infix hs hx
  obtain ⟨arguments, rfl, hpieces⟩ := Condition.exists_arguments hu hne
  exact ⟨arguments, hu, hin, hpieces⟩

/-- Values with a `|`, a `&` and parentheses in them: only the filter's own signs are counted,
and the arguments are cut into two. -/
theorem nested_structure :
    (∀ x ∈ nested.conditions, ∀ field ∈ x.field?,
        FilterText.isFieldName field.toList = true) ∧
      ∃ s, nested.render = .ok s ∧ s.count '&' = 3 ∧ s.count '|' = 3 ∧
        ∃ arguments, callText "c".toList "in".toList arguments <:+: s ∧
          (pieces (· == ',') arguments).map .ok =
            [token .null, .ok "%22(%26)%22".toList] := by
  have hnames : ∀ x ∈ nested.conditions, ∀ field ∈ x.field?,
      FilterText.isFieldName field.toList = true := by
    intro x hx
    simp only [nested, conditions, comparing, matching, List.cons_append, List.nil_append,
      List.mem_cons, List.not_mem_nil, or_false] at hx
    rcases hx with rfl | rfl | rfl | rfl | rfl | rfl | rfl <;> rintro field ⟨⟩ <;> decide
  obtain ⟨s, hs⟩ : ∃ s, nested.render = .ok s := ⟨_, rfl⟩
  have hmem : .membership "c" .among [.null, .str "(&)"] ∈ nested.conditions := by
    simp [nested, conditions, comparing, matching]
  obtain ⟨hands, hors, hcut⟩ := values_add_no_structure.2 nested hnames s hs
  obtain ⟨arguments, -, hin, hpieces⟩ := hcut _ _ _ hmem (by simp)
  exact ⟨hnames, s, hs, hands, hors, arguments, hin, hpieces⟩

end Filter
end Query
end DataPortal
