import DataPortal.FilterText.Basic
import DataPortal.Proofs.Number.Numeral
import DataPortal.Proofs.Outcome
import DataPortal.Proofs.Query.FilterReading
import DataPortal.Proofs.Text.Digits
import DataPortal.Proofs.Text.Trimming
/-!
# Every text is answered

Whatever text is read as a filter, it is answered: with a filter that can be used, or with a
report of wrong input that has a hint. Only an integer of too many digits is met by neither. Each
reader is shown to answer, with what it says of its values, from the readers that it calls.
-/
namespace DataPortal.FilterText

open Query

/-- A run of more digits than an integer may have stands in a text. -/
def HasLongRun (s : List Char) : Prop :=
  ∃ ds, ds <:+: s ∧ (∀ c ∈ ds, Text.isDigit c = true) ∧ Text.maxDigits < ds.length

theorem HasLongRun.mono {s t : List Char} (h : HasLongRun s) (hst : s <:+: t) : HasLongRun t := by
  obtain ⟨ds, hds, hrun⟩ := h
  exact ⟨ds, hds.trans hst, hrun⟩

/-- An answer is a value of which something holds, or a report of wrong input with a hint. Where an
integer may be too long there is also the failure to read it. -/
inductive Answers {α : Type} (long : Prop) (good : α → Prop) : Except Failure α → Prop where
  | value {a : α} (h : good a) : Answers long good (.ok a)
  | report (message hint : String) : Answers long good (.error (.invalidInput message hint))
  | tooLong (h : long) : Answers long good (.error .badValue)

variable {α β : Type} {long long' : Prop} {good : α → Prop} {good' : β → Prop}

theorem Answers.bind {x : Except Failure α} {f : α → Except Failure β} (hx : Answers long good x)
    (hf : ∀ a, good a → Answers long good' (f a)) : Answers long good' (x >>= f) := by
  cases hx with
  | value h => exact hf _ h
  | report message hint => exact .report message hint
  | tooLong h => exact .tooLong h

theorem Answers.mono {x : Except Failure α} (hx : Answers long good x) (h : long → long') :
    Answers long' good x := by
  cases hx with
  | value h => exact .value h
  | report message hint => exact .report message hint
  | tooLong hlong => exact .tooLong (h hlong)

/-! ## Literals -/

/-- The values that literals have. -/
inductive IsLiteral : Value → Prop where
  | null : IsLiteral .null
  | bool (b : Bool) : IsLiteral (.bool b)
  | int {n : Int} (h : Value.isWritable n = true) : IsLiteral (.int n)
  | float (x : Binary64) : IsLiteral (.float x)
  | str (s : String) : IsLiteral (.str s)

theorem IsLiteral.exists_token {v : Value} (h : IsLiteral v) : ∃ t, token v = .ok t := by
  cases h with
  | bool b => cases b <;> exact ⟨_, rfl⟩
  | null | float x | str s => exact ⟨_, rfl⟩
  | int h => exact ⟨_, by rw [token, intToken, Value.intText?, if_pos h]⟩

theorem answers_checkDate (s : List Char) : Answers long (fun _ => True) (checkDate s) := by
  unfold checkDate
  split
  · exact .report ..
  · split
    · split
      · exact .value trivial
      · exact .report ..
    · split
      · split
        · exact .value trivial
        · exact .report ..
      · exact .value trivial

theorem answers_quotedText (mark : Char) (inner : List Char) :
    Answers long IsLiteral (quotedText mark inner) :=
  (answers_checkDate _).bind fun _ _ => .value (.str _)

/-- The whole digits of a numeral stand in its text. -/
theorem whole_isInfix {s : List Char} {n : Numeral} (h : Numeral.read? s = some n) :
    n.whole <:+: s := by
  have hsign : (Numeral.takeSign s).2 <:+: s := by
    rcases Numeral.takeSign_eq s with hs | ⟨c, -, hs⟩
    · exact ⟨[], [], by simpa using hs.symm⟩
    · exact ⟨[c], [], by simpa using hs.symm⟩
  obtain ⟨-, -, ⟨-, -, rest, hrest, -⟩ | ⟨fraction, rest, -, -, hrest, -⟩⟩ :=
    Numeral.read?_eq_some h
  all_goals
    rw [hrest] at hsign
    exact (List.prefix_append ..).isInfix.trans hsign

/-- An integer that is read is short enough to be written. -/
theorem isWritable_toInt {n : Numeral} (hwhole : n.isWhole = true) (hshort : n.isTooLong = false) :
    Value.isWritable n.toInt = true := by
  have hdigits : n.whole.length ≤ Text.maxDigits := by
    simpa [Numeral.isTooLong, hwhole] using hshort
  have habs : n.toInt.natAbs = Text.digitsValue n.whole := by
    rw [Numeral.toInt]
    split <;> simp
  rw [Value.isWritable_iff, habs]
  calc Text.digitsValue n.whole < 10 ^ n.whole.length := Text.digitsValue_lt_pow _
    _ ≤ 10 ^ Text.maxDigits := Nat.pow_le_pow_right (by decide) hdigits

theorem answers_numberOf {s : List Char} {n : Numeral} (h : Numeral.read? s = some n) :
    Answers (HasLongRun s) IsLiteral (numberOf n) := by
  rw [numberOf]
  cases hlong : n.isTooLong with
  | true =>
    have hdigits : Text.maxDigits < n.whole.length := by
      simp only [Numeral.isTooLong, Bool.and_eq_true, decide_eq_true_eq] at hlong
      exact hlong.2
    exact .tooLong ⟨n.whole, whole_isInfix h, (Numeral.read?_eq_some h).2.1, hdigits⟩
  | false =>
    rw [if_neg Bool.false_ne_true]
    cases hwhole : n.isWhole
    · exact .value (.float _)
    · exact .value (.int (isWritable_toInt hwhole hlong))

theorem answers_bareText (s : List Char) : Answers (HasLongRun s) IsLiteral (bareText s) := by
  unfold bareText
  split
  · rename_i n hread
    exact answers_numberOf hread
  · split
    · exact .report ..
    · exact .value (.str _)

theorem answers_parseTrimmed (s : List Char) :
    Answers (HasLongRun s) IsLiteral (parseTrimmed s) := by
  unfold parseTrimmed
  split
  · exact .value .null
  · split
    · exact .value (.bool true)
    · split
      · exact .value (.bool false)
      · split
        · exact answers_quotedText ..
        · exact answers_quotedText ..
        · exact answers_bareText _

theorem answers_parseValue (s : List Char) : Answers (HasLongRun s) IsLiteral (parseValue s) :=
  (answers_parseTrimmed _).mono fun h => h.mono (Text.strip_isInfix s)

/-- The first argument begins its text, and every other one stands in it. -/
theorem splitArguments_parts (q : Quoting) (s : List Char) :
    ∃ first rest, splitArguments q s = first :: rest ∧ first <+: s ∧
      ∀ part ∈ rest, part <:+: s := by
  induction s generalizing q with
  | nil => exact ⟨[], [], rfl, List.nil_prefix, by simp⟩
  | cons c s ih =>
    obtain ⟨first, rest, hsplit, hfirst, hrest⟩ := ih (q.next c)
    have hmore : ∀ part ∈ rest, part <:+: c :: s := fun part hpart =>
      (hrest part hpart).trans (List.suffix_cons c s).isInfix
    rw [splitArguments, hsplit]
    split
    · refine ⟨[], first :: rest, rfl, List.nil_prefix, List.forall_mem_cons.2 ⟨?_, hmore⟩⟩
      exact hfirst.isInfix.trans (List.suffix_cons c s).isInfix
    · exact ⟨c :: first, rest, rfl, List.cons_prefix_cons.2 ⟨rfl, hfirst⟩, hmore⟩

theorem isInfix_of_mem_splitArguments {q : Quoting} {s part : List Char}
    (h : part ∈ splitArguments q s) : part <:+: s := by
  obtain ⟨first, rest, hsplit, hfirst, hrest⟩ := splitArguments_parts q s
  rw [hsplit] at h
  rcases List.mem_cons.1 h with rfl | h
  · exact hfirst.isInfix
  · exact hrest part h

theorem answers_parseArguments {ss : List (List Char)} (h : ∀ s ∈ ss, HasLongRun s → long) :
    Answers long (fun vs => ∀ v ∈ vs, IsLiteral v) (parseArguments ss) := by
  induction ss using parseArguments.induct with
  | case1 => exact .value (by simp)
  | case2 last hblank =>
    rw [parseArguments, if_pos hblank]
    exact .value (by simp)
  | case3 last hblank =>
    rw [parseArguments, if_neg hblank]
    exact ((answers_parseValue last).mono (h last (by simp))).bind fun v hv =>
      .value (by simpa using hv)
  | case4 s rest hne ih =>
    rw [parseArguments]
    · exact ((answers_parseValue s).mono (h s (by simp))).bind fun v hv =>
        (ih fun s hs => h s (by simp [hs])).bind fun vs hvs =>
          .value (List.forall_mem_cons.2 ⟨hv, hvs⟩)
    · exact hne

theorem answers_parseValueList (s : List Char) :
    Answers (HasLongRun s) (fun vs => ∀ v ∈ vs, IsLiteral v) (parseValueList s) :=
  answers_parseArguments fun _ hpart h => h.mono (isInfix_of_mem_splitArguments hpart)

/-! ## Filters -/

/-- The filters that texts are read as. -/
inductive IsRead : Parsed → Prop where
  | comparison {field : String} (hfield : isFieldName field.toList = true) (o : Comparison)
      {v : Value} (hv : IsLiteral v) : IsRead ⟨field, .compare o, v, none⟩
  | textMatch {field : String} (hfield : isFieldName field.toList = true) (o : TextMatch)
      (s : String) : IsRead ⟨field, .matchText o, .str s, none⟩
  | membership {field : String} (hfield : isFieldName field.toList = true) (o : Membership)
      {vs : List Value} (hvs : ∀ v ∈ vs, IsLiteral v) :
      IsRead ⟨field, .member o, vs.headD .null, some vs⟩

theorem answers_parseCall {field : String} (hfield : isFieldName field.toList = true)
    (operation : Operation) (arguments : List Char) :
    Answers (HasLongRun arguments) IsRead (parseCall field operation arguments) := by
  unfold parseCall
  split
  · exact (answers_parseValueList _).bind fun vs hvs => .value (.membership hfield _ hvs)
  · rename_i hne
    refine (answers_parseValue arguments).bind fun v hv => ?_
    split
    · -- a comparison is not called like a method, but what is read would be sound
      cases operation with
      | compare o => exact .value (.comparison hfield o (.str _))
      | matchText o => exact .value (.textMatch hfield o _)
      | member o => exact absurd rfl (hne o)
    · exact .report ..

theorem takeComparison?_isSuffix {s literal : List Char} {o : Comparison}
    (h : takeComparison? s = some (o, literal)) : literal <:+ s := by
  unfold takeComparison? at h
  split at h
  case h_1 rest | h_2 rest =>
    -- where nothing is left after two characters, the second one is the literal
    split at h
    · cases h
      exact ⟨[_, _], rfl⟩
    · split at h
      · cases h
        exact List.suffix_cons ..
      · cases h
  case h_3 rest =>
    split at h
    · cases h
      exact ⟨[_, _], rfl⟩
    · cases h
  case h_4 rest _ | h_5 rest _ | h_6 rest =>
    split at h
    · cases h
      exact List.suffix_cons ..
    · cases h
  case h_7 => cases h

/-- A comparison has a field name, and its literal ends the text. -/
theorem splitComparison?_eq_some {s field literal : List Char} {o : Comparison}
    (h : splitComparison? s = some (field, o, literal)) :
    isFieldName field = true ∧ literal <:+ s := by
  rw [splitComparison?] at h
  split at h
  · rename_i hfield
    obtain ⟨⟨o', literal'⟩, htake, heq⟩ := Option.map_eq_some_iff.1 h
    cases heq
    exact ⟨hfield, (takeComparison?_isSuffix htake).trans (List.dropWhile_suffix _)⟩
  · cases h

theorem parenthesized?_isInfix {s inner : List Char} (h : parenthesized? s = some inner) :
    inner <:+: s := by
  unfold parenthesized? at h
  split at h
  · rename_i rest
    split at h
    · cases h
      exact rest.dropLast_prefix.isInfix.trans (List.suffix_cons '(' rest).isInfix
    · cases h
  · cases h

/-- A method call has a field name, and its arguments stand in the text. -/
theorem splitMethod?_eq_some {s field arguments : List Char} {operation : Operation}
    (h : splitMethod? s = some (field, operation, arguments)) :
    isFieldName field = true ∧ arguments <:+: s := by
  rw [splitMethod?] at h
  obtain ⟨⟨field', method⟩, -, h⟩ := Option.bind_eq_some_iff.1 h
  obtain ⟨operation', -, h⟩ := Option.bind_eq_some_iff.1 h
  obtain ⟨arguments', harguments, h⟩ := Option.bind_eq_some_iff.1 h
  split at h
  · rename_i hparts
    rw [Bool.and_eq_true] at hparts
    cases h
    exact ⟨hparts.1,
      (parenthesized?_isInfix harguments).trans (List.dropWhile_suffix _).isInfix⟩
  · cases h

/-- **Every text is answered**: it is read as a filter, or reported with a hint, unless it has an
integer that is too long. -/
theorem answers_parse (s : List Char) : Answers (HasLongRun s) IsRead (parse s) := by
  have hstrip := Text.strip_isInfix s
  unfold parse
  dsimp only
  split
  · rename_i field o literal hsplit
    obtain ⟨hname, hliteral⟩ := splitComparison?_eq_some hsplit
    have hfield : isFieldName (String.ofList field).toList = true := by
      rwa [String.toList_ofList]
    exact ((answers_parseValue literal).mono fun h => h.mono (hliteral.isInfix.trans hstrip)).bind
      fun v hv => .value (.comparison hfield o hv)
  · split
    · rename_i field operation arguments hsplit
      obtain ⟨hname, harguments⟩ := splitMethod?_eq_some hsplit
      have hfield : isFieldName (String.ofList field).toList = true := by
        rwa [String.toList_ofList]
      exact (answers_parseCall hfield operation arguments).mono fun h =>
        h.mono (harguments.trans hstrip)
    · exact .report ..

/-! ## Using what was read -/

theorem ofName?_compare (o : Comparison) :
    Membership.ofName? o.name = none ∧ Comparison.ofName? o.name = some o := by
  cases o <;> decide

theorem ofName?_matchText (o : TextMatch) :
    Membership.ofName? o.name = none ∧ Comparison.ofName? o.name = none ∧
      TextMatch.ofName? o.name = some o := by
  cases o <;> decide

theorem ofName?_member (o : Membership) : Membership.ofName? o.name = some o := by
  cases o <;> decide

/-- The condition that a filter text states. -/
def Parsed.condition (p : Parsed) : Condition :=
  match p.operation with
  | .compare o => .comparison p.field o p.value
  | .matchText o => .text p.field o p.value
  | .member o => .membership p.field o (p.values.getD [])

/-- The names of the operations are those that filters are made by. -/
theorem IsRead.toFilter_eq {p : Parsed} (h : IsRead p) :
    p.toFilter = .ok (.condition p.condition) := by
  cases h with
  | comparison hfield o hv =>
    obtain ⟨hmember, hcompare⟩ := ofName?_compare o
    simp [Parsed.toFilter, Parsed.condition, Operation.name, Filter.ofParts, Filter.operation,
      hmember, hcompare, Filter.comparing]
  | textMatch hfield o s =>
    obtain ⟨hmember, hcompare, hmatch⟩ := ofName?_matchText o
    simp [Parsed.toFilter, Parsed.condition, Operation.name, Filter.ofParts, Filter.operation,
      hmember, hcompare, hmatch, Filter.matching]
  | @membership field hfield o vs hvs =>
    -- no values are no value at all, for which an empty list stands
    have hvalues : (if (Value.list vs).isTruthy then Value.list vs else .list []) = .list vs := by
      cases vs <;> rfl
    simp [Parsed.toFilter, Parsed.condition, Operation.name, Filter.ofParts, ofName?_member,
      hvalues, Filter.amongElements, Value.elements?]

theorem exists_tokens {vs : List Value} (h : ∀ v ∈ vs, IsLiteral v) :
    ∃ ts, tokens vs = .ok ts := by
  induction vs with
  | nil => exact ⟨[], rfl⟩
  | cons v vs ih =>
    obtain ⟨t, ht⟩ := (h v (by simp)).exists_token
    obtain ⟨ts, hts⟩ := ih fun u hu => h u (by simp [hu])
    exact ⟨t :: ts, by rw [tokens, ht, hts]; rfl⟩

theorem IsRead.exists_render {p : Parsed} (h : IsRead p) : ∃ t, p.condition.render = .ok t := by
  cases h with
  | comparison hfield o hv =>
    obtain ⟨t, ht⟩ := hv.exists_token
    exact ⟨_, by rw [Parsed.condition, Condition.render, ht]; rfl⟩
  | textMatch hfield o s => exact ⟨_, rfl⟩
  | membership hfield o hvs =>
    obtain ⟨ts, hts⟩ := exists_tokens hvs
    exact ⟨_, by rw [Parsed.condition, Option.getD_some, Condition.render, hts]; rfl⟩

/-! ## What was read -/

/-- The names of all operations. -/
def operationNames : List String :=
  ["eq", "ne", "lt", "le", "gt", "ge", "contains", "startswith", "endswith", "in", "notin"]

theorem Operation.name_mem (o : Operation) : o.name ∈ operationNames := by
  cases o with
  | compare o | matchText o | member o => cases o <;> decide

namespace IsRead

variable {p : Parsed}

theorem field_name (h : IsRead p) : isFieldName p.field.toList = true := by
  cases h with
  | comparison hfield | textMatch hfield | membership hfield => exact hfield

theorem values_isSome_iff (h : IsRead p) :
    p.values.isSome = true ↔ p.operation.name ∈ ["in", "notin"] := by
  cases h with
  | comparison hfield o hv => cases o <;> simp [Operation.name, Comparison.name]
  | textMatch hfield o s => cases o <;> simp [Operation.name, TextMatch.name]
  | membership hfield o hvs => cases o <;> simp [Operation.name, Membership.name]

theorem value_eq (h : IsRead p) : ∀ vs ∈ p.values, p.value = vs.headD .null := by
  cases h with
  | comparison hfield o hv | textMatch hfield o s => rintro vs ⟨⟩
  | membership hfield o hvs =>
    rintro vs ⟨⟩
    rfl

theorem value_text (h : IsRead p)
    (hname : p.operation.name ∈ ["contains", "startswith", "endswith"]) :
    ∃ u, p.value = .str u := by
  cases h with
  | comparison hfield o hv =>
    cases o <;> simp [Operation.name, Comparison.name] at hname
  | textMatch hfield o s => exact ⟨s, rfl⟩
  | membership hfield o hvs =>
    cases o <;> simp [Operation.name, Membership.name] at hname

end IsRead

/-! ## Every text -/

theorem bareText_of_read? {s : List Char} {n : Numeral} (h : Numeral.read? s = some n) :
    bareText s = numberOf n := by
  rw [bareText, h]

/-- **A text is read or reported**, and nothing else can happen to it but that an integer in it is
too long. What is read has one of the known operations, a field name, values for a membership and
only for one, of which the first is its value, and a text for a text match; it can be used as a
filter, and that filter has a text. What is taken for a number on the way is a number to the
general readers of these too, and the same one; an integer that is too long is none to either. -/
theorem parse_reads_or_reports :
    (∀ s, (∃ message hint, parse s = .error (.invalidInput message hint)) ∨
      (∃ p f t, parse s = .ok p ∧
        p.operation.name ∈ operationNames ∧
        isFieldName p.field.toList = true ∧
        (p.values.isSome = true ↔ p.operation.name ∈ ["in", "notin"]) ∧
        (∀ vs ∈ p.values, p.value = vs.headD .null) ∧
        (p.operation.name ∈ ["contains", "startswith", "endswith"] → ∃ u, p.value = .str u) ∧
        p.toFilter = .ok f ∧ f.render = .ok t) ∨
      (parse s = .error .badValue ∧ HasLongRun s)) ∧
      ∀ s n, Numeral.read? s = some n →
        (n.isWhole = true → n.whole.length ≤ Text.maxDigits →
          Numeral.wholeIn? 10 s = some n.toInt ∧ bareText s = .ok (.int n.toInt)) ∧
        (n.isWhole = true → Text.maxDigits < n.whole.length →
          Numeral.wholeIn? 10 s = none ∧ bareText s = .error .badValue) ∧
        (n.isWhole = false →
          Binary64.ofText? s = some n.toBinary64 ∧ bareText s = .ok (.float n.toBinary64)) := by
  constructor
  · intro s
    generalize hparse : parse s = result
    have hanswer : Answers (HasLongRun s) IsRead result := hparse ▸ answers_parse s
    cases hanswer with
    | report message hint => exact .inl ⟨message, hint, rfl⟩
    | @value p hread =>
      obtain ⟨t, ht⟩ := hread.exists_render
      exact .inr (.inl ⟨p, .condition p.condition, t, rfl, p.operation.name_mem, hread.field_name,
        hread.values_isSome_iff, hread.value_eq, hread.value_text, hread.toFilter_eq, ht⟩)
    | tooLong hlong => exact .inr (.inr ⟨rfl, hlong⟩)
  · intro s n h
    have hbare := bareText_of_read? h
    rw [numberOf] at hbare
    refine ⟨fun hwhole hdigits => ?_, fun hwhole hdigits => ?_, fun hwhole => ?_⟩
    · have hshort : n.isTooLong = false := by simpa [Numeral.isTooLong, hwhole] using hdigits
      have hinteger := Numeral.wholeIn?_of_read? h hwhole
      rw [hshort, if_neg Bool.false_ne_true] at hbare hinteger
      rw [hwhole, if_pos rfl] at hbare
      exact ⟨hinteger, hbare⟩
    · have hlong : n.isTooLong = true := by simpa [Numeral.isTooLong, hwhole] using hdigits
      have hinteger := Numeral.wholeIn?_of_read? h hwhole
      rw [hlong, if_pos rfl] at hbare hinteger
      exact ⟨hinteger, hbare⟩
    · have hshort : n.isTooLong = false := by simp [Numeral.isTooLong, hwhole]
      rw [hshort, if_neg Bool.false_ne_true, hwhole, if_neg Bool.false_ne_true] at hbare
      exact ⟨Numeral.ofText?_of_read? h, hbare⟩

/-- A whole number in the digits of another script, alone and among arguments of which the last
is blank. -/
theorem forty_two_is_read :
    let n : Numeral := ⟨true, "४२".toList, none, none⟩
    let p : Parsed := ⟨"n", .member .notAmong, .int (-42), some [.int (-42), .str "x"]⟩
    Numeral.read? "-४२".toList = some n ∧ n.isWhole = true ∧
      Numeral.wholeIn? 10 "-४२".toList = some (-42) ∧
      bareText "-४२".toList = .ok (.int (-42)) ∧
      parse "n.notin(-४२, 'x', )".toList = .ok p ∧
      p.operation.name ∈ operationNames ∧ p.values.isSome = true ∧
      ∃ f t, p.toFilter = .ok f ∧ f.render = .ok t := by
  intro n p
  have hnumeral : Numeral.read? "-४२".toList = some n := by rfl
  have hparse : parse "n.notin(-४२, 'x', )".toList = .ok p := by rfl
  obtain ⟨hanswers, hnumbers⟩ := parse_reads_or_reports
  obtain ⟨hwhole, hbare⟩ := (hnumbers _ n hnumeral).1 rfl (by decide)
  refine ⟨hnumeral, rfl, hwhole, hbare, hparse, ?_⟩
  rcases hanswers "n.notin(-४२, 'x', )".toList with
    ⟨message, hint, herror⟩ | ⟨q, f, t, hq, hname, -, hvalues, -, -, hf, ht⟩ | ⟨herror, -⟩
  · rw [hparse] at herror
    cases herror
  · cases hparse.symm.trans hq
    exact ⟨hname, hvalues.2 (by decide), f, t, hf, ht⟩
  · rw [hparse] at herror
    cases herror

end DataPortal.FilterText
