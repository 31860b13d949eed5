import DataPortal.FilterText.Basic
import DataPortal.Proofs.FilterText.Arguments
import DataPortal.Proofs.Text.Joining
/-!
# Spelled filters

A filter spelled with literals is read as what it was, whatever its field is called: the name
ends at the sign of a comparison or at a parenthesis, neither of which can be in a name, and of
the points in front of a parenthesis the last one ends the field.
-/
namespace DataPortal.FilterText

open Query

/-- The spelled filters on a field, with the literals in them, and what they mean. -/
inductive Spells (field : List Char) : List Literal → List Char → Parsed → Prop where
  | comparison (o : Comparison) (l : Literal) :
      Spells field [l] (field ++ o.symbol ++ l.spelling)
        ⟨String.ofList field, .compare o, l.value, none⟩
  | textMatch (m : TextMatch) (t : QuotedText) :
      Spells field [.text t] (callText field m.name.toList t.spelling)
        ⟨String.ofList field, .matchText m, .str (String.ofList t.content), none⟩
  | membership (m : Membership) (a : Argument) (as : List Argument) :
      Spells field ((a :: as).map Argument.literal)
        (callText field m.name.toList (spelledArguments (a :: as)))
        ⟨String.ofList field, .member m, a.value, some ((a :: as).map Argument.value)⟩

/-! ## Field names -/

theorem nameChar_of_mem {field : List Char} (h : isFieldName field = true) :
    ∀ c ∈ field, isNameChar c = true := by
  cases field with
  | nil => cases h
  | cons c field =>
    simp only [isFieldName, Bool.and_eq_true, List.all_eq_true] at h
    intro d hd
    rcases List.mem_cons.1 hd with rfl | hd
    · simp [isNameChar, h.1]
    · exact h.2 d hd

theorem isBlank_nameChar {c : Char} (h : isNameChar c = true) : Text.isBlank c = false := by
  have hcases : (97 ≤ c.toNat ∧ c.toNat ≤ 122) ∨ (65 ≤ c.toNat ∧ c.toNat ≤ 90) ∨
      c.toNat = 95 ∨ (48 ≤ c.toNat ∧ c.toNat ≤ 57) ∨ c.toNat = 46 := by
    simp only [isNameChar, isNameStart, Bool.or_eq_true, Bool.and_eq_true, decide_eq_true_eq,
      beq_iff_eq] at h
    rcases h with (((h | h) | rfl) | h) | rfl
    · exact .inl h
    · exact .inr (.inl h)
    · exact .inr (.inr (.inl rfl))
    · exact .inr (.inr (.inr (.inl h)))
    · exact .inr (.inr (.inr (.inr rfl)))
  simp [Text.isBlank]
  omega

theorem trimmed_of_isFieldName {field : List Char} (h : isFieldName field = true) :
    Text.IsTrimmed field := by
  have hchars : ∀ c ∈ field, Text.isBlank c = false := by
    intro c hc
    exact isBlank_nameChar (nameChar_of_mem h c hc)
  refine ⟨?_, ?_, ?_⟩
  · rintro rfl
    cases h
  · intro c hc
    exact hchars c (List.mem_of_mem_head? hc)
  · intro c hc
    exact hchars c (List.mem_of_mem_getLast? hc)

/-! ## Comparisons -/

theorem takeComparison?_symbol (o : Comparison) {s : List Char} (hs : isLine s = true)
    (hhead : ∀ c ∈ s.head?, c ≠ '=') : takeComparison? (o.symbol ++ s) = some (o, s) := by
  cases s with
  | nil => cases hs
  | cons c s =>
    have hc : c ≠ '=' := hhead c rfl
    cases o <;> simp [Comparison.symbol, takeComparison?, hs, hc]

theorem splitComparison?_spelled {field s : List Char} (hfield : isFieldName field = true)
    (o : Comparison) (hs : isLine s = true) (hhead : ∀ c ∈ s.head?, c ≠ '=') :
    splitComparison? (field ++ o.symbol ++ s) = some (field, o, s) := by
  have hstop : Text.StopsRun isNameChar (o.symbol ++ s) := by
    cases o <;> · intro c hc; cases hc; rfl
  rw [splitComparison?, List.append_assoc, Text.takeWhile_run (nameChar_of_mem hfield) hstop,
    Text.dropWhile_run (nameChar_of_mem hfield) hstop, if_pos hfield,
    takeComparison?_symbol o hs hhead]
  rfl

/-! ## Method calls -/

theorem cutAtLastPoint?_append {last : List Char} (h : '.' ∉ last) (s : List Char) :
    cutAtLastPoint? (s ++ '.' :: last) = some (s, last) := by
  have hrun : ∀ c ∈ last.reverse, (c != '.') = true := by
    intro c hc
    rw [bne_iff_ne]
    rintro rfl
    exact h (List.mem_reverse.1 hc)
  have hstop : Text.StopsRun (· != '.') ('.' :: s.reverse) := by
    intro c hc
    cases hc
    rfl
  have hreverse : (s ++ '.' :: last).reverse = last.reverse ++ '.' :: s.reverse := by simp
  rw [cutAtLastPoint?, hreverse, Text.takeWhile_run hrun hstop, Text.dropWhile_run hrun hstop]
  simp

theorem parenthesized?_call (s : List Char) : parenthesized? ('(' :: s ++ [')']) = some s := by
  simp [parenthesized?]

/-- A word that is called like a method: no sign is in it, and it names its operation. -/
structure IsMethod (name : String) (operation : Operation) : Prop where
  chars : ∀ c ∈ name.toList, isNameChar c = true
  no_point : '.' ∉ name.toList
  ofMethod? : Operation.ofMethod? name = some operation

theorem isMethod_textMatch (m : TextMatch) : IsMethod m.name (.matchText m) := by
  cases m <;> exact ⟨List.all_eq_true.1 rfl, by decide, by decide⟩

theorem isMethod_membership (m : Membership) : IsMethod m.name (.member m) := by
  cases m <;> exact ⟨List.all_eq_true.1 rfl, by decide, by decide⟩

theorem split_call {field arguments : List Char} {name : String} {operation : Operation}
    (hfield : isFieldName field = true) (hname : IsMethod name operation)
    (harguments : isLine arguments = true) :
    splitComparison? (callText field name.toList arguments) = none ∧
      splitMethod? (callText field name.toList arguments) =
        some (field, operation, arguments) := by
  have hrun : ∀ c ∈ field ++ '.' :: name.toList, isNameChar c = true := by
    intro c hc
    rcases List.mem_append.1 hc with hc | hc
    · exact nameChar_of_mem hfield c hc
    · rcases List.mem_cons.1 hc with rfl | hc
      · rfl
      · exact hname.chars c hc
  have hstop : Text.StopsRun isNameChar ('(' :: arguments ++ [')']) := by
    intro c hc
    cases hc
    rfl
  have hcall : callText field name.toList arguments =
      (field ++ '.' :: name.toList) ++ ('(' :: arguments ++ [')']) := by
    simp [callText]
  rw [splitComparison?, splitMethod?, hcall, Text.takeWhile_run hrun hstop,
    Text.dropWhile_run hrun hstop]
  constructor
  · -- no comparison begins with a parenthesis
    split
    · rfl
    · rfl
  · rw [cutAtLastPoint?_append hname.no_point, Option.bind_some]
    dsimp only
    rw [String.ofList_toList, hname.ofMethod?, Option.bind_some, parenthesized?_call,
      Option.bind_some, if_pos (by simp [hfield, harguments])]

/-! ## Spelled filters are read -/

theorem isLine_iff {s : List Char} : isLine s = true ↔ s ≠ [] ∧ '\n' ∉ s := by
  simp [isLine]

theorem Literal.isLine_spelling (l : Literal) : isLine l.spelling = true :=
  isLine_iff.2 ⟨l.hasEdges.ne_nil, l.one_line⟩

theorem isLine_spelledArguments (a : Argument) (as : List Argument) :
    isLine (spelledArguments (a :: as)) = true := by
  have hline : ∀ b : Argument, '\n' ∉ b.spelling := by
    intro b hb
    rw [Argument.spelling, List.mem_append, List.mem_append] at hb
    rcases hb with (hb | hb) | hb
    · exact (b.space_before _ hb).2 rfl
    · exact b.literal.one_line hb
    · exact (b.space_after _ hb).2 rfl
  refine isLine_iff.2 ⟨?_, ?_⟩
  · have hne := a.literal.hasEdges.ne_nil
    cases as <;> simp [spelledArguments, Text.joinWith, Argument.spelling, hne]
  · intro h
    rcases Text.mem_joinWith h with h | ⟨s, hs, h⟩
    · exact absurd h (by decide)
    · obtain ⟨b, -, rfl⟩ := List.mem_map.1 hs
      exact hline b h

theorem parse_call {field arguments : List Char} {name : String} {operation : Operation}
    (hfield : isFieldName field = true) (hname : IsMethod name operation)
    (harguments : isLine arguments = true) {before after : List Char}
    (hbefore : ∀ c ∈ before, Text.isBlank c = true)
    (hafter : ∀ c ∈ after, Text.isBlank c = true) :
    parse (before ++ callText field name.toList arguments ++ after) =
      parseCall (String.ofList field) operation arguments := by
  have hcall : callText field name.toList arguments =
      field ++ ('.' :: name.toList ++ '(' :: arguments) ++ [')'] := by
    simp [callText]
  have htrimmed : Text.IsTrimmed (callText field name.toList arguments) := by
    rw [hcall]
    exact (trimmed_of_isFieldName hfield).append (.singleton (by decide))
  obtain ⟨hcomparison, hmethod⟩ := split_call hfield hname harguments
  rw [parse, Text.strip_padded hbefore htrimmed hafter]
  simp only [hcomparison, hmethod]

theorem parse_comparison {field : List Char} (hfield : isFieldName field = true)
    (o : Comparison) (l : Literal) {before after : List Char}
    (hbefore : ∀ c ∈ before, Text.isBlank c = true)
    (hafter : ∀ c ∈ after, Text.isBlank c = true) :
    parse (before ++ (field ++ o.symbol ++ l.spelling) ++ after) =
      (do return ⟨String.ofList field, .compare o, ← l.outcome, none⟩) := by
  have htrimmed := (trimmed_of_isFieldName hfield).append (t := o.symbol) l.hasEdges.trimmed
  -- or `<` and `>` would be taken for `<=` and `>=`
  have hhead : ∀ c ∈ l.spelling.head?, c ≠ '=' := by
    rintro c hc rfl
    exact absurd (l.hasEdges.head _ hc) (by decide)
  rw [parse, Text.strip_padded hbefore htrimmed hafter]
  simp only [splitComparison?_spelled hfield o l.isLine_spelling hhead, parseValue_spelling]

/-- **A spelled filter is read as what it was**, with any white space around it, exactly if no
integer in it is too long. Otherwise it is not read, and the failure is no report. -/
theorem Spells.parse_eq {field s : List Char} {ls : List Literal} {p : Parsed}
    (hfield : isFieldName field = true) (h : Spells field ls s p) {before after : List Char}
    (hbefore : ∀ c ∈ before, Text.isBlank c = true)
    (hafter : ∀ c ∈ after, Text.isBlank c = true) :
    parse (before ++ s ++ after) =
      if ls.any Literal.isTooLong then .error .badValue else .ok p := by
  cases h with
  | comparison o l =>
    rw [parse_comparison hfield o l hbefore hafter, Literal.outcome, List.any_cons,
      List.any_nil, Bool.or_false]
    cases l.isTooLong <;> rfl
  | textMatch m t =>
    have hline : isLine t.spelling = true := (Literal.text t).isLine_spelling
    have hvalue : parseValue t.spelling = .ok (.str (String.ofList t.content)) :=
      parseValue_spelling (.text t)
    rw [parse_call hfield (isMethod_textMatch m) hline hbefore hafter, parseCall, hvalue]
    · rfl
    · intro o h
      cases h
  | membership m a as =>
    rw [parse_call hfield (isMethod_membership m) (isLine_spelledArguments a as) hbefore hafter,
      parseCall, parseValueList_spelled, outcomes, List.map_map]
    cases ((a :: as).map Argument.literal).any Literal.isTooLong <;> rfl

/-- A text with a comma, both marks and a backslash at its end. -/
def awkward (m : QuoteMark) : QuotedText :=
  ⟨m, ",\"'\\".toList, by decide, rfl⟩

/-- Minus seven with a zero in front. -/
def minusSeven : Digits :=
  ⟨true, ['0', '7'], by decide,
    List.forall_mem_cons.2 ⟨by decide, List.forall_mem_singleton.2 (by decide)⟩⟩

/-- Two awkward texts and an integer, spaced unevenly, on a field that ends like a method. -/
theorem awkward_parse_eq :
    let field := "a.in".toList
    let first : Argument := ⟨[' '], .text (awkward .double), [], by decide, by decide⟩
    let rest : List Argument :=
      [⟨[], .integer minusSeven, ['\t'], by decide, by decide⟩,
        ⟨[], .text (awkward .single), [], by decide, by decide⟩]
    let ls := (first :: rest).map Argument.literal
    let s := callText field "notin".toList (spelledArguments (first :: rest))
    let p : Parsed := ⟨"a.in", .member .notAmong, first.value,
      some [first.value, .int (-7), first.value]⟩
    isFieldName field = true ∧ Spells field ls s p ∧
      (∀ c ∈ ['\n'], Text.isBlank c = true) ∧ (∀ c ∈ [' '], Text.isBlank c = true) ∧
      s = "a.in.notin( \",\\\"'\\\\\",-07\t,',\"\\'\\\\')".toList ∧
      parse (['\n'] ++ s ++ [' ']) = .ok p := by
  have hfield : isFieldName "a.in".toList = true := by decide
  have hbefore : ∀ c ∈ ['\n'], Text.isBlank c = true := List.all_eq_true.1 rfl
  have hafter : ∀ c ∈ [' '], Text.isBlank c = true := List.all_eq_true.1 rfl
  refine ⟨hfield, .membership .notAmong _ _, hbefore, hafter, by decide, ?_⟩
  exact Spells.parse_eq hfield (.membership .notAmong _ _) hbefore hafter

/-- So not every spelled filter is read, and what happens instead is not reported as wrong input. -/
theorem long_integer_is_not_read :
    let s := "x".toList ++ Comparison.eq.symbol ++ tooManyOnes.spelling
    let p : Parsed := ⟨"x", .compare .eq, tooManyOnes.value, none⟩
    isFieldName "x".toList = true ∧ Spells "x".toList [tooManyOnes] s p ∧
      parse s = .error .badValue := by
  have hfield : isFieldName "x".toList = true := by decide
  have hparse := @parse_comparison _ hfield .eq tooManyOnes [] [] (by simp) (by simp)
  rw [Literal.outcome, isTooLong_tooManyOnes, List.nil_append, List.append_nil] at hparse
  exact ⟨hfield, .comparison .eq tooManyOnes, hparse⟩

end DataPortal.FilterText
