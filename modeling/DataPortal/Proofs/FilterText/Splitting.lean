import DataPortal.Proofs.FilterText.Answering
import DataPortal.Proofs.Query.Quoting
/-!
# Splitting at commas

A list of literals is split at the commas that stand outside of quotes and after no backslash, and
at no others. So two lists with such a comma between them are read as the first list followed by the
second one, unless the first one ends in a blank, which does not count at the end of a list.
-/
namespace DataPortal.FilterText

open Outcome

/-- A text has a comma that ends an argument, with these texts before and after it. -/
structure CutsAt (s before after : List Char) : Prop where
  text : s = before ++ ',' :: after
  outside : Quoting.outside.after before = .outside

/-- No comma of a text ends an argument. -/
def IsOneArgument (s : List Char) : Prop :=
  ∀ before after, ¬CutsAt s before after

/-- The part of a text after the last comma that ends an argument, or all of the text. -/
structure IsLastPart (s part : List Char) : Prop where
  ends : s = part ∨ ∃ before, CutsAt s before part
  whole : IsOneArgument part

/-- The outcome of a step that may fail is a report of wrong input. -/
def Reports {α : Type} (x : Except Failure α) : Prop :=
  ∃ message hint, x = .error (.invalidInput message hint)

variable {q : Quoting} {s part : List Char}

/-! ## The texts of the arguments -/

theorem splitArguments_ne_nil (q : Quoting) (s : List Char) : splitArguments q s ≠ [] := by
  induction s generalizing q with
  | nil => simp [splitArguments]
  | cons c s ih =>
    rw [splitArguments]
    split
    · simp
    · obtain ⟨first, rest, h⟩ := List.exists_cons_of_ne_nil (ih (q.next c))
      simp [h, consFirst]

theorem consFirst_append {c : Char} {ss : List (List Char)} (h : ss ≠ []) (ts : List (List Char)) :
    consFirst c (ss ++ ts) = consFirst c ss ++ ts := by
  obtain ⟨first, rest, rfl⟩ := List.exists_cons_of_ne_nil h
  rfl

/-- A comma outside of quotes divides the arguments into those before and those after it. -/
theorem splitArguments_comma (h : q.after s = .outside) (t : List Char) :
    splitArguments q (s ++ ',' :: t) = splitArguments q s ++ splitArguments .outside t := by
  induction s generalizing q with
  | nil =>
    obtain rfl : q = .outside := h
    rfl
  | cons c s ih =>
    have hrest := @ih (q.next c) h
    rw [List.cons_append, splitArguments, splitArguments, hrest]
    split
    · rfl
    · exact consFirst_append (splitArguments_ne_nil _ _) _

theorem Quoting.eq_outside_of_splitsAt {c : Char} (h : q.splitsAt c = true) :
    c = ',' ∧ q = .outside := by
  obtain ⟨inside, escaped⟩ := q
  simp only [splitsAt, Bool.and_eq_true, beq_iff_eq, Option.isNone_iff_eq_none,
    Bool.not_eq_true'] at h
  obtain ⟨⟨rfl, rfl⟩, rfl⟩ := h
  exact ⟨rfl, rfl⟩

/-- The walk goes past a text in which no comma ends an argument. -/
theorem passes_of_no_cut (h : ∀ before after, s = before ++ ',' :: after →
    q.after before ≠ .outside) : q.Passes s (q.after s) := by
  induction s generalizing q with
  | nil => exact .nil q
  | cons c s ih =>
    refine .cons ?_ (ih ?_)
    · rw [← Bool.not_eq_true]
      intro hsplits
      obtain ⟨rfl, rfl⟩ := Quoting.eq_outside_of_splitsAt hsplits
      exact h [] s rfl rfl
    · rintro before after rfl
      exact h (c :: before) after rfl

theorem IsOneArgument.splitArguments_eq (h : IsOneArgument s) :
    splitArguments .outside s = [s] := by
  have hpasses : Quoting.outside.Passes s (Quoting.outside.after s) :=
    passes_of_no_cut fun before after htext houtside => h before after ⟨htext, houtside⟩
  have hsplit := splitArguments_append hpasses []
  rwa [List.append_nil, splitArguments, prependFirst_cons, List.append_nil] at hsplit

/-- So no comma is found exactly if the walk finds no end of an argument. -/
theorem isOneArgument_iff : IsOneArgument s ↔ splitArguments .outside s = [s] := by
  refine ⟨IsOneArgument.splitArguments_eq, ?_⟩
  rintro h before after ⟨rfl, houtside⟩
  rw [splitArguments_comma houtside] at h
  have hbefore := List.length_pos_iff.2 (splitArguments_ne_nil .outside before)
  have hafter := List.length_pos_iff.2 (splitArguments_ne_nil .outside after)
  have hone := congrArg List.length h
  rw [List.length_append, List.length_singleton] at hone
  omega

/-- The last argument is the part after the last comma. -/
theorem IsLastPart.exists_splitArguments (h : IsLastPart s part) :
    ∃ init, splitArguments .outside s = init ++ [part] := by
  rcases h.ends with rfl | ⟨before, hcut⟩
  · exact ⟨[], h.whole.splitArguments_eq⟩
  · refine ⟨splitArguments .outside before, ?_⟩
    rw [hcut.text, splitArguments_comma hcut.outside, h.whole.splitArguments_eq]

/-! ## Their values -/

theorem parseArguments_single (h : Text.strip part ≠ []) :
    parseArguments [part] = (do return [← parseValue part]) := by
  have hsome : (Text.strip part).isEmpty = false := by simpa using h
  rw [parseArguments, hsome, if_neg (by decide)]

/-- Arguments, the last of which is no blank, are read before those that follow them. -/
theorem parseArguments_append (init : List (List Char)) (h : Text.strip part ≠ [])
    {rest : List (List Char)} (hrest : rest ≠ []) :
    parseArguments (init ++ [part] ++ rest) =
      (do return (← parseArguments (init ++ [part])) ++ (← parseArguments rest)) := by
  induction init with
  | nil =>
    rw [List.nil_append, parseArguments_single h, List.singleton_append, parseArguments]
    · cases parseValue part with
      | error e => rfl
      | ok v => cases parseArguments rest <;> rfl
    · exact hrest
  | cons first init ih =>
    simp only [List.cons_append] at ih ⊢
    rw [parseArguments, parseArguments, ih]
    · cases parseValue first with
      | error e => rfl
      | ok v =>
        cases parseArguments (init ++ [part]) with
        | error e => rfl
        | ok vs => cases parseArguments rest <;> rfl
    · simp
    · simp

/-- One step reports wrong input, or the other one does after it, unless the first one meets an
integer that is too long. -/
theorem reports_bind {α β γ : Type} {long : Prop} {good : α → Prop} {x : Except Failure α}
    (hx : Answers long good x) (hread : x ≠ .error .badValue) (y : Except Failure β)
    (f : α → β → γ) : Reports (do return f (← x) (← y)) ↔ Reports x ∨ Reports y := by
  cases hx with
  | report message hint =>
    have hreport : Reports (.error (.invalidInput message hint) : Except Failure α) :=
      ⟨message, hint, rfl⟩
    exact iff_of_true ⟨message, hint, rfl⟩ (.inl hreport)
  | tooLong h => exact absurd rfl hread
  | @value a h =>
    have hfirst : ¬Reports (.ok a : Except Failure α) := by
      rintro ⟨message, hint, h⟩
      cases h
    cases y with
    | error e =>
      constructor
      · rintro ⟨message, hint, h⟩
        cases h
        exact .inr ⟨message, hint, rfl⟩
      · rintro (h | ⟨message, hint, h⟩)
        · exact absurd h hfirst
        · cases h
          exact ⟨message, hint, rfl⟩
    | ok b =>
      refine iff_of_false ?_ (not_or_intro hfirst ?_) <;>
      · rintro ⟨message, hint, h⟩
        cases h

/-- A list is read before what follows the comma after it. -/
theorem parseValueList_append {a b : List Char} (houtside : Quoting.outside.after a = .outside)
    (hlast : IsLastPart a part) (hpart : Text.strip part ≠ []) :
    parseValueList (a ++ ',' :: b) =
      (do return (← parseValueList a) ++ (← parseValueList b)) := by
  obtain ⟨init, hinit⟩ := hlast.exists_splitArguments
  rw [parseValueList, splitArguments_comma houtside, parseValueList, parseValueList, hinit]
  exact parseArguments_append init hpart (splitArguments_ne_nil _ _)

theorem IsOneArgument.parseValueList_eq (hone : IsOneArgument s) (hs : Text.strip s ≠ []) :
    parseValueList s = (do return [← parseValue s]) := by
  rw [parseValueList, hone.splitArguments_eq]
  exact parseArguments_single hs

/-- **Lists are split exactly at the commas outside of quotes.** A list whose walk ends outside of
quotes, and whose last part is no blank, is read before what follows the comma after it: the values
are those of both. Wrong input is reported exactly where it is reported of one of them, unless the
first one has an integer that is too long, which is met before anything is reported. A text without
such a comma that is no blank is one literal, however its quotes and escapes end. -/
theorem parseValueList_splits_at_commas :
    (∀ a b part : List Char, Quoting.outside.after a = .outside → IsLastPart a part →
      Text.strip part ≠ [] →
      parseValueList (a ++ ',' :: b) =
          (do return (← parseValueList a) ++ (← parseValueList b)) ∧
        (parseValueList a ≠ .error .badValue →
          (Reports (parseValueList (a ++ ',' :: b)) ↔
            Reports (parseValueList a) ∨ Reports (parseValueList b))) ∧
        (parseValueList a = .error .badValue →
          HasLongRun a ∧ parseValueList (a ++ ',' :: b) = .error .badValue)) ∧
      ∀ a : List Char, Text.strip a ≠ [] → IsOneArgument a →
        parseValueList a = (do return [← parseValue a]) := by
  refine ⟨fun a b part houtside hlast hpart => ?_, fun a ha hone => hone.parseValueList_eq ha⟩
  have hsplit := @parseValueList_append part a b houtside hlast hpart
  have hanswers := answers_parseValueList a
  refine ⟨hsplit, fun hread => ?_, fun hlong => ⟨?_, ?_⟩⟩
  · rw [hsplit]
    exact reports_bind hanswers hread _ _
  · rw [hlong] at hanswers
    cases hanswers with
    | tooLong h => exact h
  · rw [hsplit, hlong]
    rfl

/-- A comma between quotes divides nothing, also where the quotes are not closed. A short date is
reported after an integer as it is alone. -/
theorem commas_between_quotes_divide_nothing :
    parseValueList "\"a,b\", 2, 'c', ".toList = .ok [.str "a,b", .int 2, .str "c"] ∧
      parseValueList "\"a,b".toList = .ok [.str "\"a,b"] ∧
      parseValueList ['2'] ≠ .error .badValue ∧ Reports (parseValueList "2,1/2/24".toList) := by
  obtain ⟨hsplits, hone⟩ := parseValueList_splits_at_commas
  refine ⟨?_, ?_, nofun, ?_⟩
  · have hlast : IsLastPart "\"a,b\", 2".toList " 2".toList :=
      ⟨.inr ⟨"\"a,b\"".toList, rfl, rfl⟩, isOneArgument_iff.2 rfl⟩
    exact (hsplits _ " 'c', ".toList _ rfl hlast (by decide)).1
  · exact hone _ (by decide) (isOneArgument_iff.2 rfl)
  · have hlast : IsLastPart ['2'] ['2'] := ⟨.inl rfl, isOneArgument_iff.2 rfl⟩
    have hreports : Reports (parseValueList "1/2/24".toList) := ⟨_, _, rfl⟩
    exact ((hsplits ['2'] "1/2/24".toList _ rfl hlast (by decide)).2.1 nofun).2 (.inr hreports)

theorem Quoting.Passes.after_eq {r : Quoting} (h : q.Passes s r) : q.after s = r := by
  induction h with
  | nil => rfl
  | cons _ _ ih => exact ih

theorem Quoting.Passes.isOneArgument {r : Quoting} (h : Quoting.outside.Passes s r) :
    IsOneArgument s := by
  have hsplit := splitArguments_append h []
  rw [List.append_nil, splitArguments, prependFirst_cons, List.append_nil] at hsplit
  exact isOneArgument_iff.2 hsplit

/-- A short date is reported, but not after an integer that is too long. -/
theorem long_integer_hides_report :
    let a := tooManyOnes.spelling
    let b := "1/2/24".toList
    Quoting.outside.after a = .outside ∧ IsLastPart a a ∧ Text.strip a ≠ [] ∧
      Reports (parseValueList b) ∧ ¬Reports (parseValueList (a ++ ',' :: b)) := by
  intro a b
  have hpasses := tooManyOnes.passes
  have hblank : Text.strip a ≠ [] := by
    rw [tooManyOnes.hasEdges.trimmed.strip_eq]
    exact tooManyOnes.hasEdges.ne_nil
  have hlast : IsLastPart a a := ⟨.inl rfl, hpasses.isOneArgument⟩
  have hfails : parseValueList a = .error .badValue := by
    rw [hpasses.isOneArgument.parseValueList_eq hblank, parseValue_spelling, Literal.outcome,
      isTooLong_tooManyOnes]
    rfl
  refine ⟨hpasses.after_eq, hlast, hblank, ⟨_, _, rfl⟩, ?_⟩
  rw [parseValueList_append hpasses.after_eq hlast hblank, hfails]
  rintro ⟨message, hint, h⟩
  cases h

end DataPortal.FilterText
