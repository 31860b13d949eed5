import DataPortal.Proofs.FilterText.Splitting
import DataPortal.Proofs.Text.Template
/-!
# Words with and without quotes

A plain word is read as the same text bare and between quotes, and as an ambiguous date it is
refused bare and between quotes. The readers differ on one kind of words alone: of a text between
quotes that has the shape of a date it is asked that the date exists, of a bare word it is not.
-/
namespace DataPortal.FilterText

open Text

/-- A text with a mark in front of it and after it. -/
def QuoteMark.enclosed (m : QuoteMark) (s : List Char) : List Char :=
  m.char :: s ++ [m.char]

/-- A word that needs no quotes: it has no marks and backslashes in it and no white space at its
ends, and is neither a keyword nor a number. -/
structure IsPlainWord (w : List Char) : Prop where
  trimmed : IsTrimmed w
  no_double : '"' ∉ w
  no_single : '\'' ∉ w
  no_backslash : '\\' ∉ w
  no_keyword : w ∉ ["null".toList, "true".toList, "false".toList]
  no_number : Numeral.read? w = none

/-- A text of the shape of a date or a time that is none. -/
inductive IsFalseDate (s : List Char) : Prop where
  | day (shape : hasDateShape s = true) (unreal : isRealDate s = false)
  | time (shape : hasDateTimeShape s = true) (unreal : isRealDateTime s = false)

variable {s w : List Char}

/-! ## The verdict on a date -/

/-- A text that begins with the four digits of a year is no short date. -/
theorem isAmbiguousDate_of_takeTemplate? (template : List Char) {rest : List Char}
    (h : takeTemplate? (List.replicate 4 '#' ++ template) s = some rest) :
    isAmbiguousDate s = false := by
  obtain ⟨year, afterYear, rfl, hyear, -⟩ := (takeTemplate?_run_iff 4).1 h
  have hlong : 4 ≤ ((year ++ afterYear).takeWhile isDigit).length := by
    rw [List.takeWhile_append_of_pos hyear.isDigit, List.length_append, hyear.length_eq]
    omega
  have hnone : takeDigits? 1 2 (year ++ afterYear) = none := by
    rw [takeDigits?, if_neg]
    omega
  rw [isAmbiguousDate, hnone]
  rfl

theorem isAmbiguousDate_of_hasDateShape (h : hasDateShape s = true) :
    isAmbiguousDate s = false := by
  rw [hasDateShape, Option.any_eq_true] at h
  obtain ⟨rest, hrest, -⟩ := h
  exact isAmbiguousDate_of_takeTemplate? "-##-##".toList hrest

theorem isAmbiguousDate_of_hasDateTimeShape (h : hasDateTimeShape s = true) :
    isAmbiguousDate s = false := by
  rw [hasDateTimeShape, Option.any_eq_true] at h
  obtain ⟨rest, hrest, -⟩ := h
  exact isAmbiguousDate_of_takeTemplate? "-##-##T##:##:##".toList hrest

/-- A date ends where a time goes on. -/
theorem hasDateTimeShape_of_hasDateShape (h : hasDateShape s = true) :
    hasDateTimeShape s = false := by
  rw [hasDateShape, Option.any_eq_true] at h
  obtain ⟨rest, hrest, hend⟩ := h
  have htime : "####-##-##T##:##:##".toList = "####-##-##".toList ++ "T##:##:##".toList := rfl
  rw [hasDateTimeShape, htime, takeTemplate?_append, hrest]
  rw [isAtEnd, Bool.or_eq_true, beq_iff_eq, beq_iff_eq] at hend
  rcases hend with rfl | rfl <;> rfl

theorem IsFalseDate.isAmbiguousDate_eq (h : IsFalseDate s) : isAmbiguousDate s = false := by
  cases h with
  | day shape unreal => exact isAmbiguousDate_of_hasDateShape shape
  | time shape unreal => exact isAmbiguousDate_of_hasDateTimeShape shape

theorem IsFalseDate.checkDate_eq (h : IsFalseDate s) :
    checkDate s = .error (impossibleDate s) := by
  rw [checkDate, h.isAmbiguousDate_eq, if_neg (by decide)]
  cases h with
  | day shape unreal => rw [if_pos shape, unreal, if_neg (by decide)]
  | time shape unreal =>
    have hday : hasDateShape s = false := by
      rw [← Bool.not_eq_true]
      intro hday
      rw [hasDateTimeShape_of_hasDateShape hday] at shape
      cases shape
    rw [hday, if_neg (by decide), if_pos shape, unreal, if_neg (by decide)]

/-- Of the other texts, the ambiguous dates are refused. -/
theorem checkDate_of_not_isFalseDate (h : ¬IsFalseDate s) :
    checkDate s = if isAmbiguousDate s then .error (ambiguousDate s) else .ok () := by
  rw [checkDate]
  split
  · rfl
  · split
    · rename_i shape
      rw [if_pos]
      rw [← Bool.not_eq_false]
      exact fun unreal => h (.day shape unreal)
    · split
      · rename_i shape
        rw [if_pos]
        rw [← Bool.not_eq_false]
        exact fun unreal => h (.time shape unreal)
      · rfl

/-! ## Reading a word -/

/-- Between quotes, a word is checked as a date. -/
theorem IsPlainWord.parseValue_enclosed_eq (h : IsPlainWord w) (m : QuoteMark) :
    parseValue (m.enclosed w) = (checkDate w).map fun _ => .str (String.ofList w) := by
  rw [QuoteMark.enclosed, parseValue_enclosed, quotedText, unquote_of_notMem h.no_backslash]
  cases checkDate w <;> rfl

/-- Bare, it is looked at as a short date only. -/
theorem IsPlainWord.parseValue_eq (h : IsPlainWord w) :
    parseValue w =
      if isAmbiguousDate w then .error (ambiguousDate w) else .ok (.str (String.ofList w)) := by
  obtain ⟨hnull, htrue, hfalse, -⟩ : w ≠ "null".toList ∧ w ≠ "true".toList ∧
      w ≠ "false".toList ∧ w ∉ ([] : List (List Char)) := by
    simpa only [List.mem_cons, not_or] using h.no_keyword
  have hbetween : ∀ m : QuoteMark, between? m.char w = none := by
    intro m
    obtain ⟨c, rest, rfl⟩ := List.exists_cons_of_ne_nil h.trimmed.ne_nil
    cases m with
    | double => exact between?_ne (Ne.symm (List.ne_of_not_mem_cons h.no_double)) rest
    | single => exact between?_ne (Ne.symm (List.ne_of_not_mem_cons h.no_single)) rest
  rw [parseValue, h.trimmed.strip_eq, parseTrimmed, if_neg hnull, if_neg htrue, if_neg hfalse]
  have hdouble : between? '"' w = none := hbetween .double
  have hsingle : between? '\'' w = none := hbetween .single
  rw [hdouble, hsingle]
  show bareText w = _
  rw [bareText, h.no_number]

/-- **Quotes keep the meaning of a word**, except for a date that does not exist. Any other plain
word is the same text bare and between quotes of either kind, or the same wrong input. A word of
the shape of a date or a time that is none is refused between quotes of either kind, and is a text
without them. -/
theorem quotes_keep_plain_word {w : List Char} (h : IsPlainWord w) :
    (¬IsFalseDate w →
      (parseValue w = .ok (.str (String.ofList w)) ∨ parseValue w = .error (ambiguousDate w)) ∧
        ∀ m : QuoteMark, parseValue (m.enclosed w) = parseValue w) ∧
      (IsFalseDate w →
        parseValue w = .ok (.str (String.ofList w)) ∧
          ∀ m : QuoteMark, parseValue (m.enclosed w) = .error (impossibleDate w)) := by
  constructor
  · intro hreal
    constructor
    · rw [h.parseValue_eq]
      split
      · exact .inr rfl
      · exact .inl rfl
    · intro m
      rw [h.parseValue_eq, h.parseValue_enclosed_eq, checkDate_of_not_isFalseDate hreal]
      split <;> rfl
  · intro hfalse
    constructor
    · rw [h.parseValue_eq, hfalse.isAmbiguousDate_eq, if_neg (by decide)]
    · intro m
      rw [h.parseValue_enclosed_eq, hfalse.checkDate_eq]
      rfl

theorem isPlainWord_active : IsPlainWord "active".toList :=
  ⟨(hasEdges_of_all (by decide) rfl).trimmed, by decide, by decide, by decide, by decide, rfl⟩

theorem isPlainWord_falseDate : IsPlainWord "2024-02-30".toList :=
  ⟨(hasEdges_of_all (by decide) rfl).trimmed, by decide, by decide, by decide, by decide, rfl⟩

/-- An ordinary word needs no quotes, and a false date is a text without them. -/
theorem quotes_keep_ordinary_word :
    IsPlainWord "active".toList ∧ ¬IsFalseDate "active".toList ∧
      parseValue "\"active\"".toList = parseValue "active".toList ∧
      parseValue "'active'".toList = parseValue "active".toList ∧
      IsPlainWord "2024-02-30".toList ∧ IsFalseDate "2024-02-30".toList ∧
      parseValue "2024-02-30".toList = .ok (.str "2024-02-30") := by
  have hreal : ¬IsFalseDate "active".toList := by
    rintro (⟨shape, -⟩ | ⟨shape, -⟩) <;> exact absurd shape (by decide)
  have hfalse : IsFalseDate "2024-02-30".toList := .day rfl rfl
  have hsame := ((quotes_keep_plain_word isPlainWord_active).1 hreal).2
  exact ⟨isPlainWord_active, hreal, hsame .double, hsame .single, isPlainWord_falseDate, hfalse,
    ((quotes_keep_plain_word isPlainWord_falseDate).2 hfalse).1⟩

/-- The thirtieth of February is a plain word, which is a text without quotes and is refused between
them. -/
theorem quotes_change_false_date :
    IsPlainWord "2024-02-30".toList ∧
      ¬((parseValue "2024-02-30".toList = .ok (.str "2024-02-30") ∧
          ∀ m : QuoteMark,
            parseValue (m.enclosed "2024-02-30".toList) = .ok (.str "2024-02-30")) ∨
        (Reports (parseValue "2024-02-30".toList) ∧
          ∀ m : QuoteMark, Reports (parseValue (m.enclosed "2024-02-30".toList)))) := by
  have hbare : parseValue "2024-02-30".toList = .ok (.str "2024-02-30") := rfl
  refine ⟨isPlainWord_falseDate, ?_⟩
  rintro (⟨-, h⟩ | ⟨⟨message, hint, h⟩, -⟩)
  · cases h .double
  · rw [hbare] at h
    cases h

end DataPortal.FilterText
