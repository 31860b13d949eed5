import DataPortal.FilterText.DateText
/-!
# What texts that look like dates consist of

A text that is refused for the date that it seems to be has digits and the signs of dates in it,
and no other characters. So a text with any other character is not looked at as a date.
-/
namespace DataPortal.FilterText

open Text

/-- A character that may be in a text that looks like a date, or that may end its line. -/
def isDateChar (c : Char) : Bool :=
  isDigit c || "-/:TZ+\n".toList.contains c

theorem isDateChar_of_isAtEnd {s : List Char} (h : isAtEnd s = true) :
    ∀ c ∈ s, isDateChar c = true := by
  rw [isAtEnd, Bool.or_eq_true, beq_iff_eq, beq_iff_eq] at h
  rcases h with rfl | rfl
  · simp
  · exact List.all_eq_true.1 rfl

/-- A run of digits leaves what follows it. -/
theorem isDateChar_of_takeDigits? {least most : Nat} {s rest : List Char}
    (h : takeDigits? least most s = some rest) (hrest : ∀ c ∈ rest, isDateChar c = true) :
    ∀ c ∈ s, isDateChar c = true := by
  rw [takeDigits?] at h
  split at h
  · cases h
    rw [← List.takeWhile_append_dropWhile (p := isDigit) (l := s)]
    refine List.forall_mem_append.2 ⟨fun c hc => ?_, hrest⟩
    rw [isDateChar, List.all_eq_true.1 List.all_takeWhile c hc, Bool.true_or]
  · cases h

theorem isDateChar_of_takeDateSign? {s rest : List Char} (h : takeDateSign? s = some rest)
    (hrest : ∀ c ∈ rest, isDateChar c = true) : ∀ c ∈ s, isDateChar c = true := by
  cases s with
  | nil => cases h
  | cons c s =>
    rw [takeDateSign?] at h
    split at h
    · rename_i hc
      cases h
      refine List.forall_mem_cons.2 ⟨?_, hrest⟩
      rcases hc with rfl | rfl <;> decide
    · cases h

/-- A template of digits and signs of dates leaves what follows it. -/
theorem isDateChar_of_takeTemplate? {template s rest : List Char}
    (htemplate : template.all (fun p => p == '#' || isDateChar p) = true)
    (h : takeTemplate? template s = some rest) (hrest : ∀ c ∈ rest, isDateChar c = true) :
    ∀ c ∈ s, isDateChar c = true := by
  induction template generalizing s with
  | nil =>
    cases h
    exact hrest
  | cons p template ih =>
    cases s with
    | nil => cases h
    | cons c s =>
      rw [List.all_cons, Bool.and_eq_true, Bool.or_eq_true, beq_iff_eq] at htemplate
      rw [takeTemplate?] at h
      by_cases hc : (if p = '#' then isDigit c else p == c) = true
      · rw [if_pos hc] at h
        refine List.forall_mem_cons.2 ⟨?_, ih htemplate.2 h⟩
        by_cases hp : p = '#'
        · rw [if_pos hp] at hc
          rw [isDateChar, hc, Bool.true_or]
        · rw [if_neg hp, beq_iff_eq] at hc
          rw [← hc]
          exact htemplate.1.resolve_left hp
      · rw [if_neg hc] at h
        cases h

theorem isDateChar_of_isAmbiguousDate {s : List Char} (h : isAmbiguousDate s = true) :
    ∀ c ∈ s, isDateChar c = true := by
  rw [isAmbiguousDate, Option.any_eq_true] at h
  obtain ⟨rest, hrest, hend⟩ := h
  obtain ⟨s₁, h₁, hrest⟩ := Option.bind_eq_some_iff.1 hrest
  obtain ⟨s₂, h₂, hrest⟩ := Option.bind_eq_some_iff.1 hrest
  obtain ⟨s₃, h₃, hrest⟩ := Option.bind_eq_some_iff.1 hrest
  obtain ⟨s₄, h₄, hrest⟩ := Option.bind_eq_some_iff.1 hrest
  exact isDateChar_of_takeDigits? h₁ <| isDateChar_of_takeDateSign? h₂ <|
    isDateChar_of_takeDigits? h₃ <| isDateChar_of_takeDateSign? h₄ <|
    isDateChar_of_takeDigits? hrest (isDateChar_of_isAtEnd hend)

theorem isDateChar_of_hasDateShape {s : List Char} (h : hasDateShape s = true) :
    ∀ c ∈ s, isDateChar c = true := by
  rw [hasDateShape, Option.any_eq_true] at h
  obtain ⟨rest, hrest, hend⟩ := h
  exact isDateChar_of_takeTemplate? rfl hrest (isDateChar_of_isAtEnd hend)

theorem isDateChar_of_isZoneAtEnd {s : List Char} (h : isZoneAtEnd s = true) :
    ∀ c ∈ s, isDateChar c = true := by
  have hzone : ∀ rest, (takeTemplate? "##:##".toList rest).any isAtEnd = true →
      ∀ c ∈ rest, isDateChar c = true := by
    intro rest hrest
    rw [Option.any_eq_true] at hrest
    obtain ⟨last, hlast, hend⟩ := hrest
    exact isDateChar_of_takeTemplate? rfl hlast (isDateChar_of_isAtEnd hend)
  unfold isZoneAtEnd at h
  split at h
  · exact List.forall_mem_cons.2 ⟨by decide, isDateChar_of_isAtEnd h⟩
  · exact List.forall_mem_cons.2 ⟨by decide, hzone _ h⟩
  · exact List.forall_mem_cons.2 ⟨by decide, hzone _ h⟩
  · exact isDateChar_of_isAtEnd h

theorem isDateChar_of_hasDateTimeShape {s : List Char} (h : hasDateTimeShape s = true) :
    ∀ c ∈ s, isDateChar c = true := by
  rw [hasDateTimeShape, Option.any_eq_true] at h
  obtain ⟨rest, hrest, hend⟩ := h
  exact isDateChar_of_takeTemplate? rfl hrest (isDateChar_of_isZoneAtEnd hend)

/-- **A text with another character is not refused** for its date. -/
theorem checkDate_of_mem {s : List Char} {c : Char} (hc : c ∈ s) (hother : isDateChar c = false) :
    checkDate s = .ok () := by
  have hnone : ∀ {b : Bool}, (b = true → ∀ d ∈ s, isDateChar d = true) → b = false := by
    intro b h
    cases b with
    | false => rfl
    | true => exact absurd (h rfl c hc) (by simp [hother])
  rw [checkDate, hnone isDateChar_of_isAmbiguousDate, hnone isDateChar_of_hasDateShape,
    hnone isDateChar_of_hasDateTimeShape]
  rfl

end DataPortal.FilterText
