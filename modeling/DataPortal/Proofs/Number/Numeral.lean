import DataPortal.Number.Numeral
import DataPortal.Proofs.Text.Trimming
/-!
# What every reader takes for a numeral

A numeral has neither space nor `_` in it and begins, after its sign, with a digit or a point.
So what the readers admit beyond it does not concern it: whatever is a numeral is a floating
point number, and an integer if it has digits alone.
-/
namespace DataPortal

/-! ## Digits -/

/-- A property of all digits is checked on the runs that they come in. -/
theorem Text.of_isDigit {p : Char → Bool}
    (hruns : ∀ start ∈ digitZeros, ∀ k < 10, p (Char.ofNat (start + k)) = true) {c : Char}
    (hc : isDigit c = true) : p c = true := by
  obtain ⟨n, hn⟩ := Option.isSome_iff_exists.1 hc
  rw [digitValue?, Option.map_eq_some_iff] at hn
  obtain ⟨start, hfind, -⟩ := hn
  have hrange := List.find?_some hfind
  simp only [Bool.and_eq_true, decide_eq_true_eq] at hrange
  have hplace : start + (c.toNat - start) = c.toNat := by omega
  have hp := hruns start (List.mem_of_find?_eq_some hfind) (c.toNat - start) (by omega)
  rwa [hplace, Char.ofNat_toNat] at hp

theorem Text.isBlank_of_isDigit {c : Char} (h : isDigit c = true) : isBlank c = false := by
  have hp := of_isDigit (p := fun c => !isBlank c) (by decide +kernel) h
  simpa using hp

theorem Numeral.lowerAscii_of_isDigit {c : Char} (h : Text.isDigit c = true) :
    lowerAscii c = c := by
  have hp := Text.of_isDigit (p := fun c => lowerAscii c == c) (by decide +kernel) h
  simpa using hp

theorem Numeral.digitIn?_of_isDigit {c : Char} (h : Text.isDigit c = true) :
    digitIn? 10 c = some (Text.digitValue c) := by
  obtain ⟨d, hd⟩ := Option.isSome_iff_exists.1 h
  have hlt := Text.digitValue?_lt hd
  simp [digitIn?, Text.digitValue, hd, hlt]

namespace Numeral

/-! ## The parts of a numeral -/

theorem takeSign_eq (s : List Char) :
    s = (takeSign s).2 ∨ ∃ c, (c = '-' ∨ c = '+') ∧ s = c :: (takeSign s).2 := by
  unfold takeSign
  split
  · exact .inr ⟨'-', .inl rfl, rfl⟩
  · exact .inr ⟨'+', .inr rfl, rfl⟩
  · exact .inl rfl

/-- What `e` begins at the end of a numeral. -/
theorem readExponent?_eq_some {s : List Char} {e : Option (Bool × List Char)}
    (h : readExponent? s = some e) :
    (s = [] ∧ e = none) ∨
      ∃ c rest ds negative, s = c :: rest ∧ (c = 'e' ∨ c = 'E') ∧ takeSign rest = (negative, ds) ∧
        (∀ d ∈ ds, Text.isDigit d = true) ∧ e = some (negative, ds) := by
  cases s with
  | nil =>
    cases h
    exact .inl ⟨rfl, rfl⟩
  | cons c rest =>
    rw [readExponent?] at h
    split at h
    · rename_i hc
      dsimp only at h
      split at h
      · rename_i hds
        simp only [Bool.and_eq_true, List.all_eq_true] at hds
        cases h
        exact .inr ⟨c, rest, _, _, rfl, hc, rfl, hds.2, rfl⟩
      · cases h
    · cases h

/-- What a numeral is read from, after its sign. -/
theorem read?_eq_some {s : List Char} {n : Numeral} (h : read? s = some n) :
    n.negative = (takeSign s).1 ∧ (∀ c ∈ n.whole, Text.isDigit c = true) ∧
      ((n.whole ≠ [] ∧ n.fraction = none ∧
          ∃ rest, (takeSign s).2 = n.whole ++ rest ∧ readExponent? rest = some n.exponent) ∨
        ∃ fraction rest, n.fraction = some fraction ∧ (∀ c ∈ fraction, Text.isDigit c = true) ∧
          (takeSign s).2 = n.whole ++ '.' :: (fraction ++ rest) ∧
          readExponent? rest = some n.exponent) := by
  have hdigits : ∀ t : List Char, ∀ c ∈ t.takeWhile Text.isDigit, Text.isDigit c = true :=
    fun t => List.all_eq_true.1 List.all_takeWhile
  have hsplit : ∀ t : List Char, t.takeWhile Text.isDigit ++ t.dropWhile Text.isDigit = t :=
    fun t => List.takeWhile_append_dropWhile
  rw [read?] at h
  dsimp only at h
  split at h
  -- the digits after a point may be missing if there are some before it
  · rename_i rest hrest
    split at h
    · cases h
    · obtain ⟨e, he, rfl⟩ := Option.map_eq_some_iff.1 h
      refine ⟨rfl, hdigits _, .inr ⟨_, _, rfl, hdigits rest, ?_, he⟩⟩
      rw [hsplit rest, ← hrest, hsplit]
  · rename_i hrest
    split at h
    · cases h
    · rename_i hwhole
      obtain ⟨e, he, rfl⟩ := Option.map_eq_some_iff.1 h
      exact ⟨rfl, hdigits _, .inl ⟨by simpa using hwhole, rfl, _, (hsplit _).symm, he⟩⟩

/-! ## The characters of a numeral -/

/-- A character that may be in a numeral. -/
def isNumeralChar (c : Char) : Bool :=
  Text.isDigit c || "+-.eE".toList.contains c

theorem isNumeralChar_of_isDigit {c : Char} (h : Text.isDigit c = true) :
    isNumeralChar c = true := by
  rw [isNumeralChar, h, Bool.true_or]

/-- A property of all characters of numerals is one of digits, signs, the point and `e`. -/
theorem of_isNumeralChar {p : Char → Prop} (hdigit : ∀ c, Text.isDigit c = true → p c)
    (hother : ∀ c ∈ "+-.eE".toList, p c) {c : Char} (h : isNumeralChar c = true) : p c := by
  rcases Bool.or_eq_true .. ▸ h with h | h
  · exact hdigit c h
  · exact hother c (List.contains_iff_mem.1 h)

theorem isNumeralChar_of_takeSign {s : List Char}
    (h : ∀ c ∈ (takeSign s).2, isNumeralChar c = true) : ∀ c ∈ s, isNumeralChar c = true := by
  rcases takeSign_eq s with hs | ⟨sign, hsign, hs⟩
  · rwa [← hs] at h
  · rw [hs]
    refine List.forall_mem_cons.2 ⟨?_, h⟩
    rcases hsign with rfl | rfl <;> decide

theorem isNumeralChar_of_readExponent? {s : List Char} {e : Option (Bool × List Char)}
    (h : readExponent? s = some e) : ∀ c ∈ s, isNumeralChar c = true := by
  rcases readExponent?_eq_some h with ⟨rfl, -⟩ | ⟨c, rest, ds, negative, rfl, hc, hsign, hds, -⟩
  · simp
  · have hrest : ∀ d ∈ rest, isNumeralChar d = true := by
      apply isNumeralChar_of_takeSign
      rw [hsign]
      exact fun d hd => isNumeralChar_of_isDigit (hds d hd)
    refine List.forall_mem_cons.2 ⟨?_, hrest⟩
    rcases hc with rfl | rfl <;> decide

theorem isNumeralChar_of_read? {s : List Char} {n : Numeral} (h : read? s = some n) :
    ∀ c ∈ s, isNumeralChar c = true := by
  obtain ⟨-, hwhole, hrest⟩ := read?_eq_some h
  apply isNumeralChar_of_takeSign
  rcases hrest with ⟨-, -, rest, hs, hexp⟩ | ⟨fraction, rest, -, hfraction, hs, hexp⟩
  · rw [hs]
    exact List.forall_mem_append.2
      ⟨fun c hc => isNumeralChar_of_isDigit (hwhole c hc), isNumeralChar_of_readExponent? hexp⟩
  · rw [hs]
    refine List.forall_mem_append.2 ⟨fun c hc => isNumeralChar_of_isDigit (hwhole c hc), ?_⟩
    refine List.forall_mem_cons.2 ⟨by decide, List.forall_mem_append.2 ⟨?_, ?_⟩⟩
    · exact fun c hc => isNumeralChar_of_isDigit (hfraction c hc)
    · exact isNumeralChar_of_readExponent? hexp

/-- After its sign a numeral begins with a digit or the point. -/
theorem head_of_read? {s : List Char} {n : Numeral} (h : read? s = some n) :
    ∃ c rest, (takeSign s).2 = c :: rest ∧ (Text.isDigit c = true ∨ c = '.') := by
  obtain ⟨-, hwhole, hrest⟩ := read?_eq_some h
  cases hw : n.whole with
  | nil =>
    rcases hrest with ⟨hne, -⟩ | ⟨fraction, rest, -, -, hs, -⟩
    · exact absurd hw hne
    · rw [hw, List.nil_append] at hs
      exact ⟨'.', _, hs, .inr rfl⟩
  | cons c ds =>
    have hc : Text.isDigit c = true := hwhole c (by simp [hw])
    rcases hrest with ⟨-, -, rest, hs, -⟩ | ⟨fraction, rest, -, -, hs, -⟩
    · rw [hw] at hs
      exact ⟨c, _, hs, .inl hc⟩
    · rw [hw] at hs
      exact ⟨c, _, hs, .inl hc⟩

/-! ## What the readers admit beyond numerals -/

/-- A numeral has no white space. -/
theorem isBlank_of_read? {s : List Char} {n : Numeral} (h : read? s = some n) :
    ∀ c ∈ s, Text.isBlank c = false := by
  have hsigns : "+-.eE".toList.all (fun c => !Text.isBlank c) = true := by decide
  intro c hc
  exact of_isNumeralChar (fun c => Text.isBlank_of_isDigit)
    (fun c hc => by simpa using List.all_eq_true.1 hsigns c hc) (isNumeralChar_of_read? h c hc)

theorem trimPadding_of_read? {s : List Char} {n : Numeral} (h : read? s = some n) :
    Text.trimPadding s = s := by
  have hpadding : ∀ c ∈ s, Text.isPadding c = false := by
    intro c hc
    rw [Text.isPadding, isBlank_of_read? h c hc, Bool.false_and]
  have hstart : ([] ++ s).dropWhile Text.isPadding = s :=
    Text.dropWhile_run (by simp) fun c hc => hpadding c (List.mem_of_mem_head? hc)
  have hend : Text.dropEndWhile Text.isPadding (s ++ []) = s :=
    Text.dropEndWhile_run (by simp) fun c hc => hpadding c (List.mem_of_mem_getLast? hc)
  rw [List.nil_append] at hstart
  rw [List.append_nil] at hend
  rw [Text.trimPadding, hstart, hend]

theorem strip_of_read? {s : List Char} {n : Numeral} (h : read? s = some n) :
    Text.strip s = s := by
  have hne : s ≠ [] := by
    rintro rfl
    cases h
  have hblank := isBlank_of_read? h
  have htrimmed : Text.IsTrimmed s := ⟨hne, fun c hc => hblank c (List.mem_of_mem_head? hc),
    fun c hc => hblank c (List.mem_of_mem_getLast? hc)⟩
  exact htrimmed.strip_eq

theorem underscore_not_mem_of_read? {s : List Char} {n : Numeral} (h : read? s = some n) :
    '_' ∉ s := fun hmem => absurd (isNumeralChar_of_read? h '_' hmem) (by decide)

/-- A numeral is none of the words for infinity and NaN, which begin with other characters. -/
theorem word_of_read? {s : List Char} {n : Numeral} (h : read? s = some n) :
    ∃ c word, (takeSign s).2.map lowerAscii = c :: word ∧ c ∉ ['i', 'n', 's'] := by
  obtain ⟨c, rest, hbody, hc⟩ := head_of_read? h
  refine ⟨c, rest.map lowerAscii, ?_, ?_⟩
  · have hlower : lowerAscii c = c := by
      rcases hc with hc | rfl
      · exact lowerAscii_of_isDigit hc
      · rfl
    rw [hbody, List.map_cons, hlower]
  · intro hmem
    rcases hc with hc | rfl
    · have hdigits : ['i', 'n', 's'].all (fun c => !Text.isDigit c) = true := by decide
      simpa [hc] using List.all_eq_true.1 hdigits c hmem
    · exact absurd hmem (by decide)

theorem dropUnderscores?_eq_some {s : List Char} (h : '_' ∉ s) (afterDigit : Bool) :
    dropUnderscores? afterDigit s = some s := by
  induction s generalizing afterDigit with
  | nil => rfl
  | cons c s ih =>
    rw [List.mem_cons, not_or] at h
    rw [dropUnderscores?, ih h.2]
    · rfl
    · exact fun hc => h.1 hc.symm

/-- **A numeral is a floating point number** to the reader of these. -/
theorem ofText?_of_read? {s : List Char} {n : Numeral} (h : read? s = some n) :
    Binary64.ofText? s = some n.toBinary64 := by
  obtain ⟨c, word, hword, hc⟩ := word_of_read? h
  have hne : ∀ k ∈ ['i', 'n', 's'], ∀ rest, c :: word ≠ k :: rest :=
    fun k hk rest heq => hc ((List.cons.inj heq).1 ▸ hk)
  have hinfinity : ¬(c :: word = "inf".toList ∨ c :: word = "infinity".toList) := by
    rintro (heq | heq) <;> exact hne 'i' (by decide) _ heq
  have hnan : c :: word ≠ "nan".toList := hne 'n' (by decide) _
  -- neither a word nor a text with `_`, it is left to the reader of numerals
  rw [Binary64.ofText?, trimPadding_of_read? h]
  dsimp only
  rw [hword, if_neg hinfinity, if_neg hnan,
    dropUnderscores?_eq_some (underscore_not_mem_of_read? h), Option.bind_some, h, Option.map_some]

/-- **A numeral is a decimal number** to the reader of these. -/
theorem decimalOfText?_of_read? {s : List Char} {n : Numeral} (h : read? s = some n) :
    Decimal.ofText? s = some n.toDecimal := by
  obtain ⟨c, word, hword, hc⟩ := word_of_read? h
  have hne : ∀ k ∈ ['i', 'n', 's'], ∀ rest, c :: word ≠ k :: rest :=
    fun k hk rest heq => hc ((List.cons.inj heq).1 ▸ hk)
  have hinfinity : ¬(c :: word = "inf".toList ∨ c :: word = "infinity".toList) := by
    rintro (heq | heq) <;> exact hne 'i' (by decide) _ heq
  have hnan : (c :: word).take 3 ≠ "nan".toList := fun heq =>
    hc ((List.cons.inj heq).1 ▸ by decide)
  have hsnan : (c :: word).take 4 ≠ "snan".toList := fun heq =>
    hc ((List.cons.inj heq).1 ▸ by decide)
  have hfilter : s.filter (· != '_') = s := by
    refine List.filter_eq_self.2 fun d hd => ?_
    rw [bne_iff_ne]
    rintro rfl
    exact underscore_not_mem_of_read? h hd
  rw [Decimal.ofText?, strip_of_read? h]
  dsimp only
  rw [hfilter, hword, if_neg hinfinity, if_neg fun hword => hnan hword.1,
    if_neg fun hword => hsnan hword.1, h, Option.map_some]

theorem mapM_digitIn? {ds : List Char} (h : ∀ c ∈ ds, Text.isDigit c = true) :
    ds.mapM (digitIn? 10) = some (ds.map Text.digitValue) := by
  induction ds with
  | nil => rfl
  | cons c ds ih =>
    rw [List.mapM_cons, digitIn?_of_isDigit (h c (by simp)), ih fun d hd => h d (by simp [hd])]
    rfl

theorem dropBase_ten (s : List Char) : dropBase 10 s = s := by
  have hletter : baseLetter? 10 = none := rfl
  unfold dropBase
  split
  · rw [hletter, if_neg (by simp)]
  · rfl

/-- **A numeral of digits alone is an integer** to the reader of these, unless there are too many
of them. -/
theorem wholeIn?_of_read? {s : List Char} {n : Numeral} (h : read? s = some n)
    (hwhole : n.isWhole = true) :
    wholeIn? 10 s = if n.isTooLong then none else some n.toInt := by
  have htoolong : n.isTooLong = tooManyDigits 10 (n.whole.map Text.digitValue) := by
    rw [isTooLong, hwhole, tooManyDigits, List.length_map]
    rfl
  obtain ⟨hsign, hdigits, hrest⟩ := read?_eq_some h
  simp only [isWhole, Bool.and_eq_true, Option.isNone_iff_eq_none] at hwhole
  obtain ⟨hfraction, hexponent⟩ := hwhole
  rcases hrest with ⟨hne, -, rest, hbody, hexp⟩ | ⟨fraction, rest, hsome, -⟩
  · have hrest : rest = [] := by
      rcases readExponent?_eq_some hexp with ⟨hnil, -⟩ | ⟨_, _, ds, negative, -, -, -, -, hsome⟩
      · exact hnil
      · rw [hexponent] at hsome
        cases hsome
    rw [hrest, List.append_nil] at hbody
    have hsplit : takeSign s = (n.negative, n.whole) := by rw [hsign, ← hbody]
    rw [wholeIn?, trimPadding_of_read? h]
    dsimp only
    rw [hsplit]
    dsimp only
    rw [dropBase_ten, mapM_digitIn? hdigits]
    cases hw : n.whole with
    | nil => exact absurd hw hne
    | cons c ds =>
      have hvalue : ((c :: ds).map Text.digitValue).foldl (fun m d => 10 * m + d) 0 =
          Text.digitsValue (c :: ds) := by
        rw [List.foldl_map, Text.digitsValue]
      rw [htoolong, hw, toInt, hw, ← hvalue]
      rfl
  · rw [hfraction] at hsome
    cases hsome

end Numeral
end DataPortal
