import DataPortal.Proofs.Calendar.DayNumber
import DataPortal.Proofs.FilterText.PlainWord
import DataPortal.Proofs.Text.Template
/-!
# Dates that exist

Which texts are refused for the date that they seem to be: short dates, and texts of the form of a
date or a time that are not what any date of the calendar, or any time on any clock, is written as.
-/
namespace DataPortal.FilterText

open Text

/-! ## The forms of dates -/

/-- The end of a text, or of its only line. -/
inductive IsLineEnd : List Char → Prop where
  | text : IsLineEnd []
  | line : IsLineEnd ['\n']

/-- Three numbers of which nobody can tell the day from the month. -/
inductive IsShortDate : List Char → Prop where
  | numbers {first second year ending : List Char} {c d : Char} :
      IsDigits 1 2 first → c ∈ ['/', '-'] → IsDigits 1 2 second → d ∈ ['/', '-'] →
      IsDigits 2 4 year → IsLineEnd ending →
      IsShortDate (first ++ c :: (second ++ d :: (year ++ ending)))

/-- Year, month and day. -/
inductive IsDayForm : List Char → Prop where
  | numbers {year month day : List Char} :
      IsDigits 4 4 year → IsDigits 2 2 month → IsDigits 2 2 day →
      IsDayForm (year ++ '-' :: (month ++ '-' :: day))

/-- Hour, minute and second. -/
inductive IsClockForm : List Char → Prop where
  | numbers {hour minute second : List Char} :
      IsDigits 2 2 hour → IsDigits 2 2 minute → IsDigits 2 2 second →
      IsClockForm (hour ++ ':' :: (minute ++ ':' :: second))

/-- No zone, UTC, or a distance from UTC. -/
inductive IsZoneForm : List Char → Prop where
  | unknown : IsZoneForm []
  | utc : IsZoneForm ['Z']
  | distance (sign : Char) {hours minutes : List Char} : sign ∈ ['+', '-'] →
      IsDigits 2 2 hours → IsDigits 2 2 minutes → IsZoneForm (sign :: (hours ++ ':' :: minutes))

/-- The form of an ISO date. -/
inductive IsDateForm : List Char → Prop where
  | day {day ending : List Char} : IsDayForm day → IsLineEnd ending → IsDateForm (day ++ ending)

/-- The form of an ISO date with a time. -/
inductive IsTimeForm : List Char → Prop where
  | time {day clock zone ending : List Char} :
      IsDayForm day → IsClockForm clock → IsZoneForm zone → IsLineEnd ending →
      IsTimeForm (day ++ 'T' :: (clock ++ (zone ++ ending)))

/-! ## What they denote -/

/-- A zone is the distance of a clock from UTC. The minutes may be more than an hour, but all of it
is less than a day. -/
inductive DenotesZone : List Char → Option UtcOffset → Prop where
  | unknown : DenotesZone [] none
  | utc : DenotesZone ['Z'] (some .utc)
  | ahead {hours minutes : Nat} {offset : UtcOffset} : minutes < 100 →
      offset.microseconds = 60000000 * (60 * hours + minutes : Nat) →
      DenotesZone ('+' :: (paddedDigits 2 hours ++ ':' :: paddedDigits 2 minutes)) (some offset)
  | behind {hours minutes : Nat} {offset : UtcOffset} : minutes < 100 →
      offset.microseconds = -(60000000 * (60 * hours + minutes : Nat)) →
      DenotesZone ('-' :: (paddedDigits 2 hours ++ ':' :: paddedDigits 2 minutes)) (some offset)

/-- A text shows a time of whole seconds, on a clock of this distance from UTC. -/
inductive DenotesTime (s : List Char) (t : DateTime) : Prop where
  | shown {zone : List Char} (whole : t.time.microsecond = 0) (clock : DenotesZone zone t.offset)
      (text : s = t.date.text ++ 'T' :: (DateTime.timeText t.time ++ zone))

variable {s rest : List Char}

/-! ## Texts of these forms -/

theorem isLineEnd_iff : isAtEnd s = true ↔ IsLineEnd s := by
  rw [isAtEnd_iff]
  constructor
  · rintro (rfl | rfl)
    · exact .text
    · exact .line
  · rintro (_ | _)
    · exact .inl rfl
    · exact .inr rfl

theorem takeDateSign?_eq_some_iff :
    takeDateSign? s = some rest ↔ ∃ c ∈ ['/', '-'], s = c :: rest := by
  cases s with
  | nil => simp [takeDateSign?]
  | cons c s =>
    rw [takeDateSign?]
    split
    · rename_i hc
      have hmem : c ∈ ['/', '-'] := by simpa using hc
      constructor
      · rintro ⟨⟩
        exact ⟨c, hmem, rfl⟩
      · rintro ⟨_, -, ⟨⟩⟩
        rfl
    · rename_i hc
      constructor
      · rintro ⟨⟩
      · rintro ⟨d, hd, ⟨⟩⟩
        exact absurd (by simpa using hd) hc

/-- A sign of a date ends a run of digits. -/
theorem stopsRun_dateSign {c : Char} (h : c ∈ ['/', '-']) (s : List Char) :
    StopsRun isDigit (c :: s) := by
  rintro _ ⟨⟩
  simp only [List.mem_cons, List.not_mem_nil, or_false] at h
  rcases h with rfl | rfl <;> rfl

theorem isAmbiguousDate_iff : isAmbiguousDate s = true ↔ IsShortDate s := by
  simp only [isAmbiguousDate, Option.any_eq_true, Option.bind_eq_some_iff,
    takeDigits?_eq_some_iff, takeDateSign?_eq_some_iff]
  constructor
  · rintro ⟨ending, ⟨_, ⟨first, rfl, hfirst, -⟩, _, ⟨c, hc, rfl⟩, _, ⟨second, rfl, hsecond, -⟩,
      _, ⟨d, hd, rfl⟩, year, rfl, hyear, -⟩, hend⟩
    exact .numbers hfirst hc hsecond hd hyear (isLineEnd_iff.1 hend)
  · rintro ⟨hfirst, hc, hsecond, hd, hyear, hend⟩
    have hend := isLineEnd_iff.2 hend
    exact ⟨_, ⟨_, ⟨_, rfl, hfirst, stopsRun_dateSign hc _⟩, _, ⟨_, hc, rfl⟩, _,
      ⟨_, rfl, hsecond, stopsRun_dateSign hd _⟩, _, ⟨_, hd, rfl⟩, _, rfl, hyear,
      stopsRun_of_isAtEnd hend⟩, hend⟩

/-- The template of a date, and what follows it. -/
theorem takeTemplate?_day_iff (template : List Char) :
    takeTemplate? ("####-##-##".toList ++ template) s = some rest ↔
      ∃ day s', s = day ++ s' ∧ IsDayForm day ∧ takeTemplate? template s' = some rest := by
  have hday : "####-##-##".toList ++ template = List.replicate 4 '#' ++ '-' ::
      (List.replicate 2 '#' ++ '-' :: (List.replicate 2 '#' ++ template)) := rfl
  simp only [hday, takeTemplate?_run_iff, takeTemplate?_sign_iff (show '-' ≠ '#' by decide)]
  constructor
  · rintro ⟨year, _, rfl, hyear, _, rfl, month, _, rfl, hmonth, _, rfl, day, s', rfl, hday, hrest⟩
    exact ⟨_, s', by simp, .numbers hyear hmonth hday, hrest⟩
  · rintro ⟨_, s', rfl, ⟨hyear, hmonth, hday⟩, hrest⟩
    exact ⟨_, _, by simp, hyear, _, rfl, _, _, rfl, hmonth, _, rfl, _, _, rfl, hday, hrest⟩

/-- The template of a time of day, and what follows it. -/
theorem takeTemplate?_clock_iff :
    takeTemplate? "##:##:##".toList s = some rest ↔
      ∃ clock, s = clock ++ rest ∧ IsClockForm clock := by
  have hclock : "##:##:##".toList = List.replicate 2 '#' ++ ':' ::
      (List.replicate 2 '#' ++ ':' :: (List.replicate 2 '#' ++ [])) := rfl
  simp only [hclock, takeTemplate?_run_iff, takeTemplate?_sign_iff (show ':' ≠ '#' by decide)]
  constructor
  · rintro ⟨hour, _, rfl, hhour, _, rfl, minute, _, rfl, hminute, _, rfl, second, _, rfl, hsecond,
      ⟨⟩⟩
    exact ⟨_, by simp, .numbers hhour hminute hsecond⟩
  · rintro ⟨_, rfl, ⟨hhour, hminute, hsecond⟩⟩
    exact ⟨_, _, by simp, hhour, _, rfl, _, _, rfl, hminute, _, rfl, _, _, rfl, hsecond, rfl⟩

/-- A distance from UTC at the end of a text. -/
theorem distanceAtEnd_iff :
    (takeTemplate? "##:##".toList s).any isAtEnd = true ↔
      ∃ hours minutes ending, s = hours ++ ':' :: (minutes ++ ending) ∧ IsDigits 2 2 hours ∧
        IsDigits 2 2 minutes ∧ IsLineEnd ending := by
  have hdistance : "##:##".toList = List.replicate 2 '#' ++ ':' ::
      (List.replicate 2 '#' ++ []) := rfl
  simp only [hdistance, Option.any_eq_true, takeTemplate?_run_iff,
    takeTemplate?_sign_iff (show ':' ≠ '#' by decide), isLineEnd_iff]
  constructor
  · rintro ⟨ending, ⟨hours, _, rfl, hhours, _, rfl, minutes, _, rfl, hminutes, ⟨⟩⟩, hend⟩
    exact ⟨hours, minutes, ending, rfl, hhours, hminutes, hend⟩
  · rintro ⟨hours, minutes, ending, rfl, hhours, hminutes, hend⟩
    exact ⟨ending, ⟨hours, _, rfl, hhours, _, rfl, minutes, _, rfl, hminutes, rfl⟩, hend⟩

theorem isZoneAtEnd_iff :
    isZoneAtEnd s = true ↔ ∃ zone ending, s = zone ++ ending ∧ IsZoneForm zone ∧
      IsLineEnd ending := by
  constructor
  · intro h
    unfold isZoneAtEnd at h
    split at h
    · exact ⟨['Z'], _, rfl, .utc, isLineEnd_iff.1 h⟩
    · obtain ⟨hours, minutes, ending, rfl, hhours, hminutes, hend⟩ := distanceAtEnd_iff.1 h
      exact ⟨_, ending, by simp, .distance '+' (by decide) hhours hminutes, hend⟩
    · obtain ⟨hours, minutes, ending, rfl, hhours, hminutes, hend⟩ := distanceAtEnd_iff.1 h
      exact ⟨_, ending, by simp, .distance '-' (by decide) hhours hminutes, hend⟩
    · exact ⟨[], _, rfl, .unknown, isLineEnd_iff.1 h⟩
  · rintro ⟨zone, ending, rfl, hzone, hend⟩
    cases hzone with
    | unknown =>
      cases hend with
      | text => rfl
      | line => rfl
    | utc => exact isLineEnd_iff.2 hend
    | @distance sign hours minutes hsign hhours hminutes =>
      have hdistance := distanceAtEnd_iff.2 ⟨hours, minutes, ending, rfl, hhours, hminutes, hend⟩
      rw [List.cons_append, List.append_assoc, List.cons_append]
      have hsign : sign = '+' ∨ sign = '-' := by simpa using hsign
      rcases hsign with rfl | rfl
      · exact hdistance
      · exact hdistance

theorem hasDateShape_iff : hasDateShape s = true ↔ IsDateForm s := by
  have hdate : hasDateShape s = (takeTemplate? ("####-##-##".toList ++ []) s).any isAtEnd := rfl
  simp only [hdate, Option.any_eq_true, takeTemplate?_day_iff, isLineEnd_iff]
  constructor
  · rintro ⟨ending, ⟨day, _, rfl, hday, ⟨⟩⟩, hend⟩
    exact .day hday hend
  · rintro ⟨hday, hend⟩
    exact ⟨_, ⟨_, _, rfl, hday, rfl⟩, hend⟩

theorem hasDateTimeShape_iff : hasDateTimeShape s = true ↔ IsTimeForm s := by
  have htime : "####-##-##T##:##:##".toList = "####-##-##".toList ++ 'T' :: "##:##:##".toList := rfl
  simp only [hasDateTimeShape, htime, Option.any_eq_true, takeTemplate?_day_iff,
    takeTemplate?_sign_iff (show 'T' ≠ '#' by decide), takeTemplate?_clock_iff, isZoneAtEnd_iff]
  constructor
  · rintro ⟨_, ⟨day, _, rfl, hday, _, rfl, clock, rfl, hclock⟩, zone, ending, rfl, hzone, hend⟩
    exact .time hday hclock hzone hend
  · rintro ⟨hday, hclock, hzone, hend⟩
    exact ⟨_, ⟨_, _, rfl, hday, _, rfl, _, rfl, hclock⟩, _, _, rfl, hzone, hend⟩

/-! ## Their numbers -/

/-- The number of a run of digits that stands after some other characters. -/
theorem numberAt_run {place width : Nat} (before : List Char) (hbefore : before.length = place)
    {run : List Char} (hrun : run.length = width) (rest : List Char) :
    numberAt place width (before ++ (run ++ rest)) = digitsValue run := by
  rw [numberAt, ← hbefore, ← hrun, List.drop_left, List.take_left]

theorem namesRealDay_eq {year month day : List Char} (hyear : year.length = 4)
    (hmonth : month.length = 2) (hday : day.length = 2) (rest : List Char) :
    namesRealDay (year ++ '-' :: (month ++ '-' :: (day ++ rest))) =
      decide (IsRealDay (digitsValue year) (digitsValue month) (digitsValue day)) := by
  have hfirst := numberAt_run [] List.length_nil hyear ('-' :: (month ++ '-' :: (day ++ rest)))
  have hsecond := numberAt_run (year ++ ['-']) (show _ = 5 by simp [hyear]) hmonth
    ('-' :: (day ++ rest))
  have hthird := numberAt_run (year ++ '-' :: (month ++ ['-']))
    (show _ = 8 by simp [hyear, hmonth]) hday rest
  simp only [List.nil_append, List.append_assoc, List.cons_append] at hfirst hsecond hthird
  rw [namesRealDay, hfirst, hsecond, hthird]

/-- The numbers of a time of day, after the eleven characters of a day and its sign. -/
theorem clock_numbers {before hour minute second : List Char} (hbefore : before.length = 11)
    (hhour : hour.length = 2) (hminute : minute.length = 2) (hsecond : second.length = 2)
    {s rest : List Char}
    (hs : s = before ++ (hour ++ ':' :: (minute ++ ':' :: (second ++ rest)))) :
    numberAt 11 2 s = digitsValue hour ∧ numberAt 14 2 s = digitsValue minute ∧
      numberAt 17 2 s = digitsValue second ∧ s.drop 19 = rest := by
  subst hs
  have hfirst := numberAt_run before hbefore hhour (':' :: (minute ++ ':' :: (second ++ rest)))
  have hnext := numberAt_run (before ++ (hour ++ [':'])) (show _ = 14 by simp [hbefore, hhour])
    hminute (':' :: (second ++ rest))
  have hlast := numberAt_run (before ++ (hour ++ ':' :: (minute ++ [':'])))
    (show _ = 17 by simp [hbefore, hhour, hminute]) hsecond rest
  have hlength : (before ++ (hour ++ ':' :: (minute ++ ':' :: second))).length = 19 := by
    simp [hbefore, hhour, hminute, hsecond]
  have hdrop : (before ++ (hour ++ ':' :: (minute ++ ':' :: second)) ++ rest).drop 19 = rest := by
    rw [← hlength, List.drop_left]
  simp only [List.append_assoc, List.cons_append, List.nil_append] at hfirst hnext hlast hdrop
  exact ⟨hfirst, hnext, hlast, hdrop⟩

/-! ## Dates and times that exist -/

theorem isPlainLine_iff : isPlainLine s = true ↔ ∀ c ∈ s, c.toNat < 128 ∧ c ≠ '\n' := by
  simp [isPlainLine]

theorem isPlainLine_append {t : List Char} :
    isPlainLine (s ++ t) = true ↔ isPlainLine s = true ∧ isPlainLine t = true := by
  rw [isPlainLine, List.all_append, Bool.and_eq_true]
  rfl

theorem isPlainLine_cons {c : Char} :
    isPlainLine (c :: s) = true ↔ (c.toNat < 128 ∧ c ≠ '\n') ∧ isPlainLine s = true := by
  simp [isPlainLine]

theorem isPlainLine_paddedDigits (width n : Nat) : isPlainLine (paddedDigits width n) = true := by
  rw [isPlainLine_iff]
  intro c hc
  have hdigit := isDigit_iff_ascii.1 (isDigit_of_mem_paddedDigits hc)
  have hhigh : c.toNat ≤ 57 := hdigit.2
  constructor
  · omega
  · rintro rfl
    exact absurd hdigit (by decide)

/-- A line feed is no part of a plain line. -/
theorem IsLineEnd.eq_nil {ending : List Char} (h : IsLineEnd ending)
    (hplain : isPlainLine ending = true) : ending = [] := by
  cases h with
  | text => rfl
  | line => cases hplain

/-- Digits in a plain line are those of their number. -/
theorem paddedDigits_digitsValue {n : Nat} (hn : 0 < n) {ds : List Char} (h : IsDigits n n ds)
    (hplain : isPlainLine ds = true) : paddedDigits n (digitsValue ds) = ds := by
  have hascii : ∀ c ∈ ds, c.isDigit = true := fun c hc =>
    isDigit_of_ascii (h.isDigit c hc) (isPlainLine_iff.1 hplain c hc).1
  have hne : ds ≠ [] := by
    rintro rfl
    exact absurd h.length_eq (by simp; omega)
  have hpadded := paddedDigits_ofDigitChars hascii hne
  rwa [h.length_eq, ← digitsValue_ascii fun c hc => isDigit_iff_ascii.1 (hascii c hc)] at hpadded

/-! ## Days -/

theorem length_two {n : Nat} (h : n < 100) : (paddedDigits 2 n).length = 2 :=
  length_paddedDigits_of_lt (by decide) h

theorem length_dateText (d : Date) : d.text.length = 10 := by
  obtain ⟨hyear, hmonth, hday⟩ := d.fits_places
  have hfour : (paddedDigits 4 d.year).length = 4 :=
    length_paddedDigits_of_lt (by decide) hyear
  simp [Date.text, hfour, length_two hmonth, length_two hday]

theorem isPlainLine_dateText (d : Date) : isPlainLine d.text = true := by
  have hsign : '-'.toNat < 128 ∧ '-' ≠ '\n' := by decide
  simp only [Date.text, isPlainLine_append, isPlainLine_cons, isPlainLine_paddedDigits, hsign,
    ne_eq, not_false_eq_true, and_self]

/-- The text of a date names its day. -/
theorem namesRealDay_dateText (d : Date) (rest : List Char) :
    namesRealDay (d.text ++ rest) = true := by
  obtain ⟨hyear, hmonth, hday⟩ := d.fits_places
  have hfour : (paddedDigits 4 d.year).length = 4 :=
    length_paddedDigits_of_lt (by decide) hyear
  have hnames := namesRealDay_eq hfour (length_two hmonth) (length_two hday) rest
  simp only [digitsValue_paddedDigits] at hnames
  simp only [Date.text, List.append_assoc, List.cons_append]
  rw [hnames, decide_eq_true d.real]

/-- Digits that name a day are the text of its date. -/
theorem IsDayForm.exists_date {day rest : List Char} (h : IsDayForm day)
    (hplain : isPlainLine day = true) (hreal : namesRealDay (day ++ rest) = true) :
    ∃ d : Date, day = d.text := by
  cases h with
  | @numbers year month day hyear hmonth hday =>
    rw [isPlainLine_append, isPlainLine_cons, isPlainLine_append, isPlainLine_cons] at hplain
    obtain ⟨hplainYear, -, hplainMonth, -, hplainDay⟩ := hplain
    rw [List.append_assoc, List.cons_append, List.append_assoc, List.cons_append,
      namesRealDay_eq hyear.length_eq hmonth.length_eq hday.length_eq, decide_eq_true_eq] at hreal
    refine ⟨⟨_, _, _, hreal⟩, ?_⟩
    simp only [Date.text, paddedDigits_digitsValue (by decide) hyear hplainYear,
      paddedDigits_digitsValue (by decide) hmonth hplainMonth,
      paddedDigits_digitsValue (by decide) hday hplainDay, List.append_assoc, List.cons_append]

/-- **A text of the form of a date is a date where it is the text of one.** -/
theorem isRealDate_iff (h : IsDateForm s) : isRealDate s = true ↔ ∃ d : Date, s = d.text := by
  rw [isRealDate, Bool.and_eq_true]
  constructor
  · rintro ⟨hplain, hreal⟩
    cases h with
    | @day day ending hday hend =>
      obtain ⟨hplainDay, hplainEnd⟩ := isPlainLine_append.1 hplain
      obtain rfl := hend.eq_nil hplainEnd
      obtain ⟨d, rfl⟩ := hday.exists_date hplainDay hreal
      exact ⟨d, List.append_nil _⟩
  · rintro ⟨d, rfl⟩
    have hnames := namesRealDay_dateText d []
    rw [List.append_nil] at hnames
    exact ⟨isPlainLine_dateText d, hnames⟩

/-! ## Times -/

theorem isRealZone_distance {sign : Char} (hsign : sign ∈ ['+', '-']) {hours minutes : List Char}
    (hhours : hours.length = 2) (hminutes : minutes.length = 2) :
    isRealZone (sign :: (hours ++ ':' :: minutes)) =
      decide (60 * digitsValue hours + digitsValue minutes < 1440) := by
  have hfirst := numberAt_run [] List.length_nil hhours (':' :: minutes)
  have hlast := numberAt_run (hours ++ [':']) (show _ = 3 by simp [hhours]) hminutes []
  simp only [List.nil_append, List.append_assoc, List.cons_append, List.append_nil]
    at hfirst hlast
  have hsign : sign = '+' ∨ sign = '-' := by simpa using hsign
  rcases hsign with rfl | rfl
  · rw [isRealZone, hfirst, hlast]
  · rw [isRealZone, hfirst, hlast]

/-- The hours and minutes of an offset, which is less than a day. -/
theorem distance_lt {offset : UtcOffset} {hours minutes : Nat}
    (h : offset.microseconds.natAbs = 60000000 * (60 * hours + minutes)) :
    60 * hours + minutes < 1440 := by
  have hreal := offset.real
  omega

theorem DenotesZone.isReal {zone : List Char} {offset : Option UtcOffset}
    (h : DenotesZone zone offset) : isPlainLine zone = true ∧ isRealZone zone = true := by
  have hdistance : ∀ {sign : Char} {hours minutes : Nat}, sign ∈ ['+', '-'] →
      60 * hours + minutes < 1440 → minutes < 100 →
      isPlainLine (sign :: (paddedDigits 2 hours ++ ':' :: paddedDigits 2 minutes)) = true ∧
        isRealZone (sign :: (paddedDigits 2 hours ++ ':' :: paddedDigits 2 minutes)) = true := by
    intro sign hours minutes hsign hless hminutes
    have hsigns : ∀ c ∈ ['+', '-'], c.toNat < 128 ∧ c ≠ '\n' := by simp
    constructor
    · rw [isPlainLine_cons, isPlainLine_append, isPlainLine_cons]
      exact ⟨hsigns sign hsign, isPlainLine_paddedDigits _ _, by decide,
        isPlainLine_paddedDigits _ _⟩
    · rw [isRealZone_distance hsign (length_two (by omega)) (length_two hminutes),
        digitsValue_paddedDigits, digitsValue_paddedDigits, decide_eq_true hless]
  cases h with
  | unknown => exact ⟨rfl, rfl⟩
  | utc => exact ⟨rfl, rfl⟩
  | @ahead hours minutes offset hminutes hoffset =>
    have hsize : offset.microseconds.natAbs = 60000000 * (60 * hours + minutes) := by omega
    exact hdistance (by decide) (distance_lt hsize) hminutes
  | @behind hours minutes offset hminutes hoffset =>
    have hsize : offset.microseconds.natAbs = 60000000 * (60 * hours + minutes) := by omega
    exact hdistance (by decide) (distance_lt hsize) hminutes

theorem IsZoneForm.exists_offset {zone : List Char} (h : IsZoneForm zone)
    (hplain : isPlainLine zone = true) (hreal : isRealZone zone = true) :
    ∃ offset, DenotesZone zone offset := by
  cases h with
  | unknown => exact ⟨none, .unknown⟩
  | utc => exact ⟨some .utc, .utc⟩
  | @distance sign hours minutes hsign hhours hminutes =>
    rw [isPlainLine_cons, isPlainLine_append, isPlainLine_cons] at hplain
    obtain ⟨-, hplainHours, -, hplainMinutes⟩ := hplain
    rw [isRealZone_distance hsign hhours.length_eq hminutes.length_eq, decide_eq_true_eq] at hreal
    have hless := digitsValue_lt_pow minutes
    rw [hminutes.length_eq] at hless
    rw [← paddedDigits_digitsValue (by decide) hhours hplainHours,
      ← paddedDigits_digitsValue (by decide) hminutes hplainMinutes]
    have hsign : sign = '+' ∨ sign = '-' := by simpa using hsign
    rcases hsign with rfl | rfl
    · exact ⟨some ⟨60000000 * (60 * digitsValue hours + digitsValue minutes : Nat), by omega⟩,
        .ahead hless rfl⟩
    · exact ⟨some ⟨-(60000000 * (60 * digitsValue hours + digitsValue minutes : Nat)), by omega⟩,
        .behind hless rfl⟩

theorem timeText_of_whole {t : TimeOfDay} (h : t.microsecond = 0) :
    DateTime.timeText t =
      paddedDigits 2 t.hour ++ ':' :: (paddedDigits 2 t.minute ++ ':' ::
        paddedDigits 2 t.second) := by
  simp [DateTime.timeText, h]

theorem isRealDateTime_eq_true_iff :
    isRealDateTime s = true ↔ isPlainLine s = true ∧ namesRealDay s = true ∧
      (numberAt 11 2 s < 24 ∧ numberAt 14 2 s < 60 ∧ numberAt 17 2 s < 60) ∧
      isRealZone (s.drop 19) = true := by
  rw [isRealDateTime, Bool.and_eq_true, Bool.and_eq_true, Bool.and_eq_true, decide_eq_true_eq,
    and_assoc, and_assoc]

/-- The text of a time passes for one. -/
theorem DenotesTime.isReal {t : DateTime} (h : DenotesTime s t) : isRealDateTime s = true := by
  obtain ⟨hwhole, hclock, rfl⟩ := h
  rename_i zone
  obtain ⟨hplainZone, hrealZone⟩ := hclock.isReal
  obtain ⟨hhour, hminute, hsecond, -⟩ := t.time.real
  have htext : t.date.text ++ 'T' :: (DateTime.timeText t.time ++ zone) =
      (t.date.text ++ ['T']) ++ (paddedDigits 2 t.time.hour ++ ':' ::
        (paddedDigits 2 t.time.minute ++ ':' :: (paddedDigits 2 t.time.second ++ zone))) := by
    rw [timeText_of_whole hwhole]
    simp
  obtain ⟨hfirst, hnext, hlast, hdrop⟩ := clock_numbers (by simp [length_dateText])
    (length_two (by omega)) (length_two (by omega)) (length_two (by omega)) htext
  rw [isRealDateTime_eq_true_iff, hfirst, hnext, hlast, hdrop, digitsValue_paddedDigits,
    digitsValue_paddedDigits, digitsValue_paddedDigits]
  refine ⟨?_, namesRealDay_dateText _ _, ⟨hhour, hminute, hsecond⟩, hrealZone⟩
  have hsigns : ∀ c ∈ ['T', ':'], c.toNat < 128 ∧ c ≠ '\n' := by simp
  rw [timeText_of_whole hwhole]
  simp only [isPlainLine_append, isPlainLine_cons, isPlainLine_paddedDigits, isPlainLine_dateText,
    true_and, and_true]
  exact ⟨hsigns 'T' (by simp), ⟨hsigns ':' (by simp), hsigns ':' (by simp)⟩, hplainZone⟩

/-- A text of the form of a time that passes for one is the text of one. -/
theorem IsTimeForm.exists_time (h : IsTimeForm s) (hreal : isRealDateTime s = true) :
    ∃ t, DenotesTime s t := by
  obtain ⟨hplain, hday, hranges, hzone⟩ := isRealDateTime_eq_true_iff.1 hreal
  cases h with
  | @time day clock zone ending hdayForm hclockForm hzoneForm hend =>
    rw [isPlainLine_append, isPlainLine_cons, isPlainLine_append, isPlainLine_append] at hplain
    obtain ⟨hplainDay, -, hplainClock, hplainZone, hplainEnd⟩ := hplain
    obtain rfl := hend.eq_nil hplainEnd
    obtain ⟨d, rfl⟩ := hdayForm.exists_date hplainDay hday
    cases hclockForm with
    | @numbers hour minute second hhour hminute hsecond =>
      rw [isPlainLine_append, isPlainLine_cons, isPlainLine_append, isPlainLine_cons]
        at hplainClock
      obtain ⟨hplainHour, -, hplainMinute, -, hplainSecond⟩ := hplainClock
      have htext : d.text ++ 'T' :: (hour ++ ':' :: (minute ++ ':' :: second) ++ (zone ++ [])) =
          (d.text ++ ['T']) ++ (hour ++ ':' :: (minute ++ ':' :: (second ++ zone))) := by
        simp
      obtain ⟨hfirst, hnext, hlast, hdrop⟩ := clock_numbers (by simp [length_dateText])
        hhour.length_eq hminute.length_eq hsecond.length_eq htext
      rw [hfirst, hnext, hlast] at hranges
      rw [hdrop] at hzone
      obtain ⟨offset, hoffset⟩ := hzoneForm.exists_offset hplainZone hzone
      obtain ⟨hhours, hminutes, hseconds⟩ := hranges
      let time : TimeOfDay := ⟨digitsValue hour, digitsValue minute, digitsValue second, 0,
        hhours, hminutes, hseconds, by decide⟩
      refine ⟨⟨d, time, offset⟩, .shown rfl hoffset ?_⟩
      rw [timeText_of_whole rfl, paddedDigits_digitsValue (by decide) hhour hplainHour,
        paddedDigits_digitsValue (by decide) hminute hplainMinute,
        paddedDigits_digitsValue (by decide) hsecond hplainSecond, List.append_nil]

/-- **A text of the form of a time is a time where it denotes one.** -/
theorem isRealDateTime_iff (h : IsTimeForm s) :
    isRealDateTime s = true ↔ ∃ t, DenotesTime s t :=
  ⟨h.exists_time, fun ⟨_, ht⟩ => ht.isReal⟩

/-! ## The check -/

theorem isFalseDate_iff :
    IsFalseDate s ↔ (IsDateForm s ∧ ¬∃ d : Date, s = d.text) ∨
      (IsTimeForm s ∧ ¬∃ t, DenotesTime s t) := by
  constructor
  · rintro (⟨shape, unreal⟩ | ⟨shape, unreal⟩)
    · have hform := hasDateShape_iff.1 shape
      refine .inl ⟨hform, ?_⟩
      rw [← isRealDate_iff hform, unreal]
      decide
    · have hform := hasDateTimeShape_iff.1 shape
      refine .inr ⟨hform, ?_⟩
      rw [← isRealDateTime_iff hform, unreal]
      decide
  · rintro (⟨hform, hunreal⟩ | ⟨hform, hunreal⟩)
    · rw [← isRealDate_iff hform, Bool.not_eq_true] at hunreal
      exact .day (hasDateShape_iff.2 hform) hunreal
    · rw [← isRealDateTime_iff hform, Bool.not_eq_true] at hunreal
      exact .time (hasDateTimeShape_iff.2 hform) hunreal

/-- **A text is refused exactly for a date that is none.** It is wrong input where it is a short
date of which nobody can tell the day from the month, or where it has the form of an ISO date and is
the text of no date of the calendar, or that of an ISO date with a time and denotes no time; the
report says which of the two it is. Every other text is accepted. -/
theorem checkDate_refuses_exactly (s : List Char) :
    (Reports (checkDate s) ↔ IsShortDate s ∨ (IsDateForm s ∧ ¬∃ d : Date, s = d.text) ∨
      (IsTimeForm s ∧ ¬∃ t, DenotesTime s t)) ∧
    (¬Reports (checkDate s) → checkDate s = .ok ()) ∧
    (IsShortDate s → checkDate s = .error (ambiguousDate s)) ∧
    (¬IsShortDate s → Reports (checkDate s) → checkDate s = .error (impossibleDate s)) := by
  rw [← isFalseDate_iff, ← isAmbiguousDate_iff]
  by_cases hfalse : IsFalseDate s
  · have hreports : Reports (checkDate s) := ⟨_, _, hfalse.checkDate_eq⟩
    have hshort : ¬isAmbiguousDate s = true := by simp [hfalse.isAmbiguousDate_eq]
    exact ⟨iff_of_true hreports (.inr hfalse), absurd hreports, fun h => absurd h hshort,
      fun _ _ => hfalse.checkDate_eq⟩
  · rw [checkDate_of_not_isFalseDate hfalse]
    by_cases hshort : isAmbiguousDate s = true
    · rw [if_pos hshort]
      have hreports : Reports (.error (ambiguousDate s) : Except Failure Unit) := ⟨_, _, rfl⟩
      exact ⟨iff_of_true hreports (.inl hshort), absurd hreports, fun _ => rfl,
        fun h => absurd hshort h⟩
    · rw [if_neg hshort]
      have hreports : ¬Reports (.ok () : Except Failure Unit) := by
        rintro ⟨message, hint, ⟨⟩⟩
      exact ⟨iff_of_false hreports (by simp [hshort, hfalse]), fun _ => rfl,
        fun h => absurd h hshort, fun _ h => absurd h hreports⟩

/-- The minutes of a zone may be more than an hour. -/
example : checkDate "2024-02-29T23:59:59-10:99".toList = .ok () := rfl

end DataPortal.FilterText
