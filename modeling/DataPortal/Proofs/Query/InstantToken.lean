import DataPortal.Proofs.Calendar.Instant
import DataPortal.Proofs.Text.Percent
import DataPortal.Proofs.Text.Template
import DataPortal.Query.Token
/-!
# Tokens of points in time

The token of a point in time shows its instant on the clock of UTC, to the millisecond. It is read
back here by a reader of its own (`denotedMillisecond?`), so that times on different clocks have
one token exactly where they are one millisecond, and the texts of the years from 1000 on are in
the order of their instants.
-/
namespace DataPortal.Query

open Text DateTime

/-- The numbers of a text. Each is written in decimal digits and ended by its sign; it has as many
digits as its place gives, or any number of them. -/
def numbers? : List (Option Nat × Char) → List Char → Option (List Nat)
  | [], s => if s = [] then some [] else none
  | (width, sign) :: places, s =>
    let ds := s.takeWhile Char.isDigit
    match s.dropWhile Char.isDigit with
    | c :: rest =>
      if c = sign ∧ ds ≠ [] ∧ width.getD ds.length = ds.length then
        (numbers? places rest).map (Nat.ofDigitChars 10 ds 0 :: ·)
      else none
    | [] => none

/-- The form `year-month-dayThour:minute:second.mmmZ`. -/
def instantPlaces : List (Option Nat × Char) :=
  [(none, '-'), (some 2, '-'), (some 2, 'T'), (some 2, ':'), (some 2, ':'), (some 2, '.'),
    (some 3, 'Z')]

/-- The millisecond since the start of year 1 that a text of this form denotes, if its day and its
time exist. -/
def denotedMillisecond? (s : List Char) : Option Int :=
  match numbers? instantPlaces s with
  | some [year, month, day, hour, minute, second, milli] =>
    match Date.of? year month day, TimeOfDay.of? hour minute second (1000 * milli) with
    | some date, some time => some ((⟨date, time, none⟩ : DateTime).instant / 1000)
    | _, _ => none
  | _ => none

/-- The form of 24 characters, with four digits for the year. -/
def HasIsoForm (s : List Char) : Prop :=
  takeTemplate? "####-##-##T##:##:##.###Z".toList s = some []

/-- A token that shows a text between double quotes. -/
def ShowsText (t text : List Char) : Prop :=
  Percent.decode? t = some (quoted text)

/-! ## Reading the text -/

/-- A number of a place is read, and the places after it from what follows. -/
theorem numbers?_cons {width : Option Nat} {sign : Char} {ds : List Char}
    (hsign : sign.isDigit = false) (hds : ∀ c ∈ ds, c.isDigit = true) (hne : ds ≠ [])
    (hwidth : ∀ n ∈ width, ds.length = n) (places : List (Option Nat × Char)) (rest : List Char) :
    numbers? ((width, sign) :: places) (ds ++ sign :: rest) =
      (numbers? places rest).map (Nat.ofDigitChars 10 ds 0 :: ·) := by
  have hstops : StopsRun Char.isDigit (sign :: rest) := by
    rintro c ⟨⟩
    exact hsign
  have hfits : width.getD ds.length = ds.length := by
    cases width with
    | none => rfl
    | some n => exact (hwidth n rfl).symm
  rw [numbers?, takeWhile_run hds hstops, dropWhile_run hds hstops]
  simp [hne, hfits]

theorem numbers?_padded {sign : Char} (hsign : sign.isDigit = false) {width n : Nat}
    (hwidth : 0 < width) (h : n < 10 ^ width) (places : List (Option Nat × Char))
    (rest : List Char) :
    numbers? ((some width, sign) :: places) (paddedDigits width n ++ sign :: rest) =
      (numbers? places rest).map (n :: ·) := by
  have hlength := length_paddedDigits_of_lt hwidth h
  rw [numbers?_cons hsign (fun _ => isDigit_of_mem_paddedDigits), ofDigitChars_paddedDigits]
  · intro hnil
    rw [hnil] at hlength
    exact absurd hlength (by simp; omega)
  · rintro _ ⟨⟩
    exact hlength

theorem numbers?_digits {sign : Char} (hsign : sign.isDigit = false) (n : Nat)
    (places : List (Option Nat × Char)) (rest : List Char) :
    numbers? ((none, sign) :: places) (digits n ++ sign :: rest) =
      (numbers? places rest).map (n :: ·) := by
  rw [numbers?_cons hsign (fun _ => isDigit_of_mem_digits) Nat.toDigits_ne_nil (by simp), digits,
    Nat.ofDigitChars_ten_toDigits]

/-- The numbers of a time fit into their places. -/
theorem fits_places (t : DateTime) :
    t.date.month < 100 ∧ t.date.day < 100 ∧ t.time.hour < 100 ∧ t.time.minute < 100 ∧
      t.time.second < 100 ∧ t.time.microsecond / 1000 < 1000 := by
  obtain ⟨-, hmonth, hday⟩ := t.date.fits_places
  have htime := t.time.real
  omega

/-- The numbers in the text are those of the time. -/
theorem numbers?_instantText (t : DateTime) :
    numbers? instantPlaces (instantText t) =
      some [t.date.year, t.date.month, t.date.day, t.time.hour, t.time.minute, t.time.second,
        t.time.microsecond / 1000] := by
  obtain ⟨hmonth, hday, hhour, hminute, hsecond, hmilli⟩ := fits_places t
  have htext : instantText t = digits t.date.year ++ '-' :: (paddedDigits 2 t.date.month ++
      '-' :: (paddedDigits 2 t.date.day ++ 'T' :: (paddedDigits 2 t.time.hour ++
      ':' :: (paddedDigits 2 t.time.minute ++ ':' :: (paddedDigits 2 t.time.second ++
      '.' :: (paddedDigits 3 (t.time.microsecond / 1000) ++ 'Z' :: [])))))) := by
    simp [instantText]
  rw [htext, instantPlaces, numbers?_digits (by decide)]
  rw [numbers?_padded (by decide) (by decide) hmonth,
    numbers?_padded (by decide) (by decide) hday, numbers?_padded (by decide) (by decide) hhour,
    numbers?_padded (by decide) (by decide) hminute,
    numbers?_padded (by decide) (by decide) hsecond,
    numbers?_padded (by decide) (by decide) hmilli]
  rfl

/-- **The text denotes what its clock shows**, to the millisecond. -/
theorem denotedMillisecond?_instantText (t : DateTime) :
    denotedMillisecond? (instantText t) = some (t.reading / 1000) := by
  obtain ⟨hhour, hminute, hsecond, hmicro⟩ := t.time.real
  have hdate : Date.of? t.date.year t.date.month t.date.day = some t.date :=
    Date.of?_of_real t.date.real
  have htime : TimeOfDay.of? t.time.hour t.time.minute t.time.second
      (1000 * (t.time.microsecond / 1000)) =
      some ⟨t.time.hour, t.time.minute, t.time.second, 1000 * (t.time.microsecond / 1000),
        ⟨hhour, hminute, hsecond, by omega⟩⟩ :=
    dif_pos ⟨hhour, hminute, hsecond, by omega⟩
  rw [denotedMillisecond?, numbers?_instantText]
  simp only [hdate, htime, instant_of_no_offset, reading, TimeOfDay.seconds]
  congr 1
  omega

/-! ## The form of the text -/

theorem length_instantText (t : DateTime) :
    (instantText t).length = (digits t.date.year).length + 20 := by
  obtain ⟨hmonth, hday, hhour, hminute, hsecond, hmilli⟩ := fits_places t
  have htwo : ∀ {n}, n < 100 → (paddedDigits 2 n).length = 2 :=
    fun h => length_paddedDigits_of_lt (by decide) h
  have hthree : (paddedDigits 3 (t.time.microsecond / 1000)).length = 3 :=
    length_paddedDigits_of_lt (by decide) hmilli
  simp only [instantText, List.length_append, List.length_cons, List.length_nil, hthree,
    htwo hmonth, htwo hday, htwo hhour, htwo hminute, htwo hsecond]

/-- A year has four digits from 1000 on. -/
theorem length_year (d : Date) : (digits d.year).length = 4 ↔ 1000 ≤ d.year := by
  have hfour := length_digits_le_iff (n := d.year) (show 0 < 4 by decide)
  have hthree := length_digits_le_iff (n := d.year) (show 0 < 3 by decide)
  have := d.real.2.1
  omega

/-- The text has the form of 24 characters from the year 1000 on. -/
theorem hasIsoForm_instantText (t : DateTime) :
    HasIsoForm (instantText t) ↔ 1000 ≤ t.date.year := by
  obtain ⟨hmonth, hday, hhour, hminute, hsecond, hmilli⟩ := fits_places t
  constructor
  · intro h
    have hlength := takeTemplate?_length h
    rw [length_instantText] at hlength
    have hsize : "####-##-##T##:##:##.###Z".toList.length = 24 := rfl
    rw [← length_year]
    simpa [hsize] using hlength
  · intro h
    have htwo : ∀ {n}, n < 100 → ∀ template s, takeTemplate? ('#' :: '#' :: template)
        (paddedDigits 2 n ++ s) = takeTemplate? template s :=
      fun hn => takeTemplate?_paddedDigits 2 (by decide) hn
    have hthree : ∀ {n}, n < 1000 → ∀ template s, takeTemplate? ('#' :: '#' :: '#' :: template)
        (paddedDigits 3 n ++ s) = takeTemplate? template s :=
      fun hn => takeTemplate?_paddedDigits 3 (by decide) hn
    have hyear : ∀ template s, takeTemplate? ('#' :: '#' :: '#' :: '#' :: template)
        (digits t.date.year ++ s) = takeTemplate? template s := by
      intro template s
      have hrun := takeTemplate?_digits
        (fun c (hc : c ∈ digits t.date.year) => isDigit_ascii (isDigit_of_mem_digits hc)) template s
      rwa [(length_year t.date).2 h] at hrun
    have hsign : ∀ {p : Char}, p ≠ '#' → ∀ template s,
        takeTemplate? (p :: template) (p :: s) = takeTemplate? template s := by
      intro p hp template s
      simp [takeTemplate?, hp]
    have hform : "####-##-##T##:##:##.###Z".toList =
        ['#', '#', '#', '#', '-', '#', '#', '-', '#', '#', 'T', '#', '#', ':', '#', '#', ':', '#',
          '#', '.', '#', '#', '#', 'Z'] := rfl
    simp only [HasIsoForm, hform, instantText, List.append_assoc, List.cons_append, hyear]
    rw [hsign (by decide), htwo hmonth, hsign (by decide), htwo hday, hsign (by decide),
      htwo hhour, hsign (by decide), htwo hminute, hsign (by decide), htwo hsecond,
      hsign (by decide), hthree hmilli, hsign (by decide)]
    rfl

/-! ## The order of the texts -/

/-- The places of the clock are in the order of time. -/
theorem reading_lt_iff (s t : DateTime) :
    s.reading / 1000 < t.reading / 1000 ↔
      s.date.dayNumber < t.date.dayNumber ∨ s.date.dayNumber = t.date.dayNumber ∧
        (s.time.hour < t.time.hour ∨ s.time.hour = t.time.hour ∧
          (s.time.minute < t.time.minute ∨ s.time.minute = t.time.minute ∧
            (s.time.second < t.time.second ∨ s.time.second = t.time.second ∧
              s.time.microsecond / 1000 < t.time.microsecond / 1000))) := by
  have hs := s.time.real
  have ht := t.time.real
  simp only [reading, TimeOfDay.seconds]
  omega

/-- **Texts of years of four digits are in the order of time.** -/
theorem instantText_lt_iff {s t : DateTime} (hs : 1000 ≤ s.date.year) (ht : 1000 ≤ t.date.year) :
    instantText s < instantText t ↔ s.reading / 1000 < t.reading / 1000 := by
  have hsyear := s.date.real.2.1
  have htyear := t.date.real.2.1
  have hsplaces := fits_places s
  have htplaces := fits_places t
  have hpadded : ∀ {d : Date}, 1000 ≤ d.year → digits d.year = paddedDigits 4 d.year := by
    intro d hd
    simp [paddedDigits, (length_year d).2 hd]
  have hsign : ∀ (c : Char) (a b : List Char), c :: a < c :: b ↔ a < b := by
    intro c a b
    simp
  simp only [instantText, hpadded hs, hpadded ht, List.append_assoc, List.cons_append]
  rw [reading_lt_iff, Date.dayNumber_lt_iff, Date.dayNumber_eq_iff,
    paddedDigits_append_lt_iff (by decide) (by omega) (by omega), hsign,
    paddedDigits_append_lt_iff (by decide) (by omega) (by omega), hsign,
    paddedDigits_append_lt_iff (by decide) (by omega) (by omega), hsign,
    paddedDigits_append_lt_iff (by decide) (by omega) (by omega), hsign,
    paddedDigits_append_lt_iff (by decide) (by omega) (by omega), hsign,
    paddedDigits_append_lt_iff (by decide) (by omega) (by omega), hsign,
    paddedDigits_append_lt_iff (by decide) (by omega) (by omega)]
  have hend : ¬['Z'] < ['Z'] := List.lt_irrefl _
  simp only [hend, and_false, or_false, and_or_left, or_assoc, and_assoc]

/-- **Texts are the same exactly where their clocks show one millisecond.** -/
theorem instantText_eq_iff (s t : DateTime) :
    instantText s = instantText t ↔ s.reading / 1000 = t.reading / 1000 := by
  constructor
  · intro h
    have hread := denotedMillisecond?_instantText s
    rw [h, denotedMillisecond?_instantText, Option.some.injEq] at hread
    exact hread.symm
  · intro h
    have hlt := reading_lt_iff s t
    have hgt := reading_lt_iff t s
    have hday : s.date.dayNumber = t.date.dayNumber := by omega
    obtain ⟨hyear, hmonth, hdate⟩ := Date.dayNumber_eq_iff.1 hday
    have hhour : s.time.hour = t.time.hour := by omega
    have hminute : s.time.minute = t.time.minute := by omega
    have hsecond : s.time.second = t.time.second := by omega
    have hmilli : s.time.microsecond / 1000 = t.time.microsecond / 1000 := by omega
    rw [instantText, instantText, hyear, hmonth, hdate, hhour, hminute, hsecond, hmilli]

/-! ## Tokens -/

theorem showsText_encode (text : List Char) : ShowsText (Percent.encode (quoted text)) text :=
  Percent.decode?_encode _

/-- A token shows one text. -/
theorem ShowsText.unique {tok text text' : List Char} (h : ShowsText tok text)
    (h' : ShowsText tok text') : text = text' := by
  have hquoted := Option.some.inj (h.symm.trans h')
  rw [quoted, quoted, List.append_cancel_right_eq, List.cons_inj_right] at hquoted
  exact hquoted

/-- The token of a time is made from its form on the clock of UTC. -/
theorem token_datetime_cases (t : DateTime) :
    (∃ u, token (.datetime t) = .ok (Percent.encode (quoted (instantText u))) ∧
        u.reading = t.instant) ∨
      token (.datetime t) = .error .overflow ∧ t.offset.isSome = true ∧
        ¬InCalendar t.instant := by
  rcases t.toUtc?_cases with ⟨u, hutc, hreading⟩ | ⟨hutc, haware, hbeyond⟩
  · refine .inl ⟨u, ?_, hreading⟩
    rw [token, dateTimeToken, hutc]
  · refine .inr ⟨?_, haware, hbeyond⟩
    rw [token, dateTimeToken, hutc]

theorem exists_of_token_datetime {t : DateTime} {tok : List Char}
    (h : token (.datetime t) = .ok tok) :
    ∃ u, tok = Percent.encode (quoted (instantText u)) ∧ u.reading = t.instant := by
  rcases token_datetime_cases t with ⟨u, htok, hreading⟩ | ⟨htok, -⟩
  · exact ⟨u, Except.ok.inj (h.symm.trans htok), hreading⟩
  · cases h.symm.trans htok

/-- **The token of a point in time is its instant.** It only fails, with an overflow, where the
clock is known and the instant is not in the years 1 to 9999 of UTC. Otherwise it shows, between
double quotes, a text of year, month, day and time that denotes the instant rounded down to the
millisecond, and that has 24 characters, in the fixed form, exactly from the year 1000 on. Two
points in time have the same token exactly where their instants are in one millisecond, and from
the year 1000 on their texts are in the order of these milliseconds. -/
theorem token_denotes_instant :
    (∀ t : DateTime,
      (token (.datetime t) = .error .overflow ↔
        t.offset.isSome = true ∧ ¬InCalendar t.instant) ∧
      (∀ f, token (.datetime t) = .error f → f = .overflow) ∧
      ∀ tok, token (.datetime t) = .ok tok → ∃ text, ShowsText tok text ∧
        denotedMillisecond? text = some (t.instant / 1000) ∧
        (HasIsoForm text ↔ startOfYear 1000 ≤ t.instant) ∧
        (text.length = 24 ↔ startOfYear 1000 ≤ t.instant)) ∧
    ∀ s t tok tok', token (.datetime s) = .ok tok → token (.datetime t) = .ok tok' →
      (tok = tok' ↔ s.instant / 1000 = t.instant / 1000) ∧
      ∀ text text', ShowsText tok text → ShowsText tok' text' →
        startOfYear 1000 ≤ s.instant → startOfYear 1000 ≤ t.instant →
        (text < text' ↔ s.instant / 1000 < t.instant / 1000) := by
  constructor
  · intro t
    rcases token_datetime_cases t with ⟨u, htok, hreading⟩ | ⟨htok, haware, hbeyond⟩
    · have hin : InCalendar t.instant := hreading ▸ u.inCalendar_reading
      have hyear := u.le_year_iff (show 1 ≤ 1000 by decide)
      rw [hreading] at hyear
      rw [htok]
      refine ⟨by simp [hin], by simp, ?_⟩
      rintro _ ⟨⟩
      refine ⟨_, showsText_encode _, ?_, ?_, ?_⟩
      · rw [denotedMillisecond?_instantText, hreading]
      · rw [hasIsoForm_instantText, hyear]
      · rw [length_instantText, ← hyear, ← length_year]
        omega
    · rw [htok]
      exact ⟨by simp [haware, hbeyond], by simp, by simp⟩
  · intro s t tok tok' hs ht
    obtain ⟨u, rfl, hu⟩ := exists_of_token_datetime hs
    obtain ⟨v, rfl, hv⟩ := exists_of_token_datetime ht
    constructor
    · rw [← hu, ← hv, ← instantText_eq_iff]
      constructor
      · intro h
        exact (showsText_encode (instantText u)).unique (h ▸ showsText_encode _)
      · intro h
        rw [h]
    · intro text text' htext htext' hfirst hfirst'
      rw [← hu, ← u.le_year_iff (by decide)] at hfirst
      rw [← hv, ← v.le_year_iff (by decide)] at hfirst'
      rw [← hu, ← hv, htext.unique (showsText_encode _), htext'.unique (showsText_encode _),
        instantText_lt_iff hfirst hfirst']

/-- Late on a leap day, on a clock that is an hour and a microsecond behind UTC. -/
def lateOnLeapDay : DateTime :=
  ⟨⟨2024, 2, 29, by decide⟩, ⟨23, 30, 0, 123999, by decide⟩, some ⟨-3600000001, by decide⟩⟩

/-- The same instant and some microseconds, on no known clock. -/
def earlyInMarch : DateTime :=
  ⟨⟨2024, 3, 1, by decide⟩, ⟨0, 30, 0, 124567, by decide⟩, none⟩

/-- The last half hour of the calendar, on a clock behind UTC. -/
def beyondCalendar : DateTime :=
  ⟨⟨9999, 12, 31, by decide⟩, ⟨23, 30, 0, 0, by decide⟩, some ⟨-3600000000, by decide⟩⟩

theorem leap_day_and_march_tokens :
    let tok := Percent.encode (quoted "2024-03-01T00:30:00.124Z".toList)
    token (.datetime lateOnLeapDay) = .ok tok ∧ token (.datetime earlyInMarch) = .ok tok ∧
      lateOnLeapDay.instant / 1000 = earlyInMarch.instant / 1000 ∧
      startOfYear 1000 ≤ lateOnLeapDay.instant ∧
      (∃ text, ShowsText tok text ∧
        denotedMillisecond? text = some (lateOnLeapDay.instant / 1000) ∧ HasIsoForm text) ∧
      ¬InCalendar beyondCalendar.instant ∧
      token (.datetime beyondCalendar) = .error .overflow := by
  intro tok
  have htok : token (.datetime lateOnLeapDay) = .ok tok := rfl
  have htok' : token (.datetime earlyInMarch) = .ok tok := rfl
  have hyear : startOfYear 1000 ≤ lateOnLeapDay.instant := by decide
  have hbeyond : ¬InCalendar beyondCalendar.instant := by
    rintro ⟨-, h⟩
    exact absurd h (by decide)
  obtain ⟨hone, htwo⟩ := token_denotes_instant
  obtain ⟨-, -, hshown⟩ := hone lateOnLeapDay
  obtain ⟨text, htext, hdenotes, hiso, -⟩ := hshown tok htok
  have hsame := (htwo lateOnLeapDay earlyInMarch tok tok htok htok').1.1 rfl
  exact ⟨htok, htok', hsame, hyear, ⟨text, htext, hdenotes, hiso.2 hyear⟩, hbeyond,
    (hone beyondCalendar).1.2 ⟨rfl, hbeyond⟩⟩

end DataPortal.Query
