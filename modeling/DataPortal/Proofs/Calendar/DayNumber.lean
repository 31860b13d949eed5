import DataPortal.Calendar.Date
/-!
# Counting days

The number of a date is its place among all dates: the day after a date has the next number, the
day before it the one before, and the order of the numbers is that of year, month and day.
-/
namespace DataPortal.Date

/-- How many days a year has. -/
def daysInYear (year : Nat) : Nat :=
  if isLeapYear year then 366 else 365

/-! ## Months and years -/

theorem daysInMonth_pos (year month : Nat) : 0 < daysInMonth year month := by
  unfold daysInMonth
  split
  · split <;> omega
  · split <;> omega

theorem daysInMonth_le (year month : Nat) : daysInMonth year month ≤ 31 := by
  unfold daysInMonth
  split
  · split <;> omega
  · split <;> omega

/-- The numbers of a date fit into four and two digits. -/
theorem fits_places (d : Date) : d.year < 10000 ∧ d.month < 100 ∧ d.day < 100 := by
  obtain ⟨-, hyear, -, hmonth, -, hday⟩ := d.real
  have hlast := daysInMonth_le d.year d.month
  omega

theorem daysOfMonths_twelve (year : Nat) : daysOfMonths year 12 = daysInYear year := by
  cases hleap : isLeapYear year <;>
    simp [daysOfMonths, daysInMonth, daysInYear, hleap]

/-- The months up to one come before all later ones. -/
theorem daysOfMonths_add_le (year : Nat) {m n : Nat} (h : m < n) :
    daysOfMonths year m + daysInMonth year (m + 1) ≤ daysOfMonths year n := by
  induction n with
  | zero => omega
  | succ n ih =>
    rw [daysOfMonths]
    rcases Nat.lt_succ_iff_lt_or_eq.1 h with hlt | rfl
    · have := ih hlt
      omega
    · omega

theorem daysBeforeYear_succ {year : Nat} (h : 1 ≤ year) :
    daysBeforeYear (year + 1) = daysBeforeYear year + daysInYear year := by
  obtain ⟨n, rfl⟩ : ∃ n, year = n + 1 := ⟨year - 1, by omega⟩
  -- each count of leap years grows by one where the year is a multiple
  have hquads : (n + 1) / 4 = n / 4 + if (n + 1) % 4 = 0 then 1 else 0 := by split <;> omega
  have hcenturies : (n + 1) / 100 = n / 100 + if (n + 1) % 100 = 0 then 1 else 0 := by
    split <;> omega
  have hcycles : (n + 1) / 400 = n / 400 + if (n + 1) % 400 = 0 then 1 else 0 := by
    split <;> omega
  have hcentury : (n + 1) % 100 = 0 → (n + 1) % 4 = 0 := by omega
  have hcycle : (n + 1) % 400 = 0 → (n + 1) % 100 = 0 := by omega
  have hfew : n / 100 ≤ n / 4 := by omega
  have hlength : daysInYear (n + 1) =
      if (n + 1) % 4 = 0 ∧ ((n + 1) % 100 ≠ 0 ∨ (n + 1) % 400 = 0) then 366 else 365 := by
    simp [daysInYear, isLeapYear]
  simp only [daysBeforeYear, Nat.add_sub_cancel, hquads, hcenturies, hcycles, hlength]
  clear hquads hcenturies hcycles hlength
  generalize (n + 1) % 4 = quad at *
  generalize (n + 1) % 100 = century at *
  generalize (n + 1) % 400 = cycle at *
  generalize n / 4 = quads at *
  generalize n / 100 = centuries at *
  split <;> split <;> split <;> split <;> omega

theorem daysBeforeYear_mono {y z : Nat} (hy : 1 ≤ y) (h : y ≤ z) :
    daysBeforeYear y ≤ daysBeforeYear z := by
  induction z with
  | zero => omega
  | succ z ih =>
    rcases Nat.lt_or_eq_of_le h with hlt | heq
    · have := ih (by omega)
      rw [daysBeforeYear_succ (by omega)]
      omega
    · exact Nat.le_of_eq (congrArg daysBeforeYear heq)

/-! ## The order of dates -/

variable {d e : Date}

/-- A date comes after the months before its own, and within that month. -/
theorem dayNumber_in_year (d : Date) :
    daysOfMonths d.year (d.month - 1) + d.day ≤ daysInYear d.year := by
  obtain ⟨-, -, hmonth, htwelve, -, hday⟩ := d.real
  have hmonths := daysOfMonths_add_le d.year (show d.month - 1 < 12 by omega)
  rw [daysOfMonths_twelve, Nat.sub_add_cancel hmonth] at hmonths
  omega

/-- A date lies in its year. -/
theorem dayNumber_bounds (d : Date) :
    daysBeforeYear d.year ≤ d.dayNumber ∧ d.dayNumber < daysBeforeYear (d.year + 1) := by
  obtain ⟨hyear, -, -, -, hday, -⟩ := d.real
  have := dayNumber_in_year d
  rw [daysBeforeYear_succ hyear, dayNumber]
  omega

theorem dayNumber_lt_of_year (h : d.year < e.year) : d.dayNumber < e.dayNumber := by
  have := daysBeforeYear_mono (by omega) (show d.year + 1 ≤ e.year from h)
  have := d.dayNumber_bounds
  have := e.dayNumber_bounds
  omega

theorem dayNumber_lt_of_month (hyear : d.year = e.year) (h : d.month < e.month) :
    d.dayNumber < e.dayNumber := by
  obtain ⟨-, -, hmonth, -, hday, hdays⟩ := d.real
  have hmonths := daysOfMonths_add_le d.year (show d.month - 1 < e.month - 1 by omega)
  rw [Nat.sub_add_cancel hmonth] at hmonths
  simp only [dayNumber, ← hyear]
  omega

theorem dayNumber_lt_of_day (hyear : d.year = e.year) (hmonth : d.month = e.month)
    (h : d.day < e.day) : d.dayNumber < e.dayNumber := by
  have := d.real.2.2.2.2.1
  simp only [dayNumber, hyear, hmonth]
  omega

/-- **Numbers of days are in the order of the dates.** -/
theorem dayNumber_lt_iff :
    d.dayNumber < e.dayNumber ↔
      d.year < e.year ∨ d.year = e.year ∧
        (d.month < e.month ∨ d.month = e.month ∧ d.day < e.day) := by
  constructor
  · intro h
    rcases Nat.lt_trichotomy d.year e.year with hyear | hyear | hyear
    · exact .inl hyear
    · rcases Nat.lt_trichotomy d.month e.month with hmonth | hmonth | hmonth
      · exact .inr ⟨hyear, .inl hmonth⟩
      · rcases Nat.lt_trichotomy d.day e.day with hday | hday | hday
        · exact .inr ⟨hyear, .inr ⟨hmonth, hday⟩⟩
        · simp only [dayNumber, hyear, hmonth, hday] at h
          omega
        · have := dayNumber_lt_of_day hyear.symm hmonth.symm hday
          omega
      · have := dayNumber_lt_of_month hyear.symm hmonth
        omega
    · have := dayNumber_lt_of_year hyear
      omega
  · rintro (hyear | ⟨hyear, hmonth | ⟨hmonth, hday⟩⟩)
    · exact dayNumber_lt_of_year hyear
    · exact dayNumber_lt_of_month hyear hmonth
    · exact dayNumber_lt_of_day hyear hmonth hday

/-- A date is known by its number. -/
theorem dayNumber_eq_iff :
    d.dayNumber = e.dayNumber ↔ d.year = e.year ∧ d.month = e.month ∧ d.day = e.day := by
  have hlt := @dayNumber_lt_iff d e
  have hgt := @dayNumber_lt_iff e d
  constructor
  · intro h
    omega
  · rintro ⟨hyear, hmonth, hday⟩
    omega

/-! ## The day after and the day before -/

theorem of?_of_real {year month day : Nat} (h : IsRealDay year month day) :
    of? year month day = some ⟨year, month, day, h⟩ :=
  dif_pos h

theorem of?_of_not_real {year month day : Nat} (h : ¬IsRealDay year month day) :
    of? year month day = none :=
  dif_neg h

/-- The day after has the next number; the last day of all has none. -/
theorem next?_cases (d : Date) :
    (∃ e, d.next? = some e ∧ e.dayNumber = d.dayNumber + 1) ∨
      d.next? = none ∧ d.dayNumber + 1 = daysBeforeYear 10000 := by
  obtain ⟨hyear, hlast, hmonth, htwelve, hday, hdays⟩ := d.real
  have hmonths : daysOfMonths d.year d.month =
      daysOfMonths d.year (d.month - 1) + daysInMonth d.year d.month := by
    obtain ⟨m, hm⟩ : ∃ m, d.month = m + 1 := ⟨d.month - 1, by omega⟩
    rw [hm]
    rfl
  rw [next?]
  split
  · rename_i h
    have hreal : IsRealDay d.year d.month (d.day + 1) :=
      ⟨hyear, hlast, hmonth, htwelve, by omega, h⟩
    refine .inl ⟨_, of?_of_real hreal, ?_⟩
    simp only [dayNumber]
    omega
  · split
    · rename_i hfull h
      have hreal : IsRealDay d.year (d.month + 1) 1 :=
        ⟨hyear, hlast, by omega, h, by omega, daysInMonth_pos ..⟩
      refine .inl ⟨_, of?_of_real hreal, ?_⟩
      simp only [dayNumber, Nat.add_sub_cancel]
      omega
    · rename_i hfull h
      have htwelve : d.month = 12 := by omega
      have hend : d.dayNumber + 1 = daysBeforeYear (d.year + 1) := by
        rw [daysBeforeYear_succ hyear, ← daysOfMonths_twelve, ← htwelve, hmonths, dayNumber]
        omega
      by_cases hyears : d.year + 1 ≤ 9999
      · have hreal : IsRealDay (d.year + 1) 1 1 :=
          ⟨by omega, hyears, by omega, by omega, by omega, daysInMonth_pos ..⟩
        refine .inl ⟨_, of?_of_real hreal, ?_⟩
        rw [hend]
        rfl
      · have hreal : ¬IsRealDay (d.year + 1) 1 1 := fun h => hyears h.2.1
        refine .inr ⟨of?_of_not_real hreal, ?_⟩
        rw [hend, show d.year + 1 = 10000 by omega]

/-- The day before has the number before; the first day of all has none. -/
theorem previous?_cases (d : Date) :
    (∃ e, d.previous? = some e ∧ e.dayNumber + 1 = d.dayNumber) ∨
      d.previous? = none ∧ d.dayNumber = 0 := by
  obtain ⟨hyear, hlast, hmonth, htwelve, hday, hdays⟩ := d.real
  rw [previous?]
  split
  · rename_i h
    have hreal : IsRealDay d.year d.month (d.day - 1) :=
      ⟨hyear, hlast, hmonth, htwelve, by omega, by omega⟩
    refine .inl ⟨_, of?_of_real hreal, ?_⟩
    simp only [dayNumber]
    omega
  · split
    · rename_i hfirst h
      obtain ⟨m, hm⟩ : ∃ m, d.month = m + 2 := ⟨d.month - 2, by omega⟩
      have hreal : IsRealDay d.year (d.month - 1) (daysInMonth d.year (d.month - 1)) :=
        ⟨hyear, hlast, by omega, by omega, daysInMonth_pos .., Nat.le_refl _⟩
      have hpos := daysInMonth_pos d.year (m + 1)
      refine .inl ⟨_, of?_of_real hreal, ?_⟩
      simp only [dayNumber, hm, Nat.add_sub_cancel, show m + 2 - 1 = m + 1 by omega, daysOfMonths]
      omega
    · rename_i hfirst h
      have hstart : d.dayNumber = daysBeforeYear d.year := by
        rw [dayNumber, show d.month - 1 = 0 by omega, daysOfMonths]
        omega
      by_cases hyears : 1 ≤ d.year - 1
      · have hreal : IsRealDay (d.year - 1) 12 31 :=
          ⟨hyears, by omega, by omega, by omega, by omega, by simp [daysInMonth]⟩
        refine .inl ⟨_, of?_of_real hreal, ?_⟩
        have hmonths : daysOfMonths (d.year - 1) 12 =
            daysOfMonths (d.year - 1) 11 + daysInMonth (d.year - 1) 12 := rfl
        have hdecember : daysInMonth (d.year - 1) 12 = 31 := by simp [daysInMonth]
        have hbefore := daysBeforeYear_succ hyears
        rw [← daysOfMonths_twelve, Nat.sub_add_cancel hyear] at hbefore
        rw [hstart, hbefore]
        simp only [dayNumber, Nat.reduceSub]
        omega
      · have hreal : ¬IsRealDay (d.year - 1) 12 31 := fun h => hyears h.1
        refine .inr ⟨of?_of_not_real hreal, ?_⟩
        rw [hstart, show d.year = 1 by omega]
        rfl

end DataPortal.Date
