import DataPortal.Calendar.DateTime
import DataPortal.Proofs.Calendar.DayNumber
/-!
# Instants on the clock of UTC

A time on any clock, and the same time on the clock of UTC, are one instant. There is no such form
exactly where the instant is not in the years 1 to 9999 of UTC.
-/
namespace DataPortal

/-- A time of day lies within the day. -/
theorem TimeOfDay.seconds_lt (t : TimeOfDay) : t.seconds < 86400 := by
  have := t.real
  rw [seconds]
  omega

theorem TimeOfDay.seconds_ofSeconds {n : Nat} (h : n < 86400) (microsecond : Fin 1000000) :
    (ofSeconds n microsecond).seconds = n := by
  simp only [seconds, ofSeconds]
  omega

namespace DateTime

/-- The first microsecond of a year of UTC. -/
def startOfYear (year : Nat) : Int :=
  86400000000 * (Date.daysBeforeYear year : Int)

/-- An instant of the years 1 to 9999 of UTC. -/
def InCalendar (instant : Int) : Prop :=
  startOfYear 1 ≤ instant ∧ instant < startOfYear 10000

/-- The microseconds since the start of year 1 that the clock of a time shows. -/
def reading (t : DateTime) : Int :=
  1000000 * (86400 * (t.date.dayNumber : Int) + t.time.seconds) + t.time.microsecond

variable {t u : DateTime}

theorem instant_of_offset {offset : UtcOffset} (h : t.offset = some offset) :
    t.instant = t.reading - offset.microseconds := by
  rw [instant, h, reading]

theorem instant_of_no_offset (h : t.offset = none) : t.instant = t.reading := by
  rw [instant, h, reading]
  exact Int.sub_zero _

/-- A clock shows the time of one day. -/
theorem reading_bounds (t : DateTime) :
    86400000000 * (t.date.dayNumber : Int) ≤ t.reading ∧
      t.reading < 86400000000 * ((t.date.dayNumber : Int) + 1) := by
  have := t.time.seconds_lt
  have := t.time.real.2.2.2
  rw [reading]
  omega

/-- A clock shows a year or a later one from the first microsecond of that year on. -/
theorem le_year_iff (t : DateTime) {year : Nat} (h : 1 ≤ year) :
    year ≤ t.date.year ↔ startOfYear year ≤ t.reading := by
  have hdate := t.date.dayNumber_bounds
  have hclock := t.reading_bounds
  rw [startOfYear]
  constructor
  · intro hle
    have := Date.daysBeforeYear_mono h hle
    omega
  · intro hle
    apply Nat.le_of_not_lt
    intro hlt
    have := Date.daysBeforeYear_mono (by omega) (show t.date.year + 1 ≤ year from hlt)
    omega

/-- A clock only shows years that there are. -/
theorem inCalendar_reading (t : DateTime) : InCalendar t.reading := by
  obtain ⟨hfirst, hlast, -⟩ := t.date.real
  refine ⟨(t.le_year_iff (Nat.le_refl 1)).1 hfirst, ?_⟩
  apply Int.lt_of_not_ge
  intro hbeyond
  have := (t.le_year_iff (show 1 ≤ 10000 by decide)).2 hbeyond
  omega

/-- What the clock of UTC shows some microseconds after midnight. -/
theorem reading_in_day (date : Date) {inDay : Nat} (h : inDay < 86400000000) :
    (⟨date, TimeOfDay.ofSeconds (inDay / 1000000) (TimeOfDay.beyondSeconds inDay),
      some UtcOffset.utc⟩ : DateTime).reading = 86400000000 * (date.dayNumber : Int) + inDay := by
  have hseconds := TimeOfDay.seconds_ofSeconds (show inDay / 1000000 < 86400 by omega)
    (TimeOfDay.beyondSeconds inDay)
  rw [reading, hseconds]
  simp only [TimeOfDay.ofSeconds, TimeOfDay.beyondSeconds]
  omega

/-- **The form of UTC is the same instant**, and only an instant that is not in its years has
none. -/
theorem toUtc?_cases (t : DateTime) :
    (∃ u, t.toUtc? = some u ∧ u.reading = t.instant) ∨
      t.toUtc? = none ∧ t.offset.isSome = true ∧ ¬InCalendar t.instant := by
  cases hoffset : t.offset with
  | none =>
    refine .inl ⟨t, ?_, (instant_of_no_offset hoffset).symm⟩
    rw [toUtc?, hoffset]
  | some offset =>
    obtain ⟨micros, hmicros⟩ : ∃ micros : Int,
        micros = 1000000 * (t.time.seconds : Int) + t.time.microsecond - offset.microseconds :=
      ⟨_, rfl⟩
    have hinstant : t.instant = 86400000000 * (t.date.dayNumber : Int) + micros := by
      rw [instant_of_offset hoffset, reading, hmicros]
      omega
    have hrange : -86400000000 < micros ∧ micros < 172800000000 := by
      have := t.time.seconds_lt
      have := t.time.real.2.2.2
      have := offset.real
      omega
    -- the time of day does not depend on the day
    have hform : ∀ date : Date, 86400000000 * ((date.dayNumber : Int) - t.date.dayNumber) ≤ micros →
        micros < 86400000000 * ((date.dayNumber : Int) - t.date.dayNumber + 1) →
        (⟨date, TimeOfDay.ofSeconds ((micros % 86400000000).toNat / 1000000)
          (TimeOfDay.beyondSeconds (micros % 86400000000).toNat), some UtcOffset.utc⟩ :
            DateTime).reading = t.instant := by
      intro date hlow hhigh
      rw [reading_in_day date (by omega), hinstant]
      omega
    have htoUtc : t.toUtc? =
        (if micros < 0 then t.date.previous?
          else if micros < 86400000000 then some t.date
          else t.date.next?).map
          (⟨·, TimeOfDay.ofSeconds ((micros % 86400000000).toNat / 1000000)
            (TimeOfDay.beyondSeconds (micros % 86400000000).toNat), some UtcOffset.utc⟩) := by
      rw [toUtc?, hoffset, hmicros]
    rw [htoUtc]
    split
    · rename_i hbefore
      rcases t.date.previous?_cases with ⟨date, hdate, hnumber⟩ | ⟨hdate, hnumber⟩
      · exact .inl ⟨_, by rw [hdate]; rfl, hform date (by omega) (by omega)⟩
      · refine .inr ⟨by rw [hdate]; rfl, rfl, ?_⟩
        rintro ⟨hfirst, -⟩
        have hstart : startOfYear 1 = 0 := rfl
        omega
    · split
      · exact .inl ⟨_, rfl, hform t.date (by omega) (by omega)⟩
      · rename_i hbefore hafter
        rcases t.date.next?_cases with ⟨date, hdate, hnumber⟩ | ⟨hdate, hnumber⟩
        · exact .inl ⟨_, by rw [hdate]; rfl, hform date (by omega) (by omega)⟩
        · refine .inr ⟨by rw [hdate]; rfl, rfl, ?_⟩
          rintro ⟨-, hlast⟩
          rw [startOfYear] at hlast
          omega

end DateTime
end DataPortal
