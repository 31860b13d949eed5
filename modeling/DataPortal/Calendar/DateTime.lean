import DataPortal.Calendar.Date
/-!
# Points in time

A date with a time of day to the microsecond and, unless it is a local time, the
distance of the local clock from UTC.
-/
namespace DataPortal

/-- A time of day. -/
structure TimeOfDay where
  hour : Nat
  minute : Nat
  second : Nat
  microsecond : Nat
  real : hour < 24 ∧ minute < 60 ∧ second < 60 ∧ microsecond < 1000000
  deriving DecidableEq, Repr

namespace TimeOfDay

/-- The time of four numbers, if each is in its range. -/
def of? (hour minute second microsecond : Nat) : Option TimeOfDay :=
  if h : hour < 24 ∧ minute < 60 ∧ second < 60 ∧ microsecond < 1000000 then
    some ⟨hour, minute, second, microsecond, h⟩
  else none

/-- The start of a day. -/
def midnight : TimeOfDay :=
  ⟨0, 0, 0, 0, by decide⟩

/-- The whole seconds since midnight. -/
def seconds (t : TimeOfDay) : Nat :=
  3600 * t.hour + 60 * t.minute + t.second

/-- What some microseconds have beyond whole seconds. -/
def beyondSeconds (micros : Nat) : Fin 1000000 :=
  ⟨micros % 1000000, Nat.mod_lt _ (by decide)⟩

/-- The time a number of seconds after midnight. -/
def ofSeconds (n : Nat) (microsecond : Fin 1000000) : TimeOfDay :=
  ⟨n / 3600 % 24, n / 60 % 60, n % 60, microsecond.val, by
    refine ⟨Nat.mod_lt _ (by decide), Nat.mod_lt _ (by decide), Nat.mod_lt _ (by decide),
      microsecond.isLt⟩⟩

end TimeOfDay

/-- The distance of a local clock from UTC in microseconds, less than a day either way. -/
structure UtcOffset where
  microseconds : Int
  real : -86400000000 < microseconds ∧ microseconds < 86400000000
  deriving DecidableEq, Repr

namespace UtcOffset

/-- The offset of a number of seconds, if it is less than a day. -/
def of? (seconds : Int) : Option UtcOffset :=
  if h : -86400 < seconds ∧ seconds < 86400 then some ⟨1000000 * seconds, by omega⟩ else none

/-- The clock of UTC itself. -/
def utc : UtcOffset :=
  ⟨0, by decide⟩

/-- The text `+hh:mm`, with `:ss` where the offset has seconds, and with the digits of
microseconds after these where it has such. -/
def text (o : UtcOffset) : List Char :=
  let micros := o.microseconds.natAbs
  let size := micros / 1000000
  (if o.microseconds < 0 then '-' else '+') :: Text.paddedDigits 2 (size / 3600) ++
    ':' :: Text.paddedDigits 2 (size / 60 % 60) ++
    (if micros % 60000000 = 0 then [] else ':' :: Text.paddedDigits 2 (size % 60)) ++
    (if micros % 1000000 = 0 then [] else '.' :: Text.paddedDigits 6 (micros % 1000000))

end UtcOffset

/-- A date and a time of day on a clock; without an offset the clock is unknown. -/
structure DateTime where
  date : Date
  time : TimeOfDay
  offset : Option UtcOffset
  deriving DecidableEq, Repr

namespace DateTime

/-- The same instant on the clock of UTC. A time on an unknown clock stays as it is;
an instant outside the years 1 to 9999 has no such form. -/
def toUtc? (t : DateTime) : Option DateTime :=
  match t.offset with
  | none => some t
  | some offset =>
    let micros := 1000000 * (t.time.seconds : Int) + t.time.microsecond - offset.microseconds
    let inDay := (micros % 86400000000).toNat
    let time := TimeOfDay.ofSeconds (inDay / 1000000) (TimeOfDay.beyondSeconds inDay)
    let date :=
      if micros < 0 then t.date.previous?
      else if micros < 86400000000 then some t.date
      else t.date.next?
    date.map (⟨·, time, some UtcOffset.utc⟩)

/-- The microseconds since the start of year 1 in UTC, an unknown clock read as UTC. -/
def instant (t : DateTime) : Int :=
  let offset := match t.offset with
    | none => 0
    | some offset => offset.microseconds
  1000000 * (86400 * (t.date.dayNumber : Int) + t.time.seconds) + t.time.microsecond - offset

/-- The time a number of seconds and microseconds after 1 January 1970 in UTC. -/
def ofUnixTime? (seconds : Int) (microsecond : Fin 1000000) : Option DateTime :=
  let sinceYearOne := seconds + 62135596800
  if sinceYearOne < 0 then none
  else
    (Date.ofDayNumber? (sinceYearOne / 86400).toNat).map
      (⟨·, TimeOfDay.ofSeconds (sinceYearOne % 86400).toNat microsecond, some UtcOffset.utc⟩)

/-- The time of day with microseconds where there are any. -/
def timeText (t : TimeOfDay) : List Char :=
  Text.paddedDigits 2 t.hour ++ ':' :: Text.paddedDigits 2 t.minute ++
    ':' :: Text.paddedDigits 2 t.second ++
    (if t.microsecond = 0 then [] else '.' :: Text.paddedDigits 6 t.microsecond)

/-- Date and time with a separator between them, and the offset where it is known. -/
def textWith (separator : Char) (t : DateTime) : List Char :=
  t.date.text ++ separator :: timeText t.time ++
    (match t.offset with
      | none => []
      | some offset => offset.text)

/-- The text with a `T` between date and time. -/
def text (t : DateTime) : List Char :=
  t.textWith 'T'

end DateTime
end DataPortal
