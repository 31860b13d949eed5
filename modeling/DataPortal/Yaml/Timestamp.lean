import DataPortal.Calendar.DateTime
import DataPortal.Failure.Basic
/-!
# Dates and points in time

A date, or a date and a time of day with a clock's distance from UTC. The form of the text
is looked at first; whether there is such a day and such a time shows when it is read.
-/
namespace DataPortal.Yaml

/-- A clock's distance from UTC as written. -/
inductive Zone where
  | local
  | utc
  | distance (negative : Bool) (hours minutes : Nat)
  deriving DecidableEq, Repr

/-- A time of day as written. -/
structure WrittenTime where
  hour : Nat
  minute : Nat
  second : Nat
  fraction : List Char
  zone : Zone
  deriving DecidableEq, Repr

/-- A date, maybe with a time of day, as written. A date is in full where month and day have
two digits each. -/
structure Timestamp where
  year : Nat
  month : Nat
  day : Nat
  inFull : Bool
  time : Option WrittenTime
  deriving DecidableEq, Repr

namespace Timestamp

/-- The number in the digits at the front of a text, of which there are some number between
two bounds, and the rest. -/
def takeNumber? (least most : Nat) (s : List Char) : Option (Nat × List Char) :=
  let ds := (s.take most).takeWhile Text.isAsciiDigit
  if ds.length < least then none else some (Text.digitsValue ds, s.drop ds.length)

/-- The rest of a text after a character that must come first. -/
def after? (c : Char) : List Char → Option (List Char)
  | d :: rest => if d = c then some rest else none
  | [] => none

/-- A space or a tab. -/
def isGap (c : Char) : Bool :=
  c == ' ' || c == '\t'

/-- The minutes at the end of a zone, if there are any. -/
def zoneMinutes? (s : List Char) : Option Nat :=
  match s with
  | [] => some 0
  | s => do
    let s ← after? ':' s
    let (minutes, s) ← takeNumber? 2 2 s
    if s.isEmpty then some minutes else none

/-- The zone at the end of a text. -/
def zone? (s : List Char) : Option Zone :=
  match s, s.dropWhile isGap with
  | [], _ => some .local
  | _, ['Z'] => some .utc
  | _, sign :: rest =>
    if sign = '+' ∨ sign = '-' then do
      let (hours, rest) ← takeNumber? 1 2 rest
      (zoneMinutes? rest).map (.distance (sign == '-') hours)
    else none
  | _, [] => none

/-- The fraction of a second at the front of a text, if there is one, and the rest. -/
def takeFraction (s : List Char) : List Char × List Char :=
  match s with
  | '.' :: rest => (rest.takeWhile Text.isAsciiDigit, rest.dropWhile Text.isAsciiDigit)
  | s => ([], s)

/-- A time of day. -/
def time? (s : List Char) : Option WrittenTime := do
  let (hour, s) ← takeNumber? 1 2 s
  let s ← after? ':' s
  let (minute, s) ← takeNumber? 2 2 s
  let s ← after? ':' s
  let (second, s) ← takeNumber? 2 2 s
  let (fraction, s) := takeFraction s
  (zone? s).map (⟨hour, minute, second, fraction, ·⟩)

/-- The time of day after a date: after a `T`, or after spaces and tabs. -/
def timeAfterDate? (s : List Char) : Option WrittenTime :=
  match s with
  | [] => none
  | c :: rest =>
    if c = 'T' ∨ c = 't' then time? rest
    else if isGap c then time? (rest.dropWhile isGap)
    else none

/-- The parts of a text that has the form of a timestamp. -/
def parts? (s : List Char) : Option Timestamp := do
  let (year, s) ← takeNumber? 4 4 s
  let s ← after? '-' s
  let (month, monthEnd) ← takeNumber? 1 2 s
  let dayStart ← after? '-' monthEnd
  let (day, rest) ← takeNumber? 1 2 dayStart
  let inFull := s.length - monthEnd.length == 2 && dayStart.length - rest.length == 2
  if rest.isEmpty then some ⟨year, month, day, inFull, none⟩
  else (timeAfterDate? rest).map (⟨year, month, day, inFull, some ·⟩)

/-- The microseconds of a fraction of a second; further digits are cut off. -/
def microseconds (fraction : List Char) : Nat :=
  Text.digitsValue ((fraction ++ List.replicate 6 '0').take 6)

/-- The clock of a zone, if it is less than a day from UTC. -/
def offset : Zone → Except Failure (Option UtcOffset)
  | .local => .ok none
  | .utc => .ok (some UtcOffset.utc)
  | .distance negative hours minutes =>
    let size : Int := 3600 * hours + 60 * minutes
    match UtcOffset.of? (if negative then -size else size) with
    | some o => .ok (some o)
    | none => .error .badValue

/-- The date or the point in time, if it is a real one. -/
def value (t : Timestamp) : Except Failure Value :=
  match Date.of? t.year t.month t.day, t.time with
  | none, _ => .error .badValue
  | some date, none => .ok (.date date)
  | some date, some w => do
    let o ← offset w.zone
    match TimeOfDay.of? w.hour w.minute w.second (microseconds w.fraction) with
    | some time => return .datetime ⟨date, time, o⟩
    | none => throw .badValue

end Timestamp
end DataPortal.Yaml
