import DataPortal.Calendar.DateTime
import DataPortal.Record.Lenient
/-!
# Points in time in records

A point in time is written as a date and a time, as a date alone, or as the time since
the start of 1970 in seconds, or in milliseconds where the number is too great for
seconds.
-/
namespace DataPortal.Record

/-- The two digits at the front of a text, and the rest. -/
def twoDigits? : List Char → Option (Nat × List Char)
  | a :: b :: rest =>
    if Text.isAsciiDigit a && Text.isAsciiDigit b then
      some (10 * Text.digitValue a + Text.digitValue b, rest)
    else none
  | _ => none

/-- The date at the front of a text, and the rest. -/
def takeDate? (s : List Char) : Option (Date × List Char) := do
  let (century, s) ← twoDigits? s
  let (year, s) ← twoDigits? s
  match s with
  | '-' :: s =>
    let (month, s) ← twoDigits? s
    match s with
    | '-' :: s =>
      let (day, s) ← twoDigits? s
      (Date.of? (100 * century + year) month day).map (·, s)
    | _ => none
  | _ => none

/-- The microseconds of a fraction of a second; further digits are cut off. -/
def microseconds (fraction : List Char) : Nat :=
  Text.digitsValue ((fraction ++ List.replicate 6 '0').take 6)

/-- The seconds at the front of a text with their fraction, if there are any. -/
def takeSeconds? : List Char → Option (Nat × Nat × List Char)
  | ':' :: rest => do
    let (second, rest) ← twoDigits? rest
    match rest with
    | c :: after =>
      if c = '.' ∨ c = ',' then
        let fraction := after.takeWhile Text.isAsciiDigit
        if fraction.isEmpty then none
        else some (second, microseconds fraction, after.dropWhile Text.isAsciiDigit)
      else some (second, 0, rest)
    | [] => some (second, 0, [])
  | rest => some (0, 0, rest)

/-- The distance from UTC that a text denotes. Hours and minutes may have a colon
between them. -/
def zone? (s : List Char) : Option (Option UtcOffset) :=
  match s with
  | [] => some none
  | ['Z'] | ['z'] => some (some UtcOffset.utc)
  | sign :: rest =>
    if sign = '+' ∨ sign = '-' ∨ sign.toNat = 0x2212 then do
      let (hours, rest) ← twoDigits? rest
      let (minutes, rest) ← twoDigits? (match rest with
        | ':' :: rest => rest
        | rest => rest)
      if rest.isEmpty && minutes < 60 then
        let size : Int := 3600 * hours + 60 * minutes
        (UtcOffset.of? (if sign = '+' then size else -size)).map some
      else none
    else none

/-- A date with a time, or a date alone, which stands for its first moment. -/
def dateTimeText? (s : List Char) : Option DateTime := do
  let (date, s) ← takeDate? s
  match s with
  | [] => some ⟨date, TimeOfDay.midnight, none⟩
  | separator :: s =>
    if ['T', 't', ' ', '_'].contains separator then
      let (hour, s) ← twoDigits? s
      match s with
      | ':' :: s =>
        let (minute, s) ← twoDigits? s
        let (second, micro, s) ← takeSeconds? s
        let time ← TimeOfDay.of? hour minute second micro
        (zone? s).map (⟨date, time, ·⟩)
      | _ => none
    else none

/-- A number greater than this, either way, counts milliseconds. -/
def mostSeconds : Nat := 20000000000

/-- The microseconds of the unit that a number counts. -/
def unitOf (size : Rat) : Int :=
  if -(mostSeconds : Rat) ≤ size ∧ size ≤ mostSeconds then 1000000 else 1000

/-- The point in time some units of so many microseconds, and some microseconds more, after
the start of 1970, in the years 1 to 9999. -/
def unixTime? (unit n : Int) (micros : Nat) : Option DateTime :=
  let total := unit * n + micros
  DateTime.ofUnixTime? (total / 1000000) (TimeOfDay.beyondSeconds (total % 1000000).toNat)

/-- The point in time of a whole number. -/
def wholeUnixTime? (n : Int) : Option DateTime :=
  unixTime? (unitOf n) n 0

/-- The point in time of a number with a fraction, which is rounded to microseconds, a half
going up. The fraction is taken off and scaled in floating point. -/
def fractionalUnixTime? (x : Binary64) : Option DateTime :=
  x.value?.bind fun size =>
    let fraction := x - Binary64.ofInt size.floor
    (fraction * Binary64.ofInt (unitOf size)).value?.bind fun micros =>
      unixTime? (unitOf size) size.floor (micros + 1 / 2).floor.toNat

/-- The point in time of a number in a text, in ASCII digits. An exponent needs a point
before it, and the digits before a point must fit into 64 bits. -/
def unixTimeText? (s : List Char) : Option DateTime :=
  if s.all (fun c => c.toNat < 128) then
    (Numeral.read? s).bind fun n =>
      if n.isWhole then wholeUnixTime? n.toInt
      else if n.fraction.isSome && n.toInt.natAbs < 2 ^ 63 then fractionalUnixTime? n.toBinary64
      else none
  else none

/-- A point in time. -/
def timestamp? : Value → Option DateTime
  | .int n => wholeUnixTime? n
  | .float x => fractionalUnixTime? x
  | .str s =>
    match dateTimeText? s.toList with
    | some t => some t
    | none => unixTimeText? s.toList
  | _ => none

end DataPortal.Record
