import DataPortal.Calendar.Date
import DataPortal.Failure.Basic
import DataPortal.Text.Template
/-!
# Dates in filter texts

A text that looks like a date must be one. A text of ISO shape must denote a real date
or time; a text like `1/2/24`, of which nobody can tell the day from the month, is
refused altogether.
-/
namespace DataPortal.FilterText

/-- Takes the sign between the numbers of a short date. -/
def takeDateSign? : List Char → Option (List Char)
  | c :: rest => if c = '/' ∨ c = '-' then some rest else none
  | [] => none

/-- One or two digits, one or two digits, and two to four digits, with `/` or `-` between. -/
def isAmbiguousDate (s : List Char) : Bool :=
  ((Text.takeDigits? 1 2 s).bind fun s =>
    (takeDateSign? s).bind fun s =>
    (Text.takeDigits? 1 2 s).bind fun s =>
    (takeDateSign? s).bind fun s =>
    Text.takeDigits? 2 4 s).any Text.isAtEnd

/-- The shape `YYYY-MM-DD`. -/
def hasDateShape (s : List Char) : Bool :=
  (Text.takeTemplate? "####-##-##".toList s).any Text.isAtEnd

/-- The end of a time: nothing, `Z`, or a distance from UTC. -/
def isZoneAtEnd : List Char → Bool
  | 'Z' :: rest => Text.isAtEnd rest
  | '+' :: rest | '-' :: rest => (Text.takeTemplate? "##:##".toList rest).any Text.isAtEnd
  | rest => Text.isAtEnd rest

/-- The shape `YYYY-MM-DDThh:mm:ss`, with or without a zone. -/
def hasDateTimeShape (s : List Char) : Bool :=
  (Text.takeTemplate? "####-##-##T##:##:##".toList s).any isZoneAtEnd

/-- The number that some characters of a text spell. -/
def numberAt (place width : Nat) (s : List Char) : Nat :=
  Text.digitsValue ((s.drop place).take width)

/-- A text of ASCII characters on one line. -/
def isPlainLine (s : List Char) : Bool :=
  s.all (fun c => c.toNat < 128 && c != '\n')

/-- Whether the first ten characters name a day that exists. -/
def namesRealDay (s : List Char) : Bool :=
  decide (IsRealDay (numberAt 0 4 s) (numberAt 5 2 s) (numberAt 8 2 s))

/-- Whether a text of date shape is a date: in ASCII digits, and of a day that exists. -/
def isRealDate (s : List Char) : Bool :=
  isPlainLine s && namesRealDay s

/-- A distance from UTC of less than a day. Minutes may exceed an hour. -/
def isRealZone : List Char → Bool
  | '+' :: rest | '-' :: rest => decide (60 * numberAt 0 2 rest + numberAt 3 2 rest < 1440)
  | _ => true

/-- Whether a text of time shape is a time: in ASCII digits, of a day that exists, with
every number in its range. -/
def isRealDateTime (s : List Char) : Bool :=
  isPlainLine s && namesRealDay s &&
    decide (numberAt 11 2 s < 24 ∧ numberAt 14 2 s < 60 ∧ numberAt 17 2 s < 60) &&
    isRealZone (s.drop 19)

/-- The hint for a date that can be read in two ways. -/
def isoHint : String :=
  "Use ISO 8601: YYYY-MM-DD or YYYY-MM-DDTHH:MM:SS"

/-- The failure for a date that can be read in two ways. -/
def ambiguousDate (s : List Char) : Failure :=
  .invalidInput ("Invalid date format '" ++ String.ofList s ++ "'") isoHint

/-- The failure for a date that does not exist. -/
def impossibleDate (s : List Char) : Failure :=
  .invalidInput ("Invalid date '" ++ String.ofList s ++ "'") "Date must be a valid ISO 8601 date"

/-- Refuses a text that looks like a date and is none. -/
def checkDate (s : List Char) : Except Failure Unit :=
  if isAmbiguousDate s then .error (ambiguousDate s)
  else if hasDateShape s then
    if isRealDate s then .ok () else .error (impossibleDate s)
  else if hasDateTimeShape s then
    if isRealDateTime s then .ok () else .error (impossibleDate s)
  else .ok ()

end DataPortal.FilterText
