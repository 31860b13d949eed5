import DataPortal.Number.Shortest
import DataPortal.Text.Percent
import DataPortal.Text.Printable
import DataPortal.Value.Basic
/-!
# Values as text

`Value.display` is how a value stands inside a query: a text as it is. `Value.inspect`
is how it is shown to a developer: a text between quotes, with what cannot be shown
written as an escape. The items of a list are inspected in both.
-/
namespace DataPortal
namespace Text

/-- The lower-case hexadecimal digits of a number, with zeros in front up to a width. -/
def hexDigits (width n : Nat) : List Char :=
  let ds := Nat.toDigits 16 n
  List.replicate (width - ds.length) '0' ++ ds

/-- One character between quotes. -/
def inspectChar (mark c : Char) : List Char :=
  if c = mark ∨ c = '\\' then ['\\', c]
  else if c = '\n' then ['\\', 'n']
  else if c = '\r' then ['\\', 'r']
  else if c = '\t' then ['\\', 't']
  else if isPrintable c then [c]
  else if c.toNat < 0x100 then '\\' :: 'x' :: hexDigits 2 c.toNat
  else if c.toNat < 0x10000 then '\\' :: 'u' :: hexDigits 4 c.toNat
  else '\\' :: 'U' :: hexDigits 8 c.toNat

/-- A text between quotes: single ones, or double ones where the text has single ones
and no double ones. -/
def inspect (s : List Char) : List Char :=
  let mark := if s.contains '\'' && !s.contains '"' then '"' else '\''
  mark :: s.flatMap (inspectChar mark) ++ [mark]

/-- A broken text between quotes: its surrogates stand there as escapes. -/
def inspectBroken (t : BrokenText) : List Char :=
  let mark := if t.shown.contains '\'' && !t.shown.contains '"' then '"' else '\''
  let inspectPoint := fun (p : CodePoint) =>
    match p with
    | .char c => inspectChar mark c
    | .surrogate _ => '\\' :: 'u' :: hexDigits 4 p.toNat
  mark :: t.points.flatMap inspectPoint ++ [mark]

/-- Texts with a separator between each two. -/
def joinWith (separator : List Char) : List (List Char) → List Char
  | [] => []
  | [s] => s
  | s :: rest => s ++ separator ++ joinWith separator rest

end Text

namespace Value

/-- The digits of an integer, as many as it has. -/
def intText (n : Int) : List Char :=
  if n < 0 then '-' :: Text.digits n.natAbs else Text.digits n.natAbs

/-- An integer of no more digits than one is written with. -/
def isWritable (n : Int) : Bool :=
  decide ((Text.digits n.natAbs).length ≤ Text.maxDigits)

theorem isWritable_iff (n : Int) : isWritable n = true ↔ n.natAbs < 10 ^ Text.maxDigits := by
  rw [isWritable, decide_eq_true_eq, Text.digits,
    Nat.length_toDigits_le_iff (by decide) (by decide)]

/-- The text of an integer, unless it has too many digits. -/
def intText? (n : Int) : Option (List Char) :=
  if isWritable n then some (intText n) else none

/-- A date as the call that makes it. -/
def inspectDate (d : Date) : List Char :=
  "datetime.date(".toList ++
    Text.joinWith [',', ' '] [Text.digits d.year, Text.digits d.month, Text.digits d.day] ++ [')']

/-- A clock's distance from UTC as the call that makes it. A negative distance is a day
back and some time forward; seconds and microseconds are left out where they are zero. -/
def inspectOffset (o : UtcOffset) : List Char :=
  if o.microseconds = 0 then "datetime.timezone.utc".toList
  else
    let forward := o.microseconds % 86400000000
    let days := if o.microseconds < 0 then ["days=-1".toList] else []
    let seconds :=
      if forward / 1000000 = 0 then [] else ["seconds=".toList ++ intText (forward / 1000000)]
    let micros :=
      if forward % 1000000 = 0 then []
      else ["microseconds=".toList ++ intText (forward % 1000000)]
    "datetime.timezone(datetime.timedelta(".toList ++
      Text.joinWith [',', ' '] (days ++ seconds ++ micros) ++ "))".toList

/-- A point in time as the call that makes it; seconds and microseconds are left out
where they are zero. -/
def inspectDateTime (t : DateTime) : List Char :=
  let fields := [t.date.year, t.date.month, t.date.day, t.time.hour, t.time.minute]
  let fields :=
    if t.time.microsecond ≠ 0 then fields ++ [t.time.second, t.time.microsecond]
    else if t.time.second ≠ 0 then fields ++ [t.time.second]
    else fields
  let clock := match t.offset with
    | none => []
    | some o => ["tzinfo=".toList ++ inspectOffset o]
  "datetime.datetime(".toList ++
    Text.joinWith [',', ' '] (fields.map Text.digits ++ clock) ++ [')']

/-- Bytes as they are shown to a developer: those that are no visible ASCII characters as
escapes. -/
def inspectBytes (bytes : List UInt8) : List Char :=
  let s := bytes.map fun b => Char.ofNat b.toNat
  let mark := if s.contains '\'' && !s.contains '"' then '"' else '\''
  let inspectByte := fun (c : Char) =>
    if 127 ≤ c.toNat then '\\' :: 'x' :: Text.hexDigits 2 c.toNat else Text.inspectChar mark c
  'b' :: mark :: s.flatMap inspectByte ++ [mark]

mutual

/-- A value as it is shown to a developer. -/
def inspect : Value → List Char
  | .null => "None".toList
  | .bool true => "True".toList
  | .bool false => "False".toList
  | .int n => intText n
  | .float x => x.text
  | .decimal d => "Decimal('".toList ++ d.text ++ "')".toList
  | .str s => Text.inspect s.toList
  | .broken t => Text.inspectBroken t
  | .date d => inspectDate d
  | .datetime t => inspectDateTime t
  | .list items => '[' :: Text.joinWith [',', ' '] (inspectAll items) ++ [']']
  | .tuple [item] => '(' :: inspect item ++ [',', ')']
  | .tuple items => '(' :: Text.joinWith [',', ' '] (inspectAll items) ++ [')']
  | .dict entries => '\x7b' :: Text.joinWith [',', ' '] (inspectEntries entries) ++ ['\x7d']
  | .bytes content => inspectBytes content
  | .set [] => "set()".toList
  | .set members => '\x7b' :: Text.joinWith [',', ' '] (inspectAll members) ++ ['\x7d']
  | .unknown => "<object object>".toList

/-- The items of a list, each inspected. -/
def inspectAll : List Value → List (List Char)
  | [] => []
  | v :: rest => inspect v :: inspectAll rest

/-- The entries of an object, each as key, colon and value. -/
def inspectEntries : List (Value × Value) → List (List Char)
  | [] => []
  | (k, v) :: rest => (inspect k ++ ':' :: ' ' :: inspect v) :: inspectEntries rest

end

/-- A value as it stands inside a query. -/
def display : Value → List Char
  | .str s => s.toList
  | .broken t => t.shown
  | .decimal d => d.text
  | .date d => d.text
  | .datetime t => t.textWith ' '
  | v => v.inspect

end Value
end DataPortal
