import DataPortal.Text.Utf8
/-!
# Percent encoding of a query component

A character that could be taken for structure is written as the bytes of its UTF-8
form, each as `%` and two upper-case hexadecimal digits. Letters and digits of
ASCII and a few marks stand for themselves.
-/
namespace DataPortal.Text.Percent

/-- The characters that stand for themselves: ASCII letters and digits and
`_ . - ~ ! * ' ( )`. -/
def isUnreserved (c : Char) : Bool :=
  ('a' ≤ c && c ≤ 'z') || ('A' ≤ c && c ≤ 'Z') || ('0' ≤ c && c ≤ '9') ||
    ['_', '.', '-', '~', '!', '*', '\'', '(', ')'].contains c

/-- The upper-case hexadecimal digit of a value below sixteen. -/
def hexDigit (n : Nat) : Char :=
  if n < 10 then Char.ofNat (48 + n) else Char.ofNat (55 + n)

/-- The value of a hexadecimal digit of either case. -/
def hexValue? (c : Char) : Option Nat :=
  if '0' ≤ c ∧ c ≤ '9' then some (c.toNat - 48)
  else if 'A' ≤ c ∧ c ≤ 'F' then some (c.toNat - 55)
  else if 'a' ≤ c ∧ c ≤ 'f' then some (c.toNat - 87)
  else none

/-- A byte as `%` and two digits. -/
def escapeByte (b : UInt8) : List Char :=
  ['%', hexDigit (b.toNat / 16), hexDigit (b.toNat % 16)]

/-- One character as it stands in a component. -/
def encodeChar (c : Char) : List Char :=
  if isUnreserved c then [c] else (String.utf8EncodeChar c).flatMap escapeByte

/-- A text as it stands in a component. -/
def encode (s : List Char) : List Char :=
  s.flatMap encodeChar

/-- The bytes that a component denotes: an escape its byte, any other character
its UTF-8 form. A `%` that starts no escape is refused. -/
def bytes? : List Char → Option (List UInt8)
  | [] => some []
  | '%' :: a :: b :: rest => do
    let high ← hexValue? a
    let low ← hexValue? b
    (bytes? rest).map (UInt8.ofNat (16 * high + low) :: ·)
  | c :: rest =>
    if c = '%' then none else (bytes? rest).map (String.utf8EncodeChar c ++ ·)

/-- The text that a component denotes. -/
def decode? (s : List Char) : Option (List Char) :=
  (bytes? s).bind Utf8.decode?

end DataPortal.Text.Percent
