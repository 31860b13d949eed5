/-!
# Base64

Three bytes make four characters of an alphabet of sixty-four; `=` fills the last
group of four.
-/
namespace DataPortal.Text.Base64

/-- The character of a value below sixty-four. -/
def symbol (n : Nat) : Char :=
  if n < 26 then Char.ofNat (65 + n)
  else if n < 52 then Char.ofNat (71 + n)
  else if n < 62 then Char.ofNat (n - 4)
  else if n = 62 then '+'
  else '/'

/-- The characters of a byte sequence. -/
def encode : List UInt8 → List Char
  | a :: b :: c :: rest =>
    let n := 65536 * a.toNat + 256 * b.toNat + c.toNat
    symbol (n / 262144) :: symbol (n / 4096 % 64) :: symbol (n / 64 % 64) :: symbol (n % 64) ::
      encode rest
  | [a, b] =>
    let n := 1024 * a.toNat + 4 * b.toNat
    [symbol (n / 4096), symbol (n / 64 % 64), symbol (n % 64), '=']
  | [a] =>
    let n := 16 * a.toNat
    [symbol (n / 64), symbol (n % 64), '=', '=']
  | [] => []

/-- The value of a character. -/
def value? (c : Char) : Option Nat :=
  if 'A' ≤ c ∧ c ≤ 'Z' then some (c.toNat - 65)
  else if 'a' ≤ c ∧ c ≤ 'z' then some (c.toNat - 71)
  else if '0' ≤ c ∧ c ≤ '9' then some (c.toNat + 4)
  else if c = '+' then some 62
  else if c = '/' then some 63
  else none

/-- The values of the characters of a text up to where it ends or is filled up, and whether it is
filled up. Signs that have no value do not count, nor does a `=` that fills nothing up; `place`
is the place in a group of four, `pads` the number of `=` just before. -/
def values : (place pads : Nat) → List Char → List Nat × Bool
  | _, _, [] => ([], false)
  | place, pads, c :: rest =>
    if c = '=' then
      if 2 ≤ place then if 4 ≤ place + pads + 1 then ([], true) else values place (pads + 1) rest
      else values place pads rest
    else
      match value? c with
      | some v =>
        let (vs, filled) := values ((place + 1) % 4) 0 rest
        (v :: vs, filled)
      | none => values place pads rest

/-- The bytes of groups of values. In a last group that is not full the bits that make no byte
are dropped. -/
def bytesOf : List Nat → List UInt8
  | a :: b :: c :: d :: rest =>
    UInt8.ofNat (4 * a + b / 16) :: UInt8.ofNat (b % 16 * 16 + c / 4) ::
      UInt8.ofNat (c % 4 * 64 + d) :: bytesOf rest
  | [a, b, c] => [UInt8.ofNat (4 * a + b / 16), UInt8.ofNat (b % 16 * 16 + c / 4)]
  | [a, b] => [UInt8.ofNat (4 * a + b / 16)]
  | _ => []

/-- The bytes that a text of ASCII characters denotes. Its last group must be full or filled up,
and more than one character. -/
def decode? (s : List Char) : Option (List UInt8) :=
  if s.all (fun c => c.toNat < 128) then
    let (vs, filled) := values 0 0 s
    if filled || vs.length % 4 = 0 then some (bytesOf vs) else none
  else none

end DataPortal.Text.Base64
