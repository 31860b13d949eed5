import DataPortal.Text.CodePoint
/-!
# UTF-8

Bytes are read one at a time. Between two bytes the reader either stands between
characters or inside one, and then knows how many bytes are still owed and which
values the next one may have. A byte that may not follow ends the unfinished
character as undecodable and is read again as the start of another, so that each
maximal undecodable run counts once.

`Utf8.decode?` refuses a text with an undecodable run; `Utf8.decodeLossy` puts the
replacement character there. `Utf8.decodePassing?` refuses it too, but lets surrogates pass, which
have three bytes that encode nothing to the others.
-/
namespace DataPortal.Text.Utf8

/-- The bytes of a text. -/
def encode (s : List Char) : List UInt8 :=
  s.flatMap String.utf8EncodeChar

/-- An unfinished character: the bytes owed after the next one, the least and the
greatest value of the next byte, and the bits read so far. -/
structure Pending where
  owed : Nat
  low : Nat
  high : Nat
  bits : Nat

/-- What reading a byte settles: the numbers of the characters that end there, an undecodable
run as `none`, and the character that stays unfinished. -/
abbrev Step := List (Option Nat) × Option Pending

/-- A byte read between characters. Surrogates come after `0xED`. -/
def first (passing : Bool) (b : Nat) : Step :=
  if b ≤ 0x7F then ([some b], none)
  else if 0xC2 ≤ b ∧ b ≤ 0xDF then ([], some ⟨0, 0x80, 0xBF, b - 0xC0⟩)
  else if b = 0xE0 then ([], some ⟨1, 0xA0, 0xBF, 0⟩)
  else if b = 0xED then ([], some ⟨1, 0x80, if passing then 0xBF else 0x9F, 0xD⟩)
  else if 0xE1 ≤ b ∧ b ≤ 0xEF then ([], some ⟨1, 0x80, 0xBF, b - 0xE0⟩)
  else if b = 0xF0 then ([], some ⟨2, 0x90, 0xBF, 0⟩)
  else if 0xF1 ≤ b ∧ b ≤ 0xF3 then ([], some ⟨2, 0x80, 0xBF, b - 0xF0⟩)
  else if b = 0xF4 then ([], some ⟨2, 0x80, 0x8F, 4⟩)
  else ([none], none)

/-- A byte read inside a character. -/
def Pending.next (passing : Bool) (p : Pending) (b : Nat) : Step :=
  if p.low ≤ b ∧ b ≤ p.high then
    let bits := 64 * p.bits + (b - 0x80)
    match p.owed with
    | 0 => ([some bits], none)
    | owed + 1 => ([], some ⟨owed, 0x80, 0xBF, bits⟩)
  else
    (none :: (first passing b).1, (first passing b).2)

/-- The numbers of the characters of a byte sequence, with `none` for each undecodable run.
Surrogates may be let pass. -/
def scan (passing : Bool) : Option Pending → List UInt8 → List (Option Nat)
  | none, [] => []
  | some _, [] => [none]
  | pending, b :: rest =>
    let step := match pending with
      | none => first passing b.toNat
      | some p => p.next passing b.toNat
    step.1 ++ scan passing step.2 rest

/-- The text that the bytes encode, if all of them decode. -/
def decode? (bytes : List UInt8) : Option (List Char) :=
  ((scan false none bytes).mapM id).map (·.map Char.ofNat)

/-- The text that the bytes encode, with a replacement character for each
undecodable run. -/
def decodeLossy (bytes : List UInt8) : List Char :=
  (scan false none bytes).map (fun n => Char.ofNat (n.getD 0xFFFD))

/-- The text that the bytes encode, surrogates included, if all of them decode. -/
def decodePassing? (bytes : List UInt8) : Option (List CodePoint) :=
  ((scan true none bytes).mapM id).map (·.map CodePoint.ofNat)

end DataPortal.Text.Utf8
