import DataPortal.Text.Utf8
/-!
# The encoding of a byte sequence

A text of mostly ASCII characters shows its encoding in its first bytes: by a byte
order mark, or by where the zero bytes of its first characters stand. Without such
a sign it is UTF-8.
-/
namespace DataPortal.Text

/-- The order of the bytes of one unit. -/
inductive ByteOrder where
  | bigEndian
  | littleEndian
  deriving DecidableEq, Repr

/-- How a text is stored as bytes. -/
inductive Encoding where
  | utf8
  | utf16 (order : ByteOrder)
  | utf32 (order : ByteOrder)
  deriving DecidableEq, Repr

namespace Encoding

/-- The encoding that the first bytes show, and the bytes without their byte order mark. -/
def detect : List UInt8 → Encoding × List UInt8
  | 0x00 :: 0x00 :: 0xFE :: 0xFF :: rest => (.utf32 .bigEndian, rest)
  | 0xFF :: 0xFE :: 0x00 :: 0x00 :: rest => (.utf32 .littleEndian, rest)
  | 0xFE :: 0xFF :: rest => (.utf16 .bigEndian, rest)
  | 0xFF :: 0xFE :: rest => (.utf16 .littleEndian, rest)
  | 0xEF :: 0xBB :: 0xBF :: rest => (.utf8, rest)
  | bytes@(a :: b :: c :: d :: _) =>
    if a = 0 then (if b = 0 then .utf32 .bigEndian else .utf16 .bigEndian, bytes)
    else if b = 0 then
      (if c = 0 ∧ d = 0 then .utf32 .littleEndian else .utf16 .littleEndian, bytes)
    else (.utf8, bytes)
  | [a, b] =>
    if a = 0 then (.utf16 .bigEndian, [a, b])
    else if b = 0 then (.utf16 .littleEndian, [a, b])
    else (.utf8, [a, b])
  | bytes => (.utf8, bytes)

/-- The two-byte units of a byte sequence of even length. -/
def units16? (order : ByteOrder) : List UInt8 → Option (List Nat)
  | [] => some []
  | a :: b :: rest =>
    let unit := match order with
      | .bigEndian => 256 * a.toNat + b.toNat
      | .littleEndian => 256 * b.toNat + a.toNat
    (units16? order rest).map (unit :: ·)
  | [_] => none

/-- The text of a sequence of two-byte units; a surrogate without its partner stays one. -/
def decode16 : List Nat → List CodePoint
  | [] => []
  | [unit] => [.ofNat unit]
  | unit :: next :: rest =>
    match CodePoint.joined? unit next with
    | some c => c :: decode16 rest
    | none => .ofNat unit :: decode16 (next :: rest)

/-- The text of a sequence of four-byte characters. -/
def decode32? (order : ByteOrder) : List UInt8 → Option (List CodePoint)
  | [] => some []
  | a :: b :: c :: d :: rest =>
    let code := match order with
      | .bigEndian => ((256 * a.toNat + b.toNat) * 256 + c.toNat) * 256 + d.toNat
      | .littleEndian => ((256 * d.toNat + c.toNat) * 256 + b.toNat) * 256 + a.toNat
    if code < 0x110000 then (decode32? order rest).map (.ofNat code :: ·) else none
  | _ => none

/-- The text that bytes hold in the encoding that they show. Surrogates are let pass. -/
def decode? (bytes : List UInt8) : Option (List CodePoint) :=
  match detect bytes with
  | (.utf8, rest) => Utf8.decodePassing? rest
  | (.utf16 order, rest) => (units16? order rest).map decode16
  | (.utf32 order, rest) => decode32? order rest

end Encoding
end DataPortal.Text
