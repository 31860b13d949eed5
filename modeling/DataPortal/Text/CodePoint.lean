import DataPortal.Text.Blank
/-!
# Texts that may be broken

A service may send surrogates that have no partner, by escapes or as bytes. They stand for no
character, but what reads them keeps them. So a text of the service is one of characters, or it is
broken and known by its code points.
-/
namespace DataPortal

/-- A character, or a surrogate, which stands for none. -/
inductive CodePoint where
  | char (c : Char)
  | surrogate (k : Fin 0x800)
  deriving DecidableEq, Repr

namespace CodePoint

/-- The code point with a number. -/
def ofNat (n : Nat) : CodePoint :=
  if h : 0xD800 ≤ n ∧ n < 0xE000 then .surrogate ⟨n - 0xD800, by omega⟩
  else .char (Char.ofNat n)

/-- The number of a code point. -/
def toNat : CodePoint → Nat
  | .char c => c.toNat
  | .surrogate k => 0xD800 + k

theorem ofNat_toNat (c : Char) : ofNat c.toNat = .char c := by
  have hvalid : c.toNat < 0xD800 ∨ 0xDFFF < c.toNat ∧ c.toNat < 0x110000 := c.valid
  rw [ofNat, dif_neg (by omega), Char.ofNat_toNat]

/-- A surrogate. -/
def isSurrogate : CodePoint → Bool
  | .char _ => false
  | .surrogate _ => true

/-- The character that two halves of a pair of surrogates, given by their numbers, stand for. -/
def joined? (high low : Nat) : Option CodePoint :=
  if (0xD800 ≤ high ∧ high < 0xDC00) ∧ 0xDC00 ≤ low ∧ low < 0xE000 then
    some (.char (Char.ofNat (0x10000 + 0x400 * (high - 0xD800) + (low - 0xDC00))))
  else none

/-- White space; no surrogate is any. -/
def isBlank : CodePoint → Bool
  | .char c => Text.isBlank c
  | .surrogate _ => false

/-- The character that is shown for a code point. -/
def shown : CodePoint → Char
  | .char c => c
  | .surrogate _ => Char.ofNat 0xFFFD

end CodePoint

/-- The code points of a text with a surrogate in it. -/
structure BrokenText where
  points : List CodePoint
  broken : points.any CodePoint.isSurrogate = true
  deriving DecidableEq, Repr

namespace BrokenText

/-- What is shown of a broken text where only characters can stand. -/
def shown (t : BrokenText) : List Char :=
  t.points.map CodePoint.shown

/-- The numbers of its code points. -/
def numbers (t : BrokenText) : List Nat :=
  t.points.map CodePoint.toNat

end BrokenText

/-- A text as a service may send it. -/
inductive LooseText where
  | sound (s : String)
  | broken (t : BrokenText)
  deriving DecidableEq, Repr

instance : Coe String LooseText := ⟨.sound⟩

namespace LooseText

/-- What is shown of a text where only characters can stand. -/
def shown : LooseText → String
  | .sound s => s
  | .broken t => String.ofList t.shown

/-- The text of some code points. -/
def ofPoints (points : List CodePoint) : LooseText :=
  if h : points.any CodePoint.isSurrogate = true then .broken ⟨points, h⟩
  else .sound (String.ofList (points.map CodePoint.shown))

/-- A text with another one in front of it. -/
def after (start : String) : LooseText → LooseText
  | .sound s => .sound (start ++ s)
  | .broken t =>
    .broken ⟨start.toList.map .char ++ t.points, by rw [List.any_append, t.broken, Bool.or_true]⟩

end LooseText
end DataPortal
