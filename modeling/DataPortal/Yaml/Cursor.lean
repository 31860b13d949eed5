/-!
# A place in a YAML text

The text that is left, with the line and the column where it begins. Columns decide
how blocks nest, lines decide how far a key can reach.
-/
namespace DataPortal.Yaml

/-- A character that ends a line. -/
def isBreak (c : Char) : Bool :=
  c == '\n' || c == '\r' || c.toNat == 0x85 || c.toNat == 0x2028 || c.toNat == 0x2029

/-- A character that separates: a space, a tab or the end of a line. -/
def isSeparator (c : Char) : Bool :=
  c == ' ' || c == '\t' || isBreak c

/-- Whether a text is at its end or goes on with a separator. -/
def isSeparated (s : List Char) : Bool :=
  s.head?.all isSeparator

/-- A character that may stand in a text at all. -/
def isAllowed (c : Char) : Bool :=
  let n := c.toNat
  n == 0x09 || n == 0x0A || n == 0x0D || (0x20 ≤ n && n ≤ 0x7E) || n == 0x85 ||
    (0xA0 ≤ n && n ≤ 0xD7FF) || (0xE000 ≤ n && n ≤ 0xFFFD) || (0x10000 ≤ n && n ≤ 0x10FFFF)

/-- A place in a text. -/
structure Cursor where
  rest : List Char
  index : Nat
  line : Nat
  column : Nat

namespace Cursor

/-- The start of a text. -/
def start (s : List Char) : Cursor :=
  ⟨s, 0, 0, 0⟩

/-- The next character. -/
def next? (c : Cursor) : Option Char :=
  c.rest.head?

/-- Whether the next character is a given one. -/
def isAt (c : Cursor) (x : Char) : Bool :=
  c.next? == some x

/-- The place after one character. A carriage return before a line feed ends no line, and
a byte order mark takes no column. -/
def forward (c : Cursor) : Cursor :=
  match c.rest with
  | [] => c
  | x :: rest =>
    if isBreak x && !(x == '\r' && rest.head? == some '\n') then
      ⟨rest, c.index + 1, c.line + 1, 0⟩
    else if x.toNat == 0xFEFF then ⟨rest, c.index + 1, c.line, c.column⟩
    else ⟨rest, c.index + 1, c.line, c.column + 1⟩

/-- The place after several characters. -/
def forwardBy : Nat → Cursor → Cursor
  | 0, c => c
  | n + 1, c => forwardBy n c.forward

/-- The place after the characters of one class. -/
def skipWhile (p : Char → Bool) (c : Cursor) : Cursor :=
  forwardBy (c.rest.takeWhile p).length c

/-- The end of a line: the character that stands for it, and the place after it. -/
def lineBreak? (c : Cursor) : Option (Char × Cursor) :=
  match c.rest with
  | '\r' :: '\n' :: _ => some ('\n', c.forward.forward)
  | x :: _ =>
    if x.toNat == 0x2028 || x.toNat == 0x2029 then some (x, c.forward)
    else if isBreak x then some ('\n', c.forward)
    else none
  | [] => none

/-- Whether a mark of three equal characters stands here by itself. -/
def isAtMark (x : Char) (c : Cursor) : Bool :=
  match c.rest with
  | a :: b :: d :: rest => a == x && b == x && d == x && isSeparated rest
  | _ => false

/-- Whether a mark between documents stands here. -/
def isAtDocumentMark (c : Cursor) : Bool :=
  c.isAtMark '-' || c.isAtMark '.'

end Cursor
end DataPortal.Yaml
