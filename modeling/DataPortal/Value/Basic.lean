import DataPortal.Calendar.DateTime
import DataPortal.Number.Binary64
import DataPortal.Number.Decimal
import DataPortal.Text.CodePoint
/-!
# Values

The data that passes through the library: what records hold, what filters compare
with, and what a configuration says. JSON data has only some of these forms; filters
also compare with dates, decimal numbers and tuples, and a configuration may hold bytes and sets.
-/
namespace DataPortal

/-- A value. The entries of an object keep their order, and their keys may be values
of any form; a value of an unknown form has nothing that can be said about it. -/
inductive Value where
  | null
  | bool (b : Bool)
  | int (n : Int)
  | float (x : Binary64)
  | decimal (d : Decimal)
  | str (s : String)
  /-- A text with surrogates that stand for no character. -/
  | broken (t : BrokenText)
  | date (d : Date)
  | datetime (t : DateTime)
  | list (items : List Value)
  | tuple (items : List Value)
  | dict (entries : List (Value × Value))
  | bytes (content : List UInt8)
  /-- Values without an order, none of them twice. -/
  | set (members : List Value)
  | unknown
  deriving Repr

instance : Inhabited Value := ⟨.null⟩

namespace Value

/-- A value that stands for something: not null, false, zero or empty. -/
def isTruthy : Value → Bool
  | .null => false
  | .bool b => b
  | .int n => n != 0
  | .float x => x.value? != some 0
  | .decimal d => !d.isZero
  | .str s => s != ""
  | .list items | .tuple items => !items.isEmpty
  | .dict entries => !entries.isEmpty
  | .bytes content => !content.isEmpty
  | .set members => !members.isEmpty
  | .broken _ | .date _ | .datetime _ | .unknown => true

/-- A text of characters as a value of one character each. -/
def ofChar (c : Char) : Value :=
  .str (String.ofList [c])

/-! ## Texts -/

/-- A text as a value. -/
def ofText : LooseText → Value
  | .sound s => .str s
  | .broken t => .broken t

/-- The text that a value is, if it is one. -/
def text? : Value → Option LooseText
  | .str s => some (.sound s)
  | .broken t => some (.broken t)
  | _ => none

/-- The text of some code points as a value. -/
def ofPoints (points : List CodePoint) : Value :=
  ofText (.ofPoints points)

mutual

/-- A value in which no text is broken, as far as lists and objects show what they hold. -/
def isEncodable : Value → Bool
  | .broken _ => false
  | .list items | .tuple items => allEncodable items
  | .dict entries => entriesEncodable entries
  | _ => true

/-- Values in which no text is broken. -/
def allEncodable : List Value → Bool
  | [] => true
  | v :: rest => isEncodable v && allEncodable rest

/-- Entries in which no text is broken. -/
def entriesEncodable : List (Value × Value) → Bool
  | [] => true
  | (k, v) :: rest => isEncodable k && isEncodable v && entriesEncodable rest

end

/-! ## Elements -/

/-- What a walk over a value meets: the items of a list, a tuple or a set, the keys of an
object, the characters of a text, the numbers of bytes. Other values cannot be walked over. -/
def elements? : Value → Option (List Value)
  | .list items | .tuple items | .set items => some items
  | .bytes content => some (content.map fun b => .int b.toNat)
  | .dict entries => some (entries.map Prod.fst)
  | .str s => some (s.toList.map ofChar)
  | .broken t => some (t.points.map fun p => ofPoints [p])
  | _ => none

/-! ## Entries under text keys -/

/-- Whether a key is a given text. -/
def isKey (name : String) : Value → Bool
  | .str s => s == name
  | _ => false

/-- The value under a text key. -/
def lookup (name : String) (entries : List (Value × Value)) : Option Value :=
  (entries.find? (fun entry => isKey name entry.1)).map Prod.snd

/-- The value under a text key of an object; null where there is none. -/
def entry (name : String) (entries : List (Value × Value)) : Value :=
  (lookup name entries).getD .null

@[simp] theorem lookup_nil (name : String) : lookup name [] = none := rfl

theorem lookup_cons_self (name : String) (v : Value) (rest : List (Value × Value)) :
    lookup name ((.str name, v) :: rest) = some v := by
  simp [lookup, isKey]

theorem lookup_cons_ne {name other : String} (h : other ≠ name) (v : Value)
    (rest : List (Value × Value)) :
    lookup name ((.str other, v) :: rest) = lookup name rest := by
  simp [lookup, isKey, h]

end Value
end DataPortal
