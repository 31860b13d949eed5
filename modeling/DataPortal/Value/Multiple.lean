import DataPortal.Value.Order
/-!
# Multiples of values

A number times a quantity is their product; a text or a list times a whole number is so many
copies of it in a row. Such a row may be compared with a value without being made.
-/
namespace DataPortal.Value

/-- The greatest length of a row of copies that is compared, and of one that is made. -/
def greatestLength : Nat := 2 ^ 40

/-- The number of items that a value has in a row. -/
def rowLength : Value → Nat
  | .str s => s.length
  | .broken t => t.points.length
  | .list items | .tuple items => items.length
  | _ => 0

/-- Whether a row of copies cannot be. A text of too many characters is out of range; other
rows are too long to be held. -/
def rowFault? (isText : Bool) (length : Nat) (n : Nat) : Option Failure :=
  if 2 ^ 63 ≤ n ∨ (isText ∧ 2 ^ 63 ≤ n * length) then some .overflow
  else if greatestLength < n * length then some .outOfMemory
  else none

/-- The first items of a row of copies, `most` of them if there are so many. -/
def copies {α : Type} (most : Nat) (items : List α) (n : Nat) : List α :=
  if items.isEmpty then []
  else (List.replicate (min n (most / items.length + 1)) items).flatten.take most

/-- The first items of a row of copies, if the row can be. -/
def row {α : Type} (isText : Bool) (most : Nat) (items : List α) (n : Nat) :
    Except Failure (List α) :=
  match rowFault? isText items.length n with
  | some f => .error f
  | none => .ok (copies most items n)

/-- A value times a quantity. Of a row of copies only the first items are made. -/
def timesUpTo (most : Nat) (v : Value) (q : Quantity) : Except Failure Value :=
  match v, q with
  | .str s, .whole n => (row true most s.toList n.toNat).map fun s => .str (String.ofList s)
  | .broken t, .whole n => (row true most t.points n.toNat).map ofPoints
  | .list items, .whole n => (row false most items n.toNat).map .list
  | .tuple items, .whole n => (row false most items n.toNat).map .tuple
  | v, q => do
    let x ← Quantity.ofValue v
    let y ← x.mul q
    return y.toValue

/-- The lesser one of a value times a quantity and a bound, and the multiple where neither is
less. Whether a row comes after the bound shows in one item more than the bound has. -/
def timesAtMost (v : Value) (q : Quantity) (bound : Value) : Except Failure Value := do
  let shown ← v.timesUpTo (bound.rowLength + 1) q
  if ← bound.isLess shown then return bound
  else v.timesUpTo greatestLength q

end DataPortal.Value
