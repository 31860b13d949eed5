import DataPortal.Value.Key
import DataPortal.Value.Quantity
/-!
# The order of values

Numbers are in the order of their amounts, texts in that of their characters, dates and points
in time in that of time, lists in that of the first items in which they differ. Values of
different kinds are in no order, nor are objects.
-/
namespace DataPortal.Value

/-! ## Equality -/

/-- Equal as numbers. A signaling NaN cannot be asked. -/
def equalQuantities (v w : Value) : Except Failure Bool :=
  match Quantity.ofValue? v, Quantity.ofValue? w with
  | some x, some y =>
    if x.isSignaling || y.isSignaling then .error .undefinedDecimal else .ok (sameKey v w)
  | _, _ => .ok (sameKey v w)

mutual

/-- Whether two values are equal. Objects are equal that have equal values under the same
keys. -/
def equals : Value → Value → Except Failure Bool
  | .list xs, .list ys => if xs.length = ys.length then equalItems xs ys else .ok false
  | .tuple xs, .tuple ys => equalItems xs ys
  | .dict xs, .dict ys => if xs.length = ys.length then equalEntries xs ys else .ok false
  | v, w => equalQuantities v w

/-- Whether lists have equal items. -/
def equalItems : List Value → List Value → Except Failure Bool
  | x :: xs, y :: ys => do
    if ← equals x y then equalItems xs ys else return false
  | [], [] => .ok true
  | _, _ => .ok false

/-- Whether entries are found among others. -/
def equalEntries : List (Value × Value) → List (Value × Value) → Except Failure Bool
  | [], _ => .ok true
  | (key, x) :: rest, entries =>
    match entries.find? (fun entry => sameKey entry.1 key) with
    | some (_, y) => do
      if ← equals x y then equalEntries rest entries else return false
    | none => .ok false

end

/-! ## Order -/

/-- Whether a point in time comes before another one. That cannot be told where only one of
the two clocks is known. -/
def isEarlier (s t : DateTime) : Except Failure Bool :=
  if s.offset.isSome == t.offset.isSome then .ok (decide (s.instant < t.instant))
  else .error .wrongType

mutual

/-- Whether a value comes before another one of its kind. -/
def isLess : Value → Value → Except Failure Bool
  | .str s, .str t => .ok (decide (s < t))
  | .broken s, .broken t => .ok (decide (s.numbers < t.numbers))
  | .str s, .broken t => .ok (decide (s.toList.map Char.toNat < t.numbers))
  | .broken s, .str t => .ok (decide (s.numbers < t.toList.map Char.toNat))
  | .date d, .date e => .ok (decide (d.dayNumber < e.dayNumber))
  | .datetime s, .datetime t => isEarlier s t
  | .list xs, .list ys => areLess xs ys
  | .tuple xs, .tuple ys => areLess xs ys
  | v, w => do
    let x ← Quantity.ofValue v
    let y ← Quantity.ofValue w
    x.isLess y

/-- Whether items come before others. Of two lists that differ in no item the shorter one
comes first. -/
def areLess : List Value → List Value → Except Failure Bool
  | x :: xs, y :: ys => do
    if ← equals x y then areLess xs ys else isLess x y
  | [], _ :: _ => .ok true
  | _, [] => .ok false

end

end DataPortal.Value
