import DataPortal.Number.Amount
import DataPortal.Value.Basic
/-!
# Keys of objects

An object holds a key once. Keys are compared as values: numbers of all kinds by their
amount, points in time on known clocks by their instant. A repeated key keeps its first
place and its first form, and takes the last value.
-/
namespace DataPortal.Value

/-- The amount of a number of any kind. A NaN has none. -/
def amount? : Value → Option Amount
  | .bool b => some (.ofInt (if b then 1 else 0))
  | .int n => some (.ofInt n)
  | .float x => Amount.ofBinary64? x
  | .decimal d => Amount.ofDecimal? d
  | _ => none

/-- Equal as points in time. A time on an unknown clock equals no time on a known one. -/
def sameTime (s t : DateTime) : Bool :=
  s.offset.isSome == t.offset.isSome && s.instant == t.instant

mutual

/-- Equal as keys. -/
def sameKey : Value → Value → Bool
  | .null, .null => true
  | .str s, .str t => s == t
  | .broken s, .broken t => s == t
  | .bytes s, .bytes t => s == t
  | .date s, .date t => s == t
  | .datetime s, .datetime t => sameTime s t
  | .tuple xs, .tuple ys => sameKeys xs ys
  | .list xs, .list ys => sameKeys xs ys
  | x, y =>
    match x.amount?, y.amount? with
    | some a, some b => a.order b == .eq
    | _, _ => false

/-- Equal as keys, item by item. -/
def sameKeys : List Value → List Value → Bool
  | [], [] => true
  | x :: xs, y :: ys => sameKey x y && sameKeys xs ys
  | _, _ => false

end

mutual

/-- A value that can be a key: one that has no list, object or set inside, and no signaling
NaN. -/
def canBeKey : Value → Bool
  | .list _ | .dict _ | .set _ => false
  | .decimal (.nan _ signaling _) => !signaling
  | .tuple items => allCanBeKeys items
  | _ => true

/-- Values that can be keys. -/
def allCanBeKeys : List Value → Bool
  | [] => true
  | v :: rest => canBeKey v && allCanBeKeys rest

end

/-- The entries with a value put under a key. -/
def insert (key value : Value) : List (Value × Value) → List (Value × Value)
  | [] => [(key, value)]
  | (k, v) :: rest =>
    if sameKey k key then (k, value) :: rest else (k, v) :: insert key value rest

/-- The entries of a sequence of keys and values in which keys may repeat. -/
def entriesOf (pairs : List (Value × Value)) : List (Value × Value) :=
  pairs.foldl (fun entries pair => insert pair.1 pair.2 entries) []

/-- The object of a sequence of keys and values in which keys may repeat. -/
def object (pairs : List (Value × Value)) : Value :=
  .dict (entriesOf pairs)

end DataPortal.Value
