import DataPortal.Value.Key
import DataPortal.Yaml.Graph
import DataPortal.Yaml.Scalar
/-!
# Parts of values

What each node says by itself: the value of a scalar, or which other nodes a collection is made
of. Nodes are looked at level by level, each of them once, so a fault near the top is found
before one that lies deeper. A node that is never reached has no part.
-/
namespace DataPortal.Yaml

/-- What a node says by itself. -/
inductive Part where
  | value (v : Value)
  | list (items : List Nat)
  | pairs (items : List (Nat × Nat))
  | object (entries : List (Value × Nat))
  /-- Keys with where they come from. -/
  | keys (members : List (Value × Nat))

/-- How far a graph was looked at: the parts that are known by the numbers of their nodes, and
the collections that are still to be looked into, the last one first. -/
structure Survey where
  graph : Graph
  parts : Array (Option Part)
  waiting : List Nat

/-- A step of looking at a graph. -/
abbrev Look (α : Type) := StateT Survey (Except Failure) α

namespace Look

/-- The graph. -/
def graph : Look Graph := fun s =>
  .ok (s.graph, s)

/-- Fails with what cannot be a value. -/
def refuse {α : Type} : Look α := fun _ =>
  .error .notYaml

/-- The part of a node, if it is known. -/
def part? (i : Nat) : Look (Option Part) := fun s =>
  .ok ((s.parts[i]?).join, s)

/-- Notes the part of a node. -/
def note (i : Nat) (p : Part) : Look Unit := fun s =>
  .ok ((), { s with parts := s.parts.setIfInBounds i (some p) })

/-- Notes that a collection is to be looked into. -/
def await (i : Nat) : Look Unit := fun s =>
  .ok ((), { s with parts := s.parts.setIfInBounds i (some (.list [])), waiting := i :: s.waiting })

/-- The value of a node that is no collection. A timestamp has no default value. -/
def scalarAt (g : Graph) (i : Nat) : Except Failure Value :=
  match g.text? i with
  | some text =>
    if g.tag i = .timestamp ∧ g.isObject i then .error .wrongType
    else scalarValue (g.tag i) text
  | none => .error .notYaml

/-- Looks at a node. A node has one part, wherever it stands. -/
def meet (i : Nat) : Look Unit := do
  match ← part? i with
  | some _ => return ()
  | none =>
    let g ← graph
    if (g.tag i).isCollection then await i
    else
      let v ← StateT.lift (scalarAt g i)
      note i (.value v)

/-- Looks at a node that is a key, and so no collection. -/
def meetKey (i : Nat) : Look Value := do
  meet i
  match ← part? i with
  | some (.value v) => return v
  | _ => refuse

/-- Where a key comes from: its node, or the word for NaN, which has no node. -/
def origin (g : Graph) (key : Nat) : Nat :=
  if (g.text? key).any isNanWord then g.size else key

/-- Looks at the entries of an object, after it has taken over those of others. -/
def meetEntries (fuel i : Nat) : Look (List (Value × Nat) × List (Value × Nat)) := do
  let g ← StateT.lift ((← graph).takeOver fuel i [])
  modify fun s => { s with graph := g }
  let entries ← (g.entries i).mapM fun (key, value) => do
    let k ← meetKey key
    meet value
    return ((k, value), (k, origin g key))
  return entries.unzip

/-- The only entry of an object. -/
def onlyEntry (i : Nat) : Look (Nat × Nat) := do
  match (← graph).content i with
  | .object [entry] => return entry
  | _ => refuse

/-- Looks into a collection, which must be of the form that its tag says. -/
def enter (fuel i : Nat) : Look Unit := do
  let g ← graph
  match g.tag i, g.content i with
  | .list, .list items =>
    items.forM meet
    note i (.list items)
  | .pairs, .list items =>
    let pairs ← items.mapM fun item => do
      let (key, value) ← onlyEntry item
      meet key
      meet value
      return (key, value)
    note i (.pairs pairs)
  | .object, .object _ =>
    let (entries, _) ← meetEntries fuel i
    note i (.object entries)
  | .keys, .object _ =>
    let (_, members) ← meetEntries fuel i
    note i (.keys members)
  | _, _ => refuse

/-- Looks into the collections of one level after the other. -/
def levels (fuel : Nat) : Nat → Look Unit
  | 0 => return ()
  | depth + 1 => do
    let level := (← get).waiting.reverse
    if level.isEmpty then return ()
    else
      modify fun s => { s with waiting := [] }
      level.forM (enter fuel)
      levels fuel depth

end Look

/-- The parts of a graph that are reached from a node. -/
def partsOf (g : Graph) (root : Nat) : Except Failure (Array (Option Part)) := do
  let look := do
    Look.meet root
    Look.levels (g.entryCount + 2) (g.size + 1)
  let (_, s) ← look.run ⟨g, Array.replicate g.size none, []⟩
  return s.parts

/-! ## Whole values -/

/-- Whether two keys with where they come from are one. A NaN is one with a NaN of the same
origin only. -/
def isSameKey (k k' : Value × Nat) : Bool :=
  k.1.sameKey k'.1 ||
    ((k.1 matches .float .nan) && (k'.1 matches .float .nan) && k.2 == k'.2)

/-- Keys without those that are there before. -/
def distinct (keys : List (Value × Nat)) : List Value :=
  (keys.foldl (fun known k => if known.any (isSameKey k) then known else known ++ [k]) []).map
    Prod.fst

/-- The value of a part, when the values of the nodes inside it are known. -/
def Part.whole (at_ : Nat → Value) : Part → Value
  | .value v => v
  | .list items => .list (items.map at_)
  | .pairs items => .list (items.map fun (k, v) => .tuple [at_ k, at_ v])
  | .object entries => Value.object (entries.map fun (k, v) => (k, at_ v))
  | .keys members => .set (distinct members)

/-- The values of parts, found from the last node to the first, after which other nodes mostly
stand. What is not known yet is taken from the values found before. -/
def wholeParts (parts : Array (Option Part)) (known : Array Value) : Array Value :=
  (List.range parts.size).foldr (fun i values =>
    match (parts[i]?).join with
    | some p => values.setIfInBounds i (p.whole (values.getD · .unknown))
    | none => values) known

/-- The nodes inside a part. -/
def Part.nodes : Part → List Nat
  | .value _ | .keys _ => []
  | .list items => items
  | .pairs items => items.flatMap fun (k, v) => [k, v]
  | .object entries => entries.map Prod.snd

/-- How many nodes have nodes inside that stand before them. -/
def backwardCount (parts : Array (Option Part)) : Nat :=
  (List.range parts.size).countP fun i =>
    ((parts[i]?).join).any fun p => p.nodes.any (· ≤ i)

/-- The values of parts. They are found once more for each node that has others inside which
stand before it, so every node that is not inside itself is found. Where a node stands inside
itself its value has no end; it is unknown then from some depth on. -/
def valuesOf (parts : Array (Option Part)) : Array Value :=
  (List.replicate (backwardCount parts + 4) ()).foldl (fun values _ => wholeParts parts values)
    (Array.replicate parts.size .unknown)

end DataPortal.Yaml
