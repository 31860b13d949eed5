import DataPortal.Failure.Basic
import DataPortal.Yaml.Tag
/-!
# The graph of a document

A document is a graph of nodes before values are read: a node that has a name may stand in
several places, even inside itself. Nodes are known by their numbers, in the order in which
they begin. An object may take over the entries of others.
-/
namespace DataPortal.Yaml

/-- What a node holds; the nodes inside it are given by their numbers. -/
inductive Content where
  | scalar (text : List Char)
  | list (items : List Nat)
  | object (entries : List (Nat × Nat))

/-- A part of a document. -/
structure Node where
  tag : Tag
  content : Content

/-- The nodes of a document. -/
structure Graph where
  nodes : Array Node

namespace Graph

/-- The graph without nodes. -/
def empty : Graph :=
  ⟨#[]⟩

/-- The number of nodes. -/
def size (g : Graph) : Nat :=
  g.nodes.size

/-- Adds a node; its number is the size of the graph before. -/
def add (n : Node) (g : Graph) : Graph :=
  ⟨g.nodes.push n⟩

/-- A node. -/
def node (g : Graph) (i : Nat) : Node :=
  g.nodes.getD i ⟨.null, .scalar []⟩

/-- What a node is taken for. -/
def tag (g : Graph) (i : Nat) : Tag :=
  (g.node i).tag

/-- What a node holds. -/
def content (g : Graph) (i : Nat) : Content :=
  (g.node i).content

/-- The graph with a node changed. -/
def update (i : Nat) (f : Node → Node) (g : Graph) : Graph :=
  ⟨g.nodes.modify i f⟩

/-- The entries of an object. -/
def entries (g : Graph) (i : Nat) : List (Nat × Nat) :=
  match g.content i with
  | .object entries => entries
  | _ => []

/-- The graph with other entries in an object. -/
def withEntries (i : Nat) (entries : List (Nat × Nat)) (g : Graph) : Graph :=
  g.update i fun n => { n with content := .object entries }

/-- Whether a node holds entries. -/
def isObject (g : Graph) (i : Nat) : Bool :=
  g.content i matches .object _

/-- The number of entries of all objects. -/
def entryCount (g : Graph) : Nat :=
  g.nodes.foldl (fun count n => match n.content with
    | .object entries => count + entries.length
    | _ => count) 0

/-! ## Texts -/

/-- The text of a scalar. An object has the text of its default value, if it has one. -/
def textAt (g : Graph) : Nat → Nat → Option (List Char)
  | 0, _ => none
  | fuel + 1, i =>
    match g.content i with
    | .scalar text => some text
    | .list _ => none
    | .object entries =>
      (entries.find? fun (key, _) => g.tag key = .default).bind fun (_, value) =>
        g.textAt fuel value

/-- The text of a node, if it has one. -/
def text? (g : Graph) (i : Nat) : Option (List Char) :=
  g.textAt (g.size + 1) i

/-! ## Entries that are taken over -/

/-- The first value of an object whose entries are to be taken over, and the graph without
the entry that says so. -/
def takeMerge? (g : Graph) (i : Nat) : Option (Nat × Graph) :=
  let merges := fun (entry : Nat × Nat) => decide (g.tag entry.1 = .merge)
  let entries := g.entries i
  (entries.find? merges).map fun (_, value) => (value, g.withEntries i (entries.eraseP merges))

/-- The graph in which the signs of default values among the keys of an object are texts. -/
def readKeys (g : Graph) (i : Nat) : Graph :=
  (g.entries i).foldl
    (fun g (key, _) => if g.tag key = .default then g.update key ({ · with tag := .text }) else g) g

/-- The objects whose entries a value offers: itself, or the items of a list. -/
def sources (g : Graph) (value : Nat) : Except Failure (List Nat) :=
  match g.content value with
  | .object _ => .ok [value]
  | .list items => if items.all g.isObject then .ok items else .error .notYaml
  | .scalar _ => .error .notYaml

/-- The graph in which an object has the entries that it takes over before its own. What comes
later among the entries wins, so a list offers the entries of its last object first, and an
object offers those that it took over itself. Each step removes an entry that says what to
take over, so there are at most as many as there are entries. -/
def takeOver : Nat → Graph → Nat → List (Nat × Nat) → Except Failure Graph
  | 0, _, _, _ => .error .notYaml
  | fuel + 1, g, i, taken =>
    match g.takeMerge? i with
    | none =>
      let g := g.readKeys i
      .ok (if taken.isEmpty then g else g.withEntries i (taken ++ g.entries i))
    | some (value, g) => do
      let sources ← g.sources value
      let (g, offered) ← sources.foldlM (fun (g, offered) source => do
        let g ← takeOver fuel g source []
        return (g, g.entries source ++ offered)) (g, [])
      takeOver fuel g i (taken ++ offered)

end Graph
end DataPortal.Yaml
