import DataPortal.Yaml.Graph
import DataPortal.Yaml.Token
/-!
# Documents

The tokens of a text as the graph of its only document. A node may be given a name by an
anchor, and stands again where an alias has that name, even inside itself. What is left out
where a node may stand is null.
-/
namespace DataPortal.Yaml

/-- Where a node stands, which decides the tokens at which it is left out. -/
inductive Context where
  | blockList
  | indentless
  | blockObject
  | flowListKey
  | flowListValue
  | flowObjectKey
  | flowObjectValue
  deriving DecidableEq

/-- Whether a node is left out before a token. -/
def Context.leavesOut : Context → Token → Bool
  | .blockList, .blockEntry | .blockList, .blockEnd => true
  | .indentless, .blockEntry | .indentless, .key | .indentless, .value
  | .indentless, .blockEnd => true
  | .blockObject, .key | .blockObject, .value | .blockObject, .blockEnd => true
  | .flowListKey, .value | .flowListKey, .flowEntry | .flowListKey, .flowListEnd => true
  | .flowListValue, .flowEntry | .flowListValue, .flowListEnd => true
  | .flowObjectKey, .value | .flowObjectKey, .flowEntry | .flowObjectKey, .flowObjectEnd => true
  | .flowObjectValue, .flowEntry | .flowObjectValue, .flowObjectEnd => true
  | _, _ => false

/-- Whether blocks may stand in a context. -/
def Context.isBlock : Context → Bool
  | .blockList | .indentless | .blockObject => true
  | _ => false

/-- How far a document was read: the tokens that are left, the abbreviations for the names of
tags, the nodes so far, and those of them that have names. -/
structure Reading where
  tokens : List Token
  handles : List (List Char × List Char)
  graph : Graph
  anchors : List (List Char × Nat)

/-- A step of reading. -/
abbrev Read (α : Type) := StateT Reading (Except Failure) α

namespace Read

/-- The next token. Where none can be read, that is found when it is looked at. -/
def next? : Read (Option Token) := fun r =>
  match r.tokens with
  | .broken reason :: _ => .error reason
  | tokens => .ok (tokens.head?, r)

/-- Goes past the next token. -/
def skip : Read Unit := fun r =>
  .ok ((), { r with tokens := r.tokens.tail })

/-- Fails because no document goes on so. -/
def stuck {α : Type} : Read α := fun _ =>
  .error .notYaml

/-- Goes past the next token if it is one of some tokens; the answer says whether it was. -/
def accept (wanted : Token → Bool) : Read Bool := do
  if (← next?).any wanted then
    skip
    return true
  else return false

/-- Goes past the comma before an entry of a flow collection; the first one has none. -/
def separator (first : Bool) : Read Unit := do
  if first then return ()
  else if ← accept (· matches .flowEntry) then return ()
  else stuck

/-- The node that has a name. -/
def named (name : List Char) : Read Nat := fun r =>
  match r.anchors.lookup name with
  | some i => .ok (i, r)
  | none => .error .notYaml

/-- Gives a node a name, which must be new. -/
def giveName (name : List Char) (i : Nat) : Read Unit := fun r =>
  if (r.anchors.lookup name).isSome then .error .notYaml
  else .ok ((), { r with anchors := (name, i) :: r.anchors })

/-- Adds a node. -/
def addNode (tag : Tag) (content : Content) : Read Nat := fun r =>
  .ok (r.graph.size, { r with graph := r.graph.add ⟨tag, content⟩ })

/-- Adds a null that was left out. -/
def addNull : Read Nat :=
  addNode .null (.scalar [])

/-- Adds a node that may have a name. -/
def begin (anchor : Option (List Char)) (tag : Tag) (content : Content) : Read Nat := do
  let i ← addNode tag content
  match anchor with
  | some name => giveName name i
  | none => pure ()
  return i

/-- Puts into a node what was read after it had begun. -/
def fill (i : Nat) (content : Content) : Read Nat := fun r =>
  .ok (i, { r with graph := r.graph.update i ({ · with content := content }) })

/-- A list whose items are read after it has begun. -/
def listNode (anchor : Option (List Char)) (tag : Tag) (items : Read (List Nat)) : Read Nat := do
  let i ← begin anchor tag (.list [])
  let items ← items
  fill i (.list items)

/-- An object whose entries are read after it has begun. -/
def objectNode (anchor : Option (List Char)) (tag : Tag) (entries : Read (List (Nat × Nat))) :
    Read Nat := do
  let i ← begin anchor tag (.object [])
  let entries ← entries
  fill i (.object entries)

/-- The full name of a tag. -/
def fullName (name : TagName) : Read String := fun r =>
  match name.handle with
  | none => .ok (String.ofList name.suffix, r)
  | some handle =>
    match r.handles.lookup handle with
    | some full => .ok (String.ofList (full ++ name.suffix), r)
    | none => .error .notYaml

/-- The anchor at the next token, if there is one. -/
def anchor? : Read (Option (List Char)) := do
  match ← next? with
  | some (.anchor name) =>
    skip
    return some name
  | _ => return none

/-- The name of the tag at the next token, if there is one. -/
def tag? : Read (Option TagName) := do
  match ← next? with
  | some (.tag name) =>
    skip
    return some name
  | _ => return none

/-- The anchor and the tag before a node, in either order. -/
def properties : Read (Option (List Char) × Option String) := do
  let before ← anchor?
  let tag ← tag?
  let anchor ← if before.isSome || tag.isNone then pure before else anchor?
  match tag with
  | some name => return (anchor, some (← fullName name))
  | none => return (anchor, none)

/-- The tag of a node that has none written out, or one that says nothing. -/
def tagOr (usual : Tag) : Option String → Tag
  | none => usual
  | some name => if name = "!" then usual else Tag.ofName name

/-- The tag of a scalar. A text between quotes or in a block is a text, unless an exclamation
mark alone stands before it. -/
def scalarTag (written : Option String) (text : List Char) (plain : Bool) : Tag :=
  if plain || written.isSome then tagOr (Tag.ofForm text) written else .text

mutual

/-- A node with its anchor and its tag, or the node that an alias names. -/
def node : Nat → (block indentless : Bool) → Read Nat
  | 0, _, _ => stuck
  | fuel + 1, block, indentless => do
    match ← next? with
    | some (.alias name) =>
      skip
      named name
    | _ =>
      let (anchor, tag) ← properties
      content fuel block indentless anchor tag

/-- A node after its anchor and its tag. With one of those the rest may be left out. -/
def content : Nat → (block indentless : Bool) → Option (List Char) → Option String → Read Nat
  | 0, _, _, _, _ => stuck
  | fuel + 1, block, indentless, anchor, tag => do
    match ← next?, block, indentless with
    | some .blockEntry, _, true => listNode anchor (tagOr .list tag) (indentlessItems fuel)
    | some (.scalar text plain), _, _ =>
      skip
      begin anchor (scalarTag tag text plain) (.scalar text)
    | some .flowList, _, _ =>
      skip
      listNode anchor (tagOr .list tag) (flowItems fuel true)
    | some .flowObject, _, _ =>
      skip
      objectNode anchor (tagOr .object tag) (flowEntries fuel true)
    | some .blockList, true, _ =>
      skip
      listNode anchor (tagOr .list tag) (blockItems fuel)
    | some .blockObject, true, _ =>
      skip
      objectNode anchor (tagOr .object tag) (blockEntries fuel)
    | _, _, _ =>
      if anchor.isSome || tag.isSome then begin anchor (scalarTag tag [] true) (.scalar [])
      else stuck

/-- A node, or null where it is left out. -/
def nodeOrNull : Nat → Context → Read Nat
  | 0, _ => stuck
  | fuel + 1, context => do
    if (← next?).any context.leavesOut then addNull
    else node fuel context.isBlock (context == .blockObject)

/-- The entries of a block list and its end. -/
def blockItems : Nat → Read (List Nat)
  | 0 => stuck
  | fuel + 1 => do
    if ← accept (· matches .blockEntry) then
      let n ← nodeOrNull fuel .blockList
      return n :: (← blockItems fuel)
    else if ← accept (· matches .blockEnd) then return []
    else stuck

/-- The entries of a list that stands at the column of its key. -/
def indentlessItems : Nat → Read (List Nat)
  | 0 => stuck
  | fuel + 1 => do
    if ← accept (· matches .blockEntry) then
      let n ← nodeOrNull fuel .indentless
      return n :: (← indentlessItems fuel)
    else return []

/-- The entries of a block object and its end. -/
def blockEntries : Nat → Read (List (Nat × Nat))
  | 0 => stuck
  | fuel + 1 => do
    if ← accept (· matches .key) then
      let k ← nodeOrNull fuel .blockObject
      let v ← valueAfter fuel .blockObject
      return (k, v) :: (← blockEntries fuel)
    else if ← accept (· matches .blockEnd) then return []
    else stuck

/-- The value after a key, or null where there is none. -/
def valueAfter : Nat → Context → Read Nat
  | 0, _ => stuck
  | fuel + 1, context => do
    if ← accept (· matches .value) then nodeOrNull fuel context
    else
      let _ ← next?
      addNull

/-- The items of a flow list and its end. A key with a value is an object of one entry. -/
def flowItems : Nat → (first : Bool) → Read (List Nat)
  | 0, _ => stuck
  | fuel + 1, first => do
    if ← accept (· matches .flowListEnd) then return []
    else
      separator first
      if ← accept (· matches .flowListEnd) then return []
      else if ← accept (· matches .key) then
        let n ← objectNode none .object do
          let k ← nodeOrNull fuel .flowListKey
          let v ← valueAfter fuel .flowListValue
          return [(k, v)]
        return n :: (← flowItems fuel false)
      else
        let n ← node fuel false false
        return n :: (← flowItems fuel false)

/-- The entries of a flow object and its end. A key by itself has the value null. -/
def flowEntries : Nat → (first : Bool) → Read (List (Nat × Nat))
  | 0, _ => stuck
  | fuel + 1, first => do
    if ← accept (· matches .flowObjectEnd) then return []
    else
      separator first
      if ← accept (· matches .flowObjectEnd) then return []
      else if ← accept (· matches .key) then
        let k ← nodeOrNull fuel .flowObjectKey
        let v ← valueAfter fuel .flowObjectValue
        return (k, v) :: (← flowEntries fuel false)
      else
        let k ← node fuel false false
        let v ← addNull
        return (k, v) :: (← flowEntries fuel false)

end

/-! ## The document -/

/-- Declares an abbreviation, which must be new. -/
def declare (handle full : List Char) : Read Unit := fun r =>
  if (r.handles.lookup handle).isSome then .error .notYaml
  else .ok ((), { r with handles := (handle, full) :: r.handles })

/-- The directives before a document, and how many there were. There is at most one version,
and it must be 1. -/
def directives : Nat → (versioned : Bool) → Read Nat
  | 0, _ => stuck
  | fuel + 1, versioned => do
    match ← next? with
    | some (.directive (.version major)) =>
      skip
      if versioned || major != 1 then throw .notYaml
      return (← directives fuel true) + 1
    | some (.directive (.abbreviation handle full)) =>
      skip
      declare handle full
      return (← directives fuel versioned) + 1
    | some (.directive .unknown) =>
      skip
      return (← directives fuel versioned) + 1
    | _ => return 0

/-- The abbreviations that need no declaration, unless they are declared anew. -/
def addStandardHandles : Read Unit := fun r =>
  let standard := [(['!'], ['!']), (['!', '!'], Tag.namePrefix.toList)]
  .ok ((), { r with handles := r.handles ++ standard })

/-- The end of the only document: marks of its end, and nothing else. What comes after them is
looked at as the beginning of another document. -/
def ending : Nat → Read Unit
  | 0 => stuck
  | fuel + 1 => do
    if ← accept (· matches .documentEnd) then ending fuel
    else if (← next?).isNone then return ()
    else
      modify fun r => { r with handles := [] }
      let _ ← directives fuel false
      let _ ← next?
      stuck

/-- The node of the only document, and null where there is none. A document may be empty
after a mark of its start, which directives need. -/
def document (fuel : Nat) : Read Nat := do
  let directiveCount ← directives fuel false
  addStandardHandles
  if ← accept (· matches .documentStart) then
    match ← next? with
    | none | some .documentStart | some .documentEnd | some (.directive _) =>
      let n ← addNull
      ending fuel
      return n
    | _ =>
      let n ← node fuel true false
      ending fuel
      return n
  else if directiveCount != 0 then stuck
  else if (← next?).isNone then addNull
  else
    let n ← node fuel true false
    ending fuel
    return n

end Read

/-- A document: its graph and the number of its outermost node. -/
structure Document where
  graph : Graph
  root : Nat

/-- The only document of some tokens. -/
def documentOf (tokens : List Token) : Except Failure Document :=
  ((Read.document (4 * tokens.length + 4)).run ⟨tokens, [], .empty, []⟩).map fun (root, r) =>
    ⟨r.graph, root⟩

end DataPortal.Yaml
