import DataPortal.Yaml.Name
import DataPortal.Yaml.QuotedText
/-!
# Tokens of YAML text

Indentation becomes tokens of its own: a deeper column opens a block, a shallower one
closes it. A key is only known as one when its colon comes, so the place of each text
that might be a key is remembered, and the tokens that announce it are put there later.
-/
namespace DataPortal.Yaml

/-- A token. -/
inductive Token where
  | documentStart
  | documentEnd
  | blockList
  | blockObject
  | blockEnd
  | flowList
  | flowListEnd
  | flowObject
  | flowObjectEnd
  | blockEntry
  | flowEntry
  | key
  | value
  | scalar (text : List Char) (plain : Bool)
  | anchor (name : List Char)
  | alias (name : List Char)
  | tag (name : TagName)
  | directive (d : Directive)
  /-- No token can be read here. -/
  | broken (reason : Failure)

/-- A place where a key may begin: the number of tokens before it, whether the block makes
it necessary, and where in the text it stands. -/
structure Candidate where
  place : Nat
  required : Bool
  index : Nat
  line : Nat
  column : Nat

/-- The state of the tokenizer. Tokens are held newest first, candidates by the number of
flow collections around them; `indents` are the columns of the open blocks. -/
structure Scan where
  cursor : Cursor
  tokens : List Token
  flow : Nat
  indents : List Nat
  keyAllowed : Bool
  candidates : List (Nat × Candidate)

namespace Scan

/-- The tokenizer before a text. -/
def start (s : List Char) : Scan :=
  ⟨.start s, [], 0, [], true, []⟩

/-- The column of the innermost block; -1 outside of all blocks. -/
def indent (s : Scan) : Int :=
  match s.indents with
  | [] => -1
  | n :: _ => n

/-- Adds a token. -/
def push (s : Scan) (t : Token) : Scan :=
  { s with tokens := t :: s.tokens }

/-- Goes past some characters. -/
def skip (s : Scan) (n : Nat) : Scan :=
  { s with cursor := s.cursor.forwardBy n }

/-- Allows or forbids a key at the next token. -/
def allowKey (s : Scan) (b : Bool) : Scan :=
  { s with keyAllowed := b }

/-- Goes to the next token: past spaces, comments and the ends of lines. A new line in a
block allows a key. -/
def skipSpace : Nat → Scan → Scan
  | 0, s => s
  | fuel + 1, s =>
    let c := s.cursor.skipWhile (· == ' ')
    let c := if c.isAt '#' then c.skipWhile (fun x => !isBreak x) else c
    match c.lineBreak? with
    | some (_, c) => skipSpace fuel { s with cursor := c, keyAllowed := s.keyAllowed || s.flow == 0 }
    | none => { s with cursor := c }

/-! ## Keys -/

/-- Forgets the candidate of the current flow level, which must not be a necessary key. -/
def dropCandidate? (s : Scan) : Option Scan :=
  match s.candidates.lookup s.flow with
  | some k =>
    if k.required then none
    else some { s with candidates := s.candidates.filter (·.1 != s.flow) }
  | none => some s

/-- A key ends on its line and within 1024 characters. -/
def Candidate.isStale (c : Cursor) (k : Candidate) : Bool :=
  k.line != c.line || 1024 < c.index - k.index

/-- Forgets the candidates that can no longer be keys; a necessary one must not be lost. -/
def dropStale? (s : Scan) : Option Scan :=
  if s.candidates.any (fun (_, k) => Candidate.isStale s.cursor k && k.required) then none
  else some { s with candidates := s.candidates.filter (fun (_, k) => !Candidate.isStale s.cursor k) }

/-- Remembers that a key may begin here. -/
def saveCandidate? (s : Scan) : Option Scan :=
  if s.keyAllowed then
    s.dropCandidate?.map fun s =>
      let k : Candidate :=
        { place := s.tokens.length, required := s.flow == 0 && s.indent == s.cursor.column
          index := s.cursor.index, line := s.cursor.line, column := s.cursor.column }
      { s with candidates := (s.flow, k) :: s.candidates }
  else some s

/-- Opens a block at a column, if the column is deeper than the innermost block. -/
def openBlock (column : Nat) (s : Scan) : Option Scan :=
  if s.indent < column then some { s with indents := column :: s.indents } else none

/-- Closes the blocks that are deeper than a column. -/
def unwind (column : Int) : List Nat → List Token → List Nat × List Token
  | [], tokens => ([], tokens)
  | n :: rest, tokens =>
    if column < (n : Int) then unwind column rest (.blockEnd :: tokens) else (n :: rest, tokens)

/-- Closes blocks down to a column. Inside flow collections columns do not count. -/
def closeBlocks (column : Int) (s : Scan) : Scan :=
  if s.flow == 0 then
    let (indents, tokens) := unwind column s.indents s.tokens
    { s with indents := indents, tokens := tokens }
  else s

/-- Puts tokens, given in their order, after the first `place` tokens. -/
def insertAt (place : Nat) (new : List Token) (s : Scan) : Scan :=
  let older := s.tokens.drop (s.tokens.length - place)
  let newer := s.tokens.take (s.tokens.length - place)
  { s with tokens := newer ++ new.reverse ++ older }

/-! ## Tokens of one character or three -/

/-- A mark between documents, which closes all blocks. -/
def documentMark? (t : Token) (s : Scan) : Option Scan :=
  (s.closeBlocks (-1)).dropCandidate?.map fun s => ((s.allowKey false).skip 3).push t

/-- The start of a flow collection. It may itself be a key. -/
def flowStart? (t : Token) (s : Scan) : Option Scan :=
  s.saveCandidate?.map fun s => (({ s with flow := s.flow + 1 }.allowKey true).skip 1).push t

/-- The end of a flow collection. -/
def flowEnd? (t : Token) (s : Scan) : Option Scan :=
  match s.flow with
  | 0 => none
  | flow + 1 =>
    s.dropCandidate?.map fun s => (({ s with flow := flow }.allowKey false).skip 1).push t

/-- A comma of a flow collection. -/
def flowEntry? (s : Scan) : Option Scan :=
  s.dropCandidate?.map fun s => ((s.allowKey true).skip 1).push .flowEntry

/-- The dash of a list entry. Outside of flow collections it needs a place where a block
may begin. -/
def blockEntry? (s : Scan) : Option Scan :=
  if s.flow == 0 && !s.keyAllowed then none
  else
    let s := if s.flow == 0 then
        match s.openBlock s.cursor.column with
        | some s => s.push .blockList
        | none => s
      else s
    ((s.allowKey true).dropCandidate?).map fun s => (s.skip 1).push .blockEntry

/-- The question mark of an explicit key. -/
def explicitKey? (s : Scan) : Option Scan :=
  if s.flow == 0 && !s.keyAllowed then none
  else
    let s := if s.flow == 0 then
        match s.openBlock s.cursor.column with
        | some s => s.push .blockObject
        | none => s
      else s
    ((s.allowKey (s.flow == 0)).dropCandidate?).map fun s => (s.skip 1).push .key

/-- The colon of a value. What was remembered as a possible key becomes one. -/
def value? (s : Scan) : Option Scan :=
  match s.candidates.lookup s.flow with
  | some k =>
    let s := { s with candidates := s.candidates.filter (·.1 != s.flow) }
    let s :=
      if s.flow == 0 then
        match s.openBlock k.column with
        | some s => s.insertAt k.place [.blockObject, .key]
        | none => s.insertAt k.place [.key]
      else s.insertAt k.place [.key]
    some (((s.allowKey false).skip 1).push .value)
  | none =>
    if s.flow == 0 && !s.keyAllowed then none
    else
      let s := if s.flow == 0 then
          match s.openBlock s.cursor.column with
          | some s => s.push .blockObject
          | none => s
        else s
      ((s.allowKey (s.flow == 0)).dropCandidate?).map fun s => (s.skip 1).push .value

/-! ## Names and scalars -/

/-- An anchor, an alias or a tag, which may begin a key. The tokenizer stands before its
sign, and the name is read from there. -/
def named? {α : Type} (read? : Cursor → Option (α × Cursor)) (t : α → Token) (s : Scan) :
    Option Scan :=
  s.saveCandidate?.bind fun s =>
    (read? s.cursor).map fun (name, c) =>
      { s with cursor := c, keyAllowed := false }.push (t name)

/-- A directive, before which all blocks end. -/
def directive? (s : Scan) : Option Scan :=
  (s.closeBlocks (-1)).dropCandidate?.bind fun s =>
    (Yaml.directive? s.cursor.forward).map fun (d, c) =>
      { s with cursor := c, keyAllowed := false }.push (.directive d)

/-- A plain scalar. A key may follow it where it ended with its line. -/
def plain? (s : Scan) : Option Scan :=
  s.saveCandidate?.map fun s =>
    let (read, c, ended) := plainText (s.flow != 0) (s.indent + 1) s.cursor
    { s with cursor := c, keyAllowed := ended }.push (.scalar read true)

/-- A scalar in a block of its own. It is no key, and a key may follow it. -/
def block? (folded : Bool) (s : Scan) : Option Scan :=
  s.dropCandidate?.bind fun s =>
    (blockText? folded s.indent s.cursor.forward).map fun (read, c) =>
      { s with cursor := c, keyAllowed := true }.push (.scalar read false)

/-- What a step without a result fails with. -/
def orNotYaml : Option Scan → Except Failure Scan
  | some s => .ok s
  | none => .error .notYaml

/-- A scalar between quotes. -/
def quoted (mark : Char) (s : Scan) : Except Failure Scan :=
  (orNotYaml s.saveCandidate?).bind fun s =>
    (quotedText mark s.cursor.forward).map fun (read, c) =>
      { s with cursor := c, keyAllowed := false }.push (.scalar read false)

/-! ## The next token -/

/-- Reads the token at the current place, which is not the end of the text. -/
def token (s : Scan) : Except Failure Scan :=
  let atStart := s.cursor.column == 0
  match s.cursor.rest with
  | [] => .error .notYaml
  | c :: rest =>
    if atStart && c == '%' then orNotYaml s.directive?
    else if atStart && s.cursor.isAtMark '-' then orNotYaml (s.documentMark? .documentStart)
    else if atStart && s.cursor.isAtMark '.' then orNotYaml (s.documentMark? .documentEnd)
    else if c == '[' then orNotYaml (s.flowStart? .flowList)
    else if c == '\x7b' then orNotYaml (s.flowStart? .flowObject)
    else if c == ']' then orNotYaml (s.flowEnd? .flowListEnd)
    else if c == '\x7d' then orNotYaml (s.flowEnd? .flowObjectEnd)
    else if c == ',' then orNotYaml s.flowEntry?
    else if c == '-' && isSeparated rest then orNotYaml s.blockEntry?
    else if c == '?' && (s.flow != 0 || isSeparated rest) then orNotYaml s.explicitKey?
    else if c == ':' && (s.flow != 0 || isSeparated rest) then orNotYaml s.value?
    else if c == '*' then orNotYaml (s.named? (anchorName? ·.forward) .alias)
    else if c == '&' then orNotYaml (s.named? (anchorName? ·.forward) .anchor)
    else if c == '!' then orNotYaml (s.named? tagName? .tag)
    else if (c == '|' || c == '>') && s.flow == 0 then orNotYaml (s.block? (c == '>'))
    else if c == '\'' || c == '"' then s.quoted c
    else if startsPlain (s.flow != 0) s.cursor.rest then orNotYaml s.plain?
    else .error .notYaml

/-- The tokens of a text that cannot be read on. Whether a key begins at a candidate is not
known then, so that no token is left from the first candidate on. -/
def cut (s : Scan) (reason : Failure) : List Token :=
  let known := (s.candidates.filter fun (_, k) => !Candidate.isStale s.cursor k).foldl
    (fun n (_, k) => min n k.place) s.tokens.length
  s.tokens.reverse.take known ++ [.broken reason]

/-- Reads tokens to the end of the text, and closes what is open there. -/
def run : Nat → Scan → List Token
  | 0, s => s.cut .notYaml
  | fuel + 1, s =>
    match (skipSpace (s.cursor.rest.length + 1) s).dropStale? with
    | none => s.cut .notYaml
    | some next =>
      if next.cursor.rest.isEmpty then
        match (next.closeBlocks (-1)).dropCandidate? with
        | some next => next.tokens.reverse
        | none => s.cut .notYaml
      else
        match (next.closeBlocks next.cursor.column).token with
        | .ok next => run fuel next
        | .error reason => s.cut reason

end Scan

/-- The tokens of a text. A byte order mark at its start does not count. -/
def tokens (s : List Char) : List Token :=
  if s.all isAllowed then
    let s := match s with
      | c :: rest => if c.toNat == 0xFEFF then rest else s
      | [] => []
    (Scan.start s).run (s.length + 2)
  else [.broken .notYaml]

end DataPortal.Yaml
