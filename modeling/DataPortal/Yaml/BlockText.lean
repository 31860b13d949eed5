import DataPortal.Text.Digit
import DataPortal.Yaml.Cursor
/-!
# Texts in blocks

A text of whole lines, all indented alike. A literal one keeps the ends of its lines, a
folded one joins lines that are not indented further. The header says which of the line ends
after the last line are kept, and how deep the text is indented where its first line does
not show it.
-/
namespace DataPortal.Yaml

/-- Which line ends after the last line are kept. -/
inductive Chomping where
  | strip
  | clip
  | keep
  deriving DecidableEq, Repr

/-- The header of a block. -/
structure BlockHeader where
  chomping : Chomping
  /-- By how much the text is indented deeper than the block around it. -/
  indent : Option Nat

/-- The sign of a header that says which line ends are kept. -/
def chomping? (c : Cursor) : Option (Chomping × Cursor) :=
  if c.isAt '+' then some (.keep, c.forward)
  else if c.isAt '-' then some (.strip, c.forward)
  else none

/-- The digit of a header for the depth of the text, which must not be zero. -/
def headerIndent? (c : Cursor) : Option (Option Nat × Cursor) :=
  match c.next? with
  | none => some (none, c)
  | some d =>
    if d = '0' then none
    else if Text.isAsciiDigit d then some (some (Text.digitValue d), c.forward)
    else some (none, c)

/-- The signs of a header: the two of them in either order. -/
def headerSigns? (c : Cursor) : Option (BlockHeader × Cursor) :=
  match chomping? c with
  | some (chomping, c) => (headerIndent? c).map fun (indent, c) => (⟨chomping, indent⟩, c)
  | none =>
    (headerIndent? c).map fun (indent, c) =>
      match chomping? c with
      | some (chomping, c) => (⟨chomping, indent⟩, c)
      | none => (⟨.clip, indent⟩, c)

/-- What is left of a line that may hold nothing but a comment. -/
def endOfLine? (c : Cursor) : Option Cursor :=
  let c := c.skipWhile (· == ' ')
  let c := if c.isAt '#' then c.skipWhile (fun x => !isBreak x) else c
  if c.rest.isEmpty then some c else c.lineBreak?.map Prod.snd

/-- A header and the rest of its line. -/
def blockHeader? (c : Cursor) : Option (BlockHeader × Cursor) :=
  (headerSigns? c).bind fun (header, c) =>
    if c.next?.all (fun x => x == ' ' || isBreak x) then
      (endOfLine? c).map fun c => (header, c)
    else none

/-- The ends of the empty lines at the start of a text, and the deepest column that a space
reaches there. -/
def leadingBreaks : Nat → List Char → Nat → Cursor → List Char × Nat × Cursor
  | 0, breaks, deepest, c => (breaks, deepest, c)
  | fuel + 1, breaks, deepest, c =>
    if c.isAt ' ' then leadingBreaks fuel breaks (max deepest c.forward.column) c.forward
    else
      match c.lineBreak? with
      | some (x, c) => leadingBreaks fuel (breaks ++ [x]) deepest c
      | none => (breaks, deepest, c)

/-- The place after spaces, up to a column. -/
def skipIndent (indent : Nat) (c : Cursor) : Cursor :=
  c.forwardBy (min (indent - c.column) (c.rest.takeWhile (· == ' ')).length)

/-- The ends of empty lines inside a text. -/
def innerBreaks (indent : Nat) : Nat → List Char → Cursor → List Char × Cursor
  | 0, breaks, c => (breaks, c)
  | fuel + 1, breaks, c =>
    let c := skipIndent indent c
    match c.lineBreak? with
    | some (x, c) => innerBreaks indent fuel (breaks ++ [x]) c
    | none => (breaks, c)

/-- Whether a line of a text begins here. -/
def isAtLine (indent : Nat) (c : Cursor) : Bool :=
  c.column == indent && !c.rest.isEmpty

/-- Whether a line is indented further than the text. -/
def isFurtherIn (c : Cursor) : Bool :=
  c.isAt ' ' || c.isAt '\t'

/-- The lines of a text with what joins them, the end of the last line, the ends of the empty
lines after it, and the place after those. -/
def blockLines (folded : Bool) (indent : Nat) :
    Nat → List Char → List Char → Cursor → List Char × List Char × List Char × Cursor
  | 0, read, breaks, c => (read, [], breaks, c)
  | fuel + 1, read, breaks, c =>
    let line := c.rest.takeWhile (fun x => !isBreak x)
    let further := isFurtherIn c
    let c := c.forwardBy line.length
    let (ending, c) := match c.lineBreak? with
      | some (x, c) => ([x], c)
      | none => ([], c)
    let read := read ++ breaks ++ line
    let (breaks, c) := innerBreaks indent (c.rest.length + 1) [] c
    if isAtLine indent c then
      let joint :=
        if folded && ending == ['\n'] && !further && !isFurtherIn c then
          (if breaks.isEmpty then [' '] else [])
        else ending
      blockLines folded indent fuel (read ++ joint) breaks c
    else (read, ending, breaks, c)

/-- A text in a block, and the place after it. The text is indented deeper than the block
around it, whose column is `outer`. -/
def blockText? (folded : Bool) (outer : Int) (c : Cursor) : Option (List Char × Cursor) :=
  (blockHeader? c).map fun (header, c) =>
    let least := max 1 (outer + 1).toNat
    let (indent, breaks, c) := match header.indent with
      | some n =>
        let indent := least + n - 1
        let (breaks, c) := innerBreaks indent (c.rest.length + 1) [] c
        (indent, breaks, c)
      | none =>
        let (breaks, deepest, c) := leadingBreaks (c.rest.length + 1) [] 0 c
        (max least deepest, breaks, c)
    let (read, ending, breaks, c) :=
      if isAtLine indent c then blockLines folded indent (c.rest.length + 1) [] breaks c
      else ([], [], breaks, c)
    let tail := match header.chomping with
      | .strip => []
      | .clip => ending
      | .keep => ending ++ breaks
    (read ++ tail, c)

end DataPortal.Yaml
