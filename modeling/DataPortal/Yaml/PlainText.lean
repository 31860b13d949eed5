import DataPortal.Yaml.Cursor
/-!
# Plain texts

A text without quotes reaches as far as nothing in it could be taken for structure. It may
go on over several lines, whose ends are folded.
-/
namespace DataPortal.Yaml

/-- Whether the colon before a text ends a plain text. -/
def colonEnds (inFlow : Bool) (rest : List Char) : Bool :=
  isSeparated rest || (inFlow && rest.head?.any [',', '[', ']', '\x7b', '\x7d'].contains)

/-- How many characters of a line belong to a plain text. -/
def plainLength (inFlow : Bool) : List Char → Nat
  | [] => 0
  | c :: rest =>
    if isSeparator c || (c == ':' && colonEnds inFlow rest) ||
        (inFlow && [',', '?', '[', ']', '\x7b', '\x7d'].contains c) then 0
    else 1 + plainLength inFlow rest

/-- The ends of empty lines after a line of a plain text; none where a mark between
documents comes. -/
def plainBreaks : Nat → List Char → Cursor → Option (List Char) × Cursor
  | 0, breaks, c => (some breaks, c)
  | fuel + 1, breaks, c =>
    if c.isAt ' ' then plainBreaks fuel breaks c.forward
    else
      match c.lineBreak? with
      | some (x, c) =>
        if c.isAtDocumentMark then (none, c) else plainBreaks fuel (breaks ++ [x]) c
      | none => (some breaks, c)

/-- A folded end of line: a space, or the ends of the empty lines that follow. -/
def foldBreak (x : Char) (breaks : List Char) : List Char :=
  if x != '\n' then x :: breaks else if breaks.isEmpty then [' '] else breaks

/-- What separates two parts of a plain text, the place after it, and whether a line ended
there. -/
def plainSpace (c : Cursor) : List Char × Cursor × Bool :=
  let spaces := c.rest.takeWhile (· == ' ')
  let c := c.skipWhile (· == ' ')
  match c.lineBreak? with
  | none => (spaces, c, false)
  | some (x, c) =>
    if c.isAtDocumentMark then ([], c, true)
    else
      match plainBreaks (c.rest.length + 1) [] c with
      | (some breaks, c) => (foldBreak x breaks, c, true)
      | (none, c) => ([], c, true)

/-- The lines of a plain text, as long as they are indented deep enough. -/
def plainLines (inFlow : Bool) (indent : Int) :
    Nat → List Char → List Char → Bool → Cursor → List Char × Cursor × Bool
  | 0, read, _, ended, c => (read, c, ended)
  | fuel + 1, read, space, ended, c =>
    let n := if c.isAt '#' then 0 else plainLength inFlow c.rest
    if n = 0 then (read, c, ended)
    else
      let read := read ++ space ++ c.rest.take n
      let (space, c, ended) := plainSpace (c.forwardBy n)
      if space.isEmpty || c.isAt '#' || (!inFlow && (c.column : Int) < indent) then (read, c, ended)
      else plainLines inFlow indent fuel read space ended c

/-- The plain text that begins at a place, the place after it, and whether a line ended
there. -/
def plainText (inFlow : Bool) (indent : Int) (c : Cursor) : List Char × Cursor × Bool :=
  plainLines inFlow indent (c.rest.length + 1) [] [] false c

/-- Whether a plain text begins here. -/
def startsPlain (inFlow : Bool) : List Char → Bool
  | [] => false
  | c :: rest =>
    let isIndicator :=
      ['-', '?', ':', ',', '[', ']', '\x7b', '\x7d', '#', '&', '*', '!', '|', '>', '\'', '"',
       '%', '@', '\x60'].contains c
    (!isSeparator c && !isIndicator) ||
      (!isSeparated rest && (c == '-' || (!inFlow && (c == '?' || c == ':'))))

end DataPortal.Yaml
