import DataPortal.Text.Percent
import DataPortal.Yaml.BlockText
import DataPortal.Yaml.Cursor
/-!
# Names

Names of anchors, names of tags, and the directives before a document, which declare the
version of the language and abbreviations for the names of tags.
-/
namespace DataPortal.Yaml

/-- An ASCII letter, a digit, a hyphen or a low line. -/
def isNameChar (c : Char) : Bool :=
  ('a' ≤ c && c ≤ 'z') || ('A' ≤ c && c ≤ 'Z') || Text.isAsciiDigit c || c == '-' || c == '_'

/-- The name at a place, which must not be empty, and the place after it. -/
def name? (c : Cursor) : Option (List Char × Cursor) :=
  let name := c.rest.takeWhile isNameChar
  if name.isEmpty then none else some (name, c.forwardBy name.length)

/-- The name of an anchor. Something must follow that can end it. -/
def anchorName? (c : Cursor) : Option (List Char × Cursor) :=
  (name? c).filter fun (_, c) =>
    c.next?.all fun x => isSeparator x || ['?', ':', ',', ']', '\x7d', '%', '@', '\x60'].contains x

/-! ## Names of tags -/

/-- The name of a tag as written: what it abbreviates, if it begins with an abbreviation,
and the rest of it. -/
structure TagName where
  handle : Option (List Char)
  suffix : List Char
  deriving DecidableEq, Repr

/-- A character that may stand in the name of a tag. -/
def isTagChar (c : Char) : Bool :=
  isNameChar c || [';', '/', '?', ':', '@', '&', '=', '+', '$', ',', '.', '!', '~', '*', '\'', '(',
    ')', '[', ']', '%'].contains c

/-- The characters of a tag's name at a place, with escapes read, and the place after them. -/
def tagText? (c : Cursor) : Option (List Char × Cursor) :=
  let written := c.rest.takeWhile isTagChar
  if written.isEmpty then none
  else (Text.Percent.decode? written).map fun s => (s, c.forwardBy written.length)

/-- An abbreviation: one exclamation mark, or two with a name between them that may be empty. -/
def tagHandle? (c : Cursor) : Option (List Char × Cursor) :=
  if c.isAt '!' then
    let c := c.forward
    if c.isAt ' ' then some (['!'], c)
    else
      let name := c.rest.takeWhile isNameChar
      let c := c.forwardBy name.length
      if c.isAt '!' then some ('!' :: name ++ ['!'], c.forward) else none
  else none

/-- Whether a line ends here or a space follows. -/
def isAtSpace (c : Cursor) : Bool :=
  c.next?.all fun x => x == ' ' || isBreak x

/-- The name of a tag: in angle brackets, as an abbreviation with a rest, or missing after
its exclamation mark. -/
def tagName? (c : Cursor) : Option (TagName × Cursor) :=
  let after := c.forward
  let named : Option (TagName × Cursor) :=
    if after.isAt '<' then
      (tagText? after.forward).bind fun (suffix, c) =>
        if c.isAt '>' then some (⟨none, suffix⟩, c.forward) else none
    else if isSeparated after.rest then some (⟨none, ['!']⟩, after)
    else if (after.rest.takeWhile fun x => !(x == ' ' || isBreak x)).contains '!' then
      (tagHandle? c).bind fun (handle, c) =>
        (tagText? c).map fun (suffix, c) => (⟨some handle, suffix⟩, c)
    else (tagText? after).map fun (suffix, c) => (⟨some ['!'], suffix⟩, c)
  named.filter fun (_, c) => isAtSpace c

/-! ## Directives -/

/-- A directive. Those that are not known do not count. -/
inductive Directive where
  | version (major : Nat)
  | abbreviation (handle full : List Char)
  | unknown
  deriving DecidableEq, Repr

/-- A number at a place, and the place after it. -/
def number? (c : Cursor) : Option (Nat × Cursor) :=
  let ds := c.rest.takeWhile Text.isAsciiDigit
  if ds.isEmpty then none else some (Text.digitsValue ds, c.forwardBy ds.length)

/-- The version of a directive. -/
def version? (c : Cursor) : Option (Directive × Cursor) :=
  (number? (c.skipWhile (· == ' '))).bind fun (major, c) =>
    if c.isAt '.' then
      ((number? c.forward).filter fun (_, c) => isAtSpace c).map fun (_, c) => (.version major, c)
    else none

/-- The abbreviation that a directive declares. -/
def abbreviation? (c : Cursor) : Option (Directive × Cursor) :=
  (tagHandle? (c.skipWhile (· == ' '))).bind fun (handle, c) =>
    if c.isAt ' ' then
      ((tagText? (c.skipWhile (· == ' '))).filter fun (_, c) => isAtSpace c).map fun (full, c) =>
        (.abbreviation handle full, c)
    else none

/-- A directive after its percent sign, and the place after its line. -/
def directive? (c : Cursor) : Option (Directive × Cursor) :=
  (name? c).bind fun (name, c) =>
    if isAtSpace c then
      (if name = "YAML".toList then version? c
        else if name = "TAG".toList then abbreviation? c
        else some (.unknown, c.skipWhile fun x => !isBreak x)).bind fun (d, c) =>
          (endOfLine? c).map fun c => (d, c)
    else none

end DataPortal.Yaml
