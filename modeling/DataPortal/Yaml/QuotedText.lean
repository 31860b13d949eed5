import DataPortal.Failure.Basic
import DataPortal.Text.Percent
import DataPortal.Yaml.PlainText
/-!
# Texts between quotes

Between single quotes a quote is written twice. Between double quotes a backslash begins an
escape. In both the ends of lines are folded.
-/
namespace DataPortal.Yaml

/-- The character that an escape of one character stands for. -/
def escaped? (c : Char) : Option Char :=
  match c with
  | '0' => some (Char.ofNat 0)
  | 'a' => some (Char.ofNat 7)
  | 'b' => some (Char.ofNat 8)
  | 't' | '\t' => some '\t'
  | 'n' => some '\n'
  | 'v' => some (Char.ofNat 11)
  | 'f' => some (Char.ofNat 12)
  | 'r' => some '\r'
  | 'e' => some (Char.ofNat 27)
  | ' ' => some ' '
  | '"' => some '"'
  | '\\' => some '\\'
  | '/' => some '/'
  | 'N' => some (Char.ofNat 0x85)
  | '_' => some (Char.ofNat 0xA0)
  | 'L' => some (Char.ofNat 0x2028)
  | 'P' => some (Char.ofNat 0x2029)
  | _ => none

/-- How many digits the escape of a code point has. -/
def codeLength? (c : Char) : Option Nat :=
  match c with
  | 'x' => some 2
  | 'u' => some 4
  | 'U' => some 8
  | _ => none

/-- The character of a code point. A surrogate is replaced; beyond the last code point there
is no character, and beyond 31 bits not even a code point. -/
def charOfCode (code : Nat) : Except Failure Char :=
  if code.isValidChar then .ok (Char.ofNat code)
  else if code < 0x110000 then .ok (Char.ofNat 0xFFFD)
  else if code < 0x80000000 then .error .badValue
  else .error .overflow

/-- The character of a code point given in hexadecimal digits. -/
def codePoint (width : Nat) (s : List Char) : Except Failure Char :=
  match (s.take width).mapM Text.Percent.hexValue? with
  | some values =>
    if values.length = width then charOfCode (values.foldl (fun n d => 16 * n + d) 0)
    else .error .notYaml
  | none => .error .notYaml

/-- The ends of empty lines inside quotes; a mark between documents must not come. -/
def quotedBreaks : Nat → List Char → Cursor → Except Failure (List Char × Cursor)
  | 0, breaks, c => .ok (breaks, c)
  | fuel + 1, breaks, c =>
    if c.isAtDocumentMark then .error .notYaml
    else
      let c := c.skipWhile (fun x => x == ' ' || x == '\t')
      match c.lineBreak? with
      | some (x, c) => quotedBreaks fuel (breaks ++ [x]) c
      | none => .ok (breaks, c)

/-- White space inside quotes: kept within a line, folded at its end. -/
def quotedSpace (c : Cursor) : Except Failure (List Char × Cursor) :=
  let spaces := c.rest.takeWhile (fun x => x == ' ' || x == '\t')
  let c := c.skipWhile (fun x => x == ' ' || x == '\t')
  match c.lineBreak? with
  | some (x, c) =>
    (quotedBreaks (c.rest.length + 1) [] c).map fun (breaks, c) => (foldBreak x breaks, c)
  | none => if c.rest.isEmpty then .error .notYaml else .ok (spaces, c)

/-- An escape after its backslash. -/
def quotedEscape (c : Cursor) : Except Failure (List Char × Cursor) :=
  match c.rest with
  | [] => .error .notYaml
  | x :: rest =>
    match escaped? x, codeLength? x with
    | some e, _ => .ok ([e], c.forward)
    | none, some width => (codePoint width rest).map fun e => ([e], c.forwardBy (width + 1))
    | none, none =>
      match c.lineBreak? with
      | some (_, c) => quotedBreaks (c.rest.length + 1) [] c
      | none => .error .notYaml

/-- What is left of a text between quotes, and the place after the closing quote. -/
def quotedParts (mark : Char) : Nat → List Char → Cursor → Except Failure (List Char × Cursor)
  | 0, _, _ => .error .notYaml
  | fuel + 1, read, c =>
    match c.rest with
    | [] => .error .notYaml
    | x :: rest =>
      if x == mark then
        if mark == '\'' && rest.head? == some '\'' then
          quotedParts mark fuel (read ++ ['\'']) (c.forwardBy 2)
        else .ok (read, c.forward)
      else if mark == '"' && x == '\\' then
        (quotedEscape c.forward).bind fun (e, c) => quotedParts mark fuel (read ++ e) c
      else if isSeparator x then
        (quotedSpace c).bind fun (e, c) => quotedParts mark fuel (read ++ e) c
      else quotedParts mark fuel (read ++ [x]) c.forward

/-- The text after an opening quote, and the place after the closing one. -/
def quotedText (mark : Char) (c : Cursor) : Except Failure (List Char × Cursor) :=
  quotedParts mark (c.rest.length + 1) [] c

end DataPortal.Yaml
