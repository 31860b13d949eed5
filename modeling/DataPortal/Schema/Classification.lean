import DataPortal.Schema.FieldType
import DataPortal.Text.Blank
import DataPortal.Text.Folded
import DataPortal.Text.Template
import DataPortal.Text.WordCharacter
import DataPortal.Value.Basic
/-!
# Types of values

The type that a single value shows. A text can be a well-known text form of a geometry,
a date with or without a time, a UUID, which refers to an object, or the address of a
page or of a file; any other text is just a text.
-/
namespace DataPortal.Schema

/-! ## Geometries -/

/-- The geometries that have a well-known text form. -/
def geometryWords : List String :=
  ["point", "linestring", "polygon", "multipoint", "multilinestring", "multipolygon",
   "geometrycollection"]

/-- Takes a reference system, `SRID=` and a number and a semicolon, from the front of a
text, if there is one. -/
def dropReferenceSystem (s : List Char) : List Char :=
  match Text.takeWord? "srid=".toList s with
  | some rest =>
    match rest.dropWhile Text.isDigit with
    | ';' :: after =>
      if (rest.takeWhile Text.isDigit).isEmpty then s else Text.stripStart after
    | _ => s
  | none => s

/-- A text that begins with an opening parenthesis, or with the word for an empty
geometry. -/
def startsGeometryBody (s : List Char) : Bool :=
  match Text.stripStart s with
  | '(' :: _ => true
  | s =>
    (Text.takeWord? "empty".toList s).any
      (fun rest => !(rest.head?.any Text.isWordCharacter))

/-- Takes the letters for the further dimensions of a geometry, which follow white space. -/
def takeDimensions? (s : List Char) : Option (List (List Char)) :=
  match s with
  | c :: _ =>
    if Text.isBlank c then
      some (["z", "m", "zm"].filterMap (fun w => Text.takeWord? w.toList (Text.stripStart s)))
    else none
  | [] => none

/-- The well-known text form of a geometry. -/
def isGeometry (s : List Char) : Bool :=
  (Text.takeAnyWord? geometryWords (dropReferenceSystem s)).any fun rest =>
    startsGeometryBody rest || (takeDimensions? rest).any (·.any startsGeometryBody)

/-! ## Times, references and addresses -/

/-- A text that begins with a date, `T` or a space, hours and minutes. -/
def isDateTime (s : List Char) : Bool :=
  (Text.takeTemplate? "####-##-##".toList s).any fun rest =>
    match rest with
    | c :: rest => (c = 'T' || c = ' ') && (Text.takeTemplate? "##:##".toList rest).isSome
    | [] => false

/-- A date. -/
def isDate (s : List Char) : Bool :=
  (Text.takeTemplate? "####-##-##".toList s).any Text.isAtEnd

/-- A hexadecimal digit of either case. -/
def isHexDigit (c : Char) : Bool :=
  ('0' ≤ c && c ≤ '9') || ('a' ≤ c && c ≤ 'f') || ('A' ≤ c && c ≤ 'F')

/-- Takes hexadecimal digits, given by how many stand between two hyphens. -/
def takeHexGroups? : List Nat → List Char → Option (List Char)
  | [], s => some s
  | n :: groups, s =>
    if (s.take n).length = n ∧ (s.take n).all isHexDigit then
      match groups, s.drop n with
      | [], rest => some rest
      | groups, '-' :: rest => takeHexGroups? groups rest
      | _, _ => none
    else none

/-- A UUID. -/
def isUuid (s : List Char) : Bool :=
  (takeHexGroups? [8, 4, 4, 4, 12] s).any Text.isAtEnd

/-- The schemes of addresses. -/
def addressWords : List String :=
  ["http://", "https://", "ftp://"]

/-- The address of something on the web: a scheme and characters other than white space. -/
def isAddress (s : List Char) : Bool :=
  (Text.takeAnyWord? addressWords s).any fun rest =>
    let path := rest.takeWhile (fun c => !Text.isBlank c)
    !path.isEmpty && Text.isAtEnd (rest.drop path.length)

/-- The extensions of the names of files. -/
def fileExtensions : List String :=
  ["pdf", "doc", "docx", "xls", "xlsx", "odt", "ods", "csv", "tsv", "txt", "rtf", "json",
   "xml", "zip", "gz", "rar", "7z", "png", "jpg", "jpeg", "gif", "tif", "tiff", "svg", "bmp",
   "mp3", "mp4", "avi", "shp", "geojson"]

/-- The end of an address after the name of a file: nothing, or a query or a fragment on
the same line. -/
def isAfterFileName (s : List Char) : Bool :=
  match s with
  | '?' :: rest | '#' :: rest => Text.isAtEnd (rest.dropWhile (· != '\n'))
  | s => Text.isAtEnd s

/-- Whether some point in a text is followed by the extension of a file and no more path. -/
def endsInFileName : List Char → Bool
  | [] => false
  | c :: rest =>
    (c == '.' &&
      fileExtensions.any (fun e => (Text.takeWord? e.toList rest).any isAfterFileName)) ||
    endsInFileName rest

/-- The type that a text shows. -/
def typeOfText (s : List Char) : FieldType :=
  if isGeometry s then .geometry
  else if isDateTime s then .datetime
  else if isDate s then .date
  else if isUuid s then .ref
  else if isAddress s then (if endsInFileName s then .file else .url)
  else .string

/-! ## Values -/

/-- The keys that mark an object as a file. -/
def fileMarkers : List String :=
  ["_content_type", "content_type"]

/-- The type that an object shows. A file also has an identifier, so it is looked for
before a reference. -/
def typeOfObject (entries : List (Value × Value)) : FieldType :=
  if fileMarkers.any (fun marker => (Value.lookup marker entries).isSome) then .file
  else
    if ((Value.lookup "_id" entries).bind Value.text?).isSome then .ref else .object

/-- The type that a value shows. -/
def typeOf : Value → FieldType
  | .bool _ => .boolean
  | .int _ => .integer
  | .float x => if x.isIntegral then .integer else .number
  | .str s => typeOfText s.toList
  | .broken t => typeOfText t.shown
  | .dict entries => typeOfObject entries
  | .list _ | .tuple _ => .array
  | .null | .decimal _ | .date _ | .datetime _ | .bytes _ | .set _ | .unknown => .unknown

end DataPortal.Schema
