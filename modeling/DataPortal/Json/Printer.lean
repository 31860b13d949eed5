import DataPortal.Value.Display
/-!
# Writing JSON

The compact form of a value: no white space, all characters as they are except for
quotes, backslashes and controls. Dates, decimal numbers, integers of too many digits, bytes, sets
and values of unknown form have none. Keys that are no texts are written as the text of the value.
-/
namespace DataPortal.Json

/-- One character of a text. -/
def writeChar (c : Char) : List Char :=
  if c = '"' then ['\\', '"']
  else if c = '\\' then ['\\', '\\']
  else if c = '\n' then ['\\', 'n']
  else if c = '\r' then ['\\', 'r']
  else if c = '\t' then ['\\', 't']
  else if c = '\x08' then ['\\', 'b']
  else if c = '\x0c' then ['\\', 'f']
  else if c.toNat < 32 then '\\' :: 'u' :: Text.hexDigits 4 c.toNat
  else [c]

/-- A text between quotes. -/
def writeText (s : List Char) : List Char :=
  '"' :: s.flatMap writeChar ++ ['"']

/-- A floating point number. -/
def writeFloat : Binary64 → List Char
  | .nan => "NaN".toList
  | .infinite false => "Infinity".toList
  | .infinite true => "-Infinity".toList
  | x => x.text

/-- The text of a key, if a value of its form can be one. -/
def keyText? : Value → Option (List Char)
  | .str s => some s.toList
  | .broken t => some t.shown
  | .null => some "null".toList
  | .bool true => some "true".toList
  | .bool false => some "false".toList
  | .int n => Value.intText? n
  | .float x => some (writeFloat x)
  | _ => none

mutual

/-- The compact form of a value, if it has one. -/
def write? : Value → Option (List Char)
  | .null => some "null".toList
  | .bool true => some "true".toList
  | .bool false => some "false".toList
  | .int n => Value.intText? n
  | .float x => some (writeFloat x)
  | .str s => some (writeText s.toList)
  | .broken t => some (writeText t.shown)
  | .list items | .tuple items =>
    (writeAll? items).map (fun parts => '[' :: Text.joinWith [','] parts ++ [']'])
  | .dict entries =>
    (writeEntries? entries).map (fun parts => '\x7b' :: Text.joinWith [','] parts ++ ['\x7d'])
  | .decimal _ | .date _ | .datetime _ | .bytes _ | .set _ | .unknown => none

/-- The compact forms of values. -/
def writeAll? : List Value → Option (List (List Char))
  | [] => some []
  | v :: rest => (write? v).bind (fun s => (writeAll? rest).map (s :: ·))

/-- The compact forms of entries, each as key, colon and value. -/
def writeEntries? : List (Value × Value) → Option (List (List Char))
  | [] => some []
  | (k, v) :: rest =>
    (keyText? k).bind (fun key =>
      (write? v).bind (fun s =>
        (writeEntries? rest).map ((writeText key ++ ':' :: s) :: ·)))

end

end DataPortal.Json
