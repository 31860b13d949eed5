import DataPortal.Config.Settings
import DataPortal.Json.Reader
import DataPortal.Number.Numeral
import DataPortal.Text.Blank
import DataPortal.Yaml.Reader
/-!
# Configuration

Where the service and its authorization server are, who asks, and how patiently. A
setting is taken from what is given by name, else from the environment, else from the
defaults.
-/
namespace DataPortal

/-- The variables of the environment. -/
abbrev Environment := List (String × String)

/-- A configuration with its two groups of settings in some form. The addresses end without
a slash. -/
structure ConfigWith (ρ δ : Type) where
  baseUrl : String
  authUrl : String
  clientId : Value
  clientSecret : Value
  scopes : Value
  timeout : Value
  retry : ρ
  discovery : δ

/-- A configuration. -/
abbrev Config := ConfigWith RetryPolicy DiscoveryLimits

/-- Both parts of the credentials are given. -/
def ConfigWith.hasCredentials {ρ δ : Type} (c : ConfigWith ρ δ) : Bool :=
  !(c.clientId matches .null) && !(c.clientSecret matches .null)

namespace Config

/-- The address of the service. -/
def defaultBaseUrl : String := "https://get.data.gov.lt"

/-- The address of the authorization server. -/
def defaultAuthUrl : String := "https://put.data.gov.lt"

/-- The rights that are asked for. -/
def defaultScopes : List String :=
  ["spinta_getone", "spinta_getall", "spinta_search", "spinta_changes"]

/-- The names of the settings. -/
def names : List String :=
  ["base_url", "auth_url", "client_id", "client_secret", "scopes", "timeout", "retry",
   "discovery"]

/-! ## Settings of the environment -/

/-- A list of texts as a value. -/
def textList (texts : List String) : Value :=
  .list (texts.map .str)

/-- Words as texts. -/
def wordList (words : List (List Char)) : Value :=
  textList (words.map String.ofList)

/-- The scopes in a text of the environment, with commas or white space between them. -/
def splitScopes (s : List Char) : List (List Char) :=
  Text.nonemptyPieces (fun c => c == ',' || Text.isBlank c) s

/-- The scopes that the environment asks for. -/
def environmentScopes (env : Environment) : Value :=
  match env.lookup "LT_DATA_SCOPES" with
  | none => textList defaultScopes
  | some s => if s = "" then textList defaultScopes else wordList (splitScopes s.toList)

/-- A variable of the environment, or null. -/
def environmentText (env : Environment) (name : String) : Value :=
  match env.lookup name with
  | some s => .str s
  | none => .null

/-- The timeout that the environment asks for, in seconds. -/
def environmentTimeout (env : Environment) : Except Failure Value :=
  match Binary64.ofText? ((env.lookup "LT_DATA_TIMEOUT").getD "30").toList with
  | some x => .ok (.float x)
  | none => .error .badValue

/-! ## Settings given by name -/

/-- An address without the slashes at its end. -/
def trimUrl (v : Value) : Except Failure String :=
  match v with
  | .str s => .ok (String.ofList (Text.dropEndWhile (· == '/') s.toList))
  | .broken t => .ok (String.ofList (Text.dropEndWhile (· == '/') t.shown))
  | .bytes _ => .error .wrongType
  | _ => .error .noSuchMember

/-- The configuration of settings given by name, two of which are groups that come in a form
of their own. The timeout of the environment counts only where none is given. -/
def assemble {ρ δ : Type} (env : Environment) (entries : List (Value × Value)) (retry : ρ)
    (discovery : δ) : Except Failure (ConfigWith ρ δ) := do
  unless entries.all (fun (k, _) => names.any (Value.isKey · k)) do
    throw .wrongType
  let given := fun name default => (Value.lookup name entries).getD default
  let timeout ← match Value.lookup "timeout" entries with
    | some v => .ok v
    | none => environmentTimeout env
  let baseUrl ← trimUrl (given "base_url"
    (.str ((env.lookup "LT_DATA_BASE_URL").getD defaultBaseUrl)))
  let authUrl ← trimUrl (given "auth_url"
    (.str ((env.lookup "LT_DATA_AUTH_URL").getD defaultAuthUrl)))
  return {
    baseUrl, authUrl
    clientId := given "client_id" (environmentText env "LT_DATA_CLIENT_ID")
    clientSecret := given "client_secret" (environmentText env "LT_DATA_CLIENT_SECRET")
    scopes := given "scopes" (environmentScopes env)
    timeout, retry, discovery }

/-- A text of scopes is cut at white space; other values stay. -/
def splitScopeText (entry : Value × Value) : Value × Value :=
  match entry with
  | (.str "scopes", .str s) => (.str "scopes", wordList (Text.words s.toList))
  | (.str "scopes", .broken t) =>
    (.str "scopes", .list ((Text.nonemptyPieces CodePoint.isBlank t.points).map .ofPoints))
  | entry => entry

/-- The configuration of settings given by name. -/
def ofEntries (env : Environment) (entries : List (Value × Value)) : Except Failure Config := do
  let retry ← RetryPolicy.ofValue (Value.entry "retry" entries)
  let discovery ← DiscoveryLimits.ofValue (Value.entry "discovery" entries)
  assemble env (entries.map splitScopeText) retry discovery

/-- The configuration of settings given one by one, which are not converted: a group is
whatever was given for it. -/
def ofSettings (env : Environment) (entries : List (Value × Value)) :
    Except Failure (ConfigWith Value Value) :=
  assemble env entries
    ((Value.lookup "retry" entries).getD RetryPolicy.standard.toValue)
    ((Value.lookup "discovery" entries).getD DiscoveryLimits.standard.toValue)

/-- A configuration with its groups of settings as values. -/
def toValues (c : Config) : ConfigWith Value Value :=
  { c with retry := c.retry.toValue, discovery := c.discovery.toValue }

/-- The configuration without any settings. -/
def ofEnvironment (env : Environment) : Except Failure Config :=
  ofEntries env []

/-- One key with its value: whatever can be walked over and has two elements. -/
def pairOf (v : Value) : Except Failure (Value × Value) :=
  match v.elements? with
  | some [k, x] => if k.canBeKey then .ok (k, x) else .error .wrongType
  | some _ => .error .badValue
  | none => .error .wrongType

/-- The entries of an object, or of a sequence of keys with their values. -/
def entriesOfValue (v : Value) : Except Failure (List (Value × Value)) :=
  match v with
  | .dict entries => .ok entries
  | v =>
    match v.elements? with
    | some items => (items.mapM pairOf).map Value.entriesOf
    | none => .error .wrongType

/-- The configuration of settings given as data. -/
def ofValue (env : Environment) (v : Value) : Except Failure Config := do
  let entries ← entriesOfValue v
  ofEntries env entries

/-! ## Files -/

/-- The text of a file with line feeds at the ends of its lines. -/
def normalizeLines : List Char → List Char
  | [] => []
  | '\r' :: '\n' :: rest => '\n' :: normalizeLines rest
  | '\r' :: rest => '\n' :: normalizeLines rest
  | c :: rest => c :: normalizeLines rest

/-- The text of a file that must exist. -/
def fileText (file : Option String) : Except Failure (List Char) :=
  match file with
  | some s => .ok (normalizeLines s.toList)
  | none => .error .noSuchFile

/-- The configuration of a JSON file, of which only so many lists and objects can be open at a
time. -/
def ofJson (room : Nat) (env : Environment) (file : Option String) : Except Failure Config := do
  let s ← fileText file
  let v ← Json.read room (s.map .char)
  ofValue env v

/-- The configuration of a YAML file. An empty one has no settings. -/
def ofYaml (env : Environment) (file : Option String) : Except Failure Config := do
  let s ← fileText file
  let v ← Yaml.read s
  ofValue env (if v.isTruthy then v else .dict [])

end Config
end DataPortal
