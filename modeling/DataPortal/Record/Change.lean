import DataPortal.Failure.Basic
import DataPortal.Record.Timestamp
/-!
# Records of the service

Entries of the change log of a model, and the bins of a summary. What a record holds
beyond its own fields is kept.
-/
namespace DataPortal

/-- What a change did. -/
inductive ChangeKind where
  | insert
  | update
  | patch
  | delete
  deriving DecidableEq, Repr

namespace ChangeKind

/-- The name of a kind. -/
def name : ChangeKind → String
  | .insert => "insert"
  | .update => "update"
  | .patch => "patch"
  | .delete => "delete"

/-- The kind that a value names. -/
def ofValue? : Value → Option ChangeKind
  | .str s => [insert, update, patch, delete].find? (fun k => k.name == s)
  | _ => none

end ChangeKind

/-- An entry of the change log. Its number grows from change to change. -/
structure Change where
  cid : Int
  created : Option DateTime
  kind : Option ChangeKind
  transaction : Option String
  revision : Option String
  id : Option String
  /-- The data that changed; a deletion has none. -/
  data : Option (List (Value × Value))
  extra : List (Value × Value)

namespace Change

/-- Reads an entry. -/
def ofValue? (v : Value) : Option Change := do
  let entries ← Record.object? v
  let (cid, entries) := Record.take ["_cid", "cid"] entries
  let (created, entries) := Record.take ["_created", "created"] entries
  let (kind, entries) := Record.take ["_op", "op"] entries
  let (transaction, entries) := Record.take ["_txn", "txn"] entries
  let (revision, entries) := Record.take ["_revision", "revision"] entries
  let (id, entries) := Record.take ["_id", "id"] entries
  let (data, entries) := Record.take ["_data", "data"] entries
  some {
    cid := ← Record.required Record.integer? cid
    created := ← Record.optional Record.timestamp? created
    kind := ← Record.optional ChangeKind.ofValue? kind
    transaction := ← Record.optional Record.text? transaction
    revision := ← Record.optional Record.text? revision
    id := ← Record.optional Record.text? id
    data := ← Record.optional Record.object? data
    extra := entries }

/-- Reads an entry, or fails. -/
def ofValue (v : Value) : Except Failure Change :=
  match ofValue? v with
  | some c => .ok c
  | none => .error .invalidRecord

end Change

/-- A bin of a summary: how often the values of a field fall into it. -/
structure SummaryBin where
  bin : Value
  count : Int
  id : Option String
  extra : List (Value × Value)

namespace SummaryBin

/-- Reads a bin. -/
def ofValue? (v : Value) : Option SummaryBin := do
  let entries ← Record.object? v
  let (bin, entries) := Record.take ["bin"] entries
  let (count, entries) := Record.take ["count"] entries
  let (id, entries) := Record.take ["_id", "id"] entries
  some {
    bin := ← bin
    count := ← Record.required Record.integer? count
    id := ← Record.optional Record.text? id
    extra := entries }

/-- Reads a bin, or fails. -/
def ofValue (v : Value) : Except Failure SummaryBin :=
  match ofValue? v with
  | some b => .ok b
  | none => .error .invalidRecord

end SummaryBin

/-- What the authorization server grants: a token, and for how many seconds. -/
structure TokenGrant where
  token : String
  expiresIn : Int

/-- Reads a grant. -/
def TokenGrant.ofValue? (v : Value) : Option TokenGrant := do
  let entries ← Record.object? v
  let token ← Record.required Record.text? (Value.lookup "access_token" entries)
  let expiresIn ← Record.required Record.integer? (Value.lookup "expires_in" entries)
  let _ ← Record.text? ((Value.lookup "token_type" entries).getD (.str "Bearer"))
  let _ ← Record.optional Record.text? (Value.lookup "scope" entries)
  some ⟨token, expiresIn⟩

end DataPortal
