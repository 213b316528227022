import SealedVault.Disk.Access
import SealedVault.Text.Quoted

/-!
# Failures of the store

The kinds of failure of operations on records and files, and their texts.
-/

namespace SealedVault

/-- Why an operation on records or files failed. -/
inductive StorageError where
  /-- A file or directory is not what it should be. -/
  | io (detail : String)
  /-- A text is not the JSON of what it should hold. -/
  | json
  | notFound (what : String)
  | alreadyExists (what : String)
  /-- The id cannot be the name of a file. -/
  | invalidId (id : String)
  | notInitialized
  /-- Stored data did not read back as written. -/
  | corrupted (detail : String)
  /-- The record belongs to someone else. -/
  | permissionDenied (user resource : String)
  | serialization (detail : String)
deriving Repr, DecidableEq

namespace StorageError

/-- The stable name of the kind of failure. -/
def kind : StorageError → String
  | io _ => "io"
  | json => "json"
  | notFound _ => "not_found"
  | alreadyExists _ => "already_exists"
  | invalidId _ => "invalid_id"
  | notInitialized => "not_initialized"
  | corrupted _ => "corrupted"
  | permissionDenied _ _ => "permission_denied"
  | serialization _ => "serialization_error"

/-- What the failure says. -/
def message : StorageError → String
  | io detail => "I/O error: " ++ detail
  | json => "JSON error"
  | notFound what => "Not found: " ++ what
  | alreadyExists what => "Already exists: " ++ what
  | invalidId id => "Invalid record id: " ++ Text.quoted id
  | notInitialized => "Storage not initialized"
  | corrupted detail => "Corrupted data: " ++ detail
  | permissionDenied user resource =>
    "Permission denied: user " ++ user ++ " cannot access " ++ resource
  | serialization detail => "Serialization error: " ++ detail

/-- The failure passes on one from below. -/
def hasSource : StorageError → Bool
  | io _ | json => true
  | _ => false

/-- The failure that a fault of the disk becomes. -/
def ofFault (fault : Disk.Fault) : StorageError :=
  if fault = .missing then notFound fault.message else io fault.message

end StorageError

end SealedVault
