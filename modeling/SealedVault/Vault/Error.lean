import SealedVault.Sealing.Error
import SealedVault.Store.Error

/-!
# Failures of the vault

What a caller of the vault is told when an operation fails.
-/

namespace SealedVault

/-- Why an operation of the vault failed. -/
inductive VaultError where
  /-- A payload could not be sealed or opened. -/
  | sealing (error : Sealing.SealingError)
  /-- The storage failed in a way that is not the caller's doing. -/
  | storage (error : StorageError)
  | permissionDenied (user resource : String)
  | notFound (what : String)
  | invalidArgument (detail : String)
deriving Repr, DecidableEq

namespace VaultError

/-- The stable name of the kind of failure. -/
def code : VaultError → String
  | sealing e => e.code
  | storage _ => "storage_error"
  | permissionDenied _ _ => "permission_denied"
  | notFound _ => "not_found"
  | invalidArgument _ => "invalid_argument"

/-- What the failure says. -/
def message : VaultError → String
  | sealing e => e.message
  | storage e => "storage error: " ++ e.message
  | permissionDenied user resource =>
    "permission denied: " ++ user ++ " cannot access " ++ resource
  | notFound what => "not found: " ++ what
  | invalidArgument detail => "invalid argument: " ++ detail

/-- What a failure of the storage means to the caller. -/
def ofStorage : StorageError → VaultError
  | .notFound what => notFound what
  | .permissionDenied user resource => permissionDenied user resource
  | .alreadyExists what => invalidArgument ("already exists: " ++ what)
  | .invalidId id => invalidArgument ("invalid record id: " ++ Text.quoted id)
  | e => storage e

end VaultError

end SealedVault
