import SealedVault.Record.Kind
import SealedVault.Role
import SealedVault.Sealing.Payload
import SealedVault.Store.Error

/-!
# Records

A record has an id, an owner and a payload, and further fields that depend on its kind. Only the
owner and admins may access it.
-/

namespace SealedVault

open Sealing (Payload)

/-- What the vault keeps in one file. -/
structure Record (kind : Kind) where
  id : String
  /-- The user to whom the record belongs. -/
  owner : String
  payload : Payload
  createdAt : Calendar.Timestamp
  fields : kind.Fields
deriving DecidableEq

namespace Record

variable {kind : Kind}

/-- How messages name the record with an id. -/
def labelOf (kind : Kind) (id : String) : String := kind.name ++ " " ++ id

/-- How messages name the record. -/
def label (r : Record kind) : String := labelOf kind r.id

/-- The record with another payload, changed at the given instant. -/
def setPayload (r : Record kind) (payload : Payload) (now : Calendar.Timestamp) : Record kind :=
  { r with payload := payload, fields := kind.touch now r.fields }

/-- The document that the record hangs on. -/
def parent? (r : Record kind) : Option String := kind.parent? r.fields

/-- The caller is the owner or an admin. -/
def grants (r : Record kind) (caller : Caller) : Bool :=
  r.owner = caller.userId || caller.role.bypassesOwnership

/-- Refuses callers who are neither the owner nor an admin. -/
def checkAccess (r : Record kind) (caller : Caller) : Except StorageError Unit :=
  if r.grants caller then .ok () else .error (.permissionDenied caller.userId r.label)

end Record

/-- A record together with its revealed payload. -/
structure Opened (kind : Kind) where
  record : Record kind
  plaintext : String
deriving DecidableEq

end SealedVault
