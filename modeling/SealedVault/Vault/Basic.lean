import SealedVault.Audit.Log
import SealedVault.Sealing.Service
import SealedVault.Store.Records
import SealedVault.Vault.World

/-!
# The vault

The vault keeps records for their owners. An operation loads a record, sees whether the caller may
access it, seals or opens the payload, stores, and notes in the audit log what was done. Denied
access and payloads that do not open are noted as failures. An audit log that cannot be written
does not make an operation fail.

This module has the steps that the operations are made of.
-/

namespace SealedVault

open Audit (Event EventType)
open Sealing (Payload Service SealingError)

/-- A storage that is ready, and the service that seals for it. -/
structure Vault where
  storage : Storage
  service : Service
  /-- The directories of the storage have been made. -/
  ready : storage.initialized = true

namespace Vault

/-- The vault over a storage, which must have been prepared. -/
def ofStorage (storage : Storage) (service : Service) : Except VaultError Vault :=
  if h : storage.initialized = true then .ok ⟨storage, service, h⟩
  else .error (.storage .notInitialized)

variable {kind : Kind}

/-- Notes an event, of which the type is known and the rest is filled in by `complete`. -/
def note (v : Vault) (eventType : EventType) (complete : Event → Event) : Action Unit := do
  let id ← Action.newEventId
  let now ← Action.now
  Action.onDiskIgnoring (Audit.log v.storage (complete (.plain id now eventType)))

/-- What the audit log says about the protection of a payload. -/
def protectionDetails (payload : Payload) : Json.Value :=
  .object [("encryption", payload.protection.toJson)]

/-- Notes what a caller did to a record. -/
def noteSuccess (v : Vault) (eventType : EventType) (caller : Caller) (r : Record kind) :
    Action Unit :=
  v.note eventType fun e =>
    ((e.withUser caller.userId).withResource kind.name r.id).withDetails
      (protectionDetails r.payload)

/-- Notes that a caller was denied access to a record. -/
def noteDenied (v : Vault) (caller : Caller) (r : Record kind) : Action Unit :=
  v.note .permissionDenied fun e =>
    ((e.withUser caller.userId).withResource kind.name r.id).failed "not the owner"

/-- What the audit log says about a payload that did not open. -/
def failureDetails (payload : Payload) (error : SealingError) : Json.Value :=
  .object [("code", .text error.code), ("encryption", payload.protection.toJson)]

/-- Notes that the payload of a record did not open. -/
def noteUnopened (v : Vault) (caller : Caller) (r : Record kind) (error : SealingError) :
    Action Unit :=
  v.note .decryptionFailed fun e =>
    (((e.withUser caller.userId).withResource kind.name r.id).withDetails
      (failureDetails r.payload error)).failed error.message

/-- Refuses callers who may not access a record. -/
def authorize (v : Vault) (caller : Caller) (r : Record kind) : Action Unit :=
  match r.checkAccess caller with
  | .ok () => pure ()
  | .error e => do
    v.noteDenied caller r
    throw (.ofStorage e)

/-- Protects a text of a kind for an owner. -/
def sealFor (v : Vault) (kind : Kind) (owner plaintext : String) : Action Payload := do
  let initial ← Action.newInitial
  let (protection, stored) ← Action.sealing (v.service.encryptOf kind initial owner plaintext)
  return .ofStored protection stored

/-- Recovers the text of a record with the key of `keyOwner`. -/
def reveal (v : Vault) (caller : Caller) (r : Record kind) (keyOwner : String) : Action String :=
  let (protection, stored) := r.payload.toStored
  match v.service.decryptOf kind keyOwner protection stored with
  | .ok plaintext => pure plaintext
  | .error e => do
    v.noteUnopened caller r e
    throw (.sealing e)

/-- Recovers the texts of several records, passing over those that do not open. -/
def revealEach (v : Vault) (caller : Caller) (keyOwner : Record kind → String) :
    List (Record kind) → Action (List (Opened kind))
  | [] => pure []
  | r :: rest => do
    let plaintext ← (v.reveal caller r (keyOwner r)).attempt
    let opened ← v.revealEach caller keyOwner rest
    match plaintext with
    | some plaintext => return ⟨r, plaintext⟩ :: opened
    | none => return opened

/-- The record with an id, if the caller may access it. -/
def authorized (v : Vault) (kind : Kind) (caller : Caller) (id : String) :
    Action (Record kind) := do
  let r ← Action.ask (v.storage.getRecord kind id)
  v.authorize caller r
  return r

/-- A new record with the given owner. The fields of its kind may depend on the instant at which
it is made. -/
def store (v : Vault) (caller : Caller) (owner plaintext : String)
    (fields : Calendar.Timestamp → kind.Fields) : Action (Record kind) := do
  let payload ← v.sealFor kind owner plaintext
  let id ← Action.newRecordId
  let now ← Action.now
  let r : Record kind := ⟨id, owner, payload, now, fields now⟩
  Action.onDisk (v.storage.createRecord r)
  v.noteSuccess .recordStored caller r
  return r

/-- Opens a record of the caller's, or of anyone's for an admin, with its owner's key. -/
def readOwn (v : Vault) (kind : Kind) (caller : Caller) (id : String) : Action (Opened kind) := do
  let r ← v.authorized kind caller id
  let plaintext ← v.reveal caller r r.owner
  v.noteSuccess .recordRead caller r
  return ⟨r, plaintext⟩

/-- All the records of a kind that belong to the caller, opened. -/
def listOwn (v : Vault) (kind : Kind) (caller : Caller) : Action (List (Opened kind)) := do
  let records ← Action.ask (v.storage.listByOwner kind caller.userId)
  v.revealEach caller (·.owner) records

end Vault

end SealedVault
