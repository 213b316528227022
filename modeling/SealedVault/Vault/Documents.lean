import SealedVault.Vault.Basic

/-!
# Documents

Documents with the photos and attachments that hang on them. Whoever may access a document may
access what hangs on it, and all of it is sealed under the key of the document's owner. Deleting a
document deletes what hangs on it first.
-/

namespace SealedVault.Vault

/-- Stores a document that belongs to the caller. -/
def storeDocument (v : Vault) (caller : Caller) (title contentType data : String) :
    Action (Record .document) :=
  v.store caller caller.userId data fun now =>
    ({ title, contentType, updatedAt := now } : DocumentFields)

/-- Opens a document of the caller's, or of anyone's for an admin. -/
def readDocument (v : Vault) (caller : Caller) (id : String) : Action (Opened .document) :=
  v.readOwn .document caller id

/-- All documents of the caller, opened. -/
def listDocuments (v : Vault) (caller : Caller) : Action (List (Opened .document)) :=
  v.listOwn .document caller

/-! ### What hangs on a document -/

/-- Opens a record that hangs on a document, for whoever may access the document. -/
def readHanging (v : Vault) (kind : Kind) (caller : Caller) (id : String)
    (documentOf : kind.Fields → String) : Action (Opened kind) := do
  let r ← Action.ask (v.storage.getRecord kind id)
  let document ← v.authorized .document caller (documentOf r.fields)
  let plaintext ← v.reveal caller r document.owner
  v.noteSuccess .recordRead caller r
  return ⟨r, plaintext⟩

/-- All the records of a kind that hang on a document, opened. -/
def listHanging (v : Vault) (kind : Kind) (caller : Caller) (documentId : String) :
    Action (List (Opened kind)) := do
  let document ← v.authorized .document caller documentId
  let records ← Action.ask (v.storage.listByDocument kind documentId)
  v.revealEach caller (fun _ => document.owner) records

/-- Hangs a photo on a document. -/
def addPhoto (v : Vault) (caller : Caller) (documentId contentType data : String) :
    Action (Record .photo) := do
  let document ← v.authorized .document caller documentId
  v.store caller document.owner data fun _ =>
    ({ documentId := document.id, contentType } : PhotoFields)

/-- Opens a photo for whoever may access its document. -/
def readPhoto (v : Vault) (caller : Caller) (id : String) : Action (Opened .photo) :=
  v.readHanging .photo caller id PhotoFields.documentId

/-- The photos of a document, opened. -/
def listPhotos (v : Vault) (caller : Caller) (documentId : String) :
    Action (List (Opened .photo)) :=
  v.listHanging .photo caller documentId

/-- Hangs an attachment on a document. -/
def addAttachment (v : Vault) (caller : Caller) (documentId fileName contentType data : String) :
    Action (Record .attachment) := do
  let document ← v.authorized .document caller documentId
  v.store caller document.owner data fun _ =>
    ({ documentId := document.id, fileName, contentType } : AttachmentFields)

/-- Opens an attachment for whoever may access its document. -/
def readAttachment (v : Vault) (caller : Caller) (id : String) : Action (Opened .attachment) :=
  v.readHanging .attachment caller id AttachmentFields.documentId

/-- The attachments of a document, opened. -/
def listAttachments (v : Vault) (caller : Caller) (documentId : String) :
    Action (List (Opened .attachment)) :=
  v.listHanging .attachment caller documentId

/-! ### Deleting -/

/-- Deletes records one after the other, up to the first that cannot be deleted. -/
def deleteEach (v : Vault) (kind : Kind) : List String → Action Unit
  | [] => pure ()
  | id :: rest => do
    Action.onDisk (v.storage.deleteRecord kind id)
    v.deleteEach kind rest

/-- Deletes the records of a kind that hang on a document, and tells their ids. -/
def deleteHanging (v : Vault) (kind : Kind) (documentId : String) : Action (List String) := do
  let records ← Action.ask (v.storage.listByDocument kind documentId)
  let ids := records.map (·.id)
  v.deleteEach kind ids
  return ids

/-- What the audit log says about a deleted document. -/
def deletionDetails (photoIds attachmentIds : List String) : Json.Value :=
  .object [("attachments", .array (attachmentIds.map .text)),
    ("photos", .array (photoIds.map .text))]

/-- Deletes a document with all that hangs on it. -/
def deleteDocument (v : Vault) (caller : Caller) (id : String) : Action Unit := do
  let document ← v.authorized .document caller id
  let photoIds ← v.deleteHanging .photo id
  let attachmentIds ← v.deleteHanging .attachment id
  Action.onDisk (v.storage.deleteRecord .document id)
  v.note .recordDeleted fun e =>
    ((e.withUser caller.userId).withResource Kind.document.name document.id).withDetails
      (deletionDetails photoIds attachmentIds)

end SealedVault.Vault
