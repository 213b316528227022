import SealedVault.Record.Kind
import SealedVault.Sealing.Envelope
import SealedVault.Sealing.Payload

/-!
# The sealing service

With a master key, new payloads are sealed under their owner's key; without one they are stored
as they are. How a stored payload is read follows from its own protection, so a sealed payload
never comes back unopened.
-/

namespace SealedVault.Sealing

open Cipher (Block)

/-- Seals and opens payloads, under a master key if there is one. -/
structure Service where
  masterKey : Option MasterKey
deriving DecidableEq

namespace Service

/-- The service without a key. -/
def disabled : Service := ⟨none⟩

/-- New payloads are sealed. -/
def isEnabled (service : Service) : Bool := service.masterKey.isSome

/-- The protection that new payloads get. -/
def writeProtection (service : Service) : Protection :=
  if service.isEnabled then .sealed else .none

/-- The stored text of a sealed payload: the base64 of its envelope. -/
def sealText (key : MasterKey) (initial : Block) (owner plaintext : String) :
    Except SealingError String := do
  let ownerKey ← deriveKey key.bytes owner
  let envelope ← Envelope.wrap ownerKey initial (Text.utf8Bytes plaintext)
  return Text.Base64.encode envelope

/-- Protects a text for its owner. The initial block is used only when there is a key. -/
def protect (service : Service) (initial : Block) (owner plaintext : String) :
    Except SealingError Payload := do
  checkOwner owner
  match service.masterKey with
  | none => return .plain plaintext
  | some key => return .sealed (← sealText key initial owner plaintext)

/-- The bytes of a stored envelope, around whose text blanks are ignored. -/
def storedEnvelope (stored : String) : Except SealingError (List UInt8) :=
  match Text.Base64.decode? (Text.trim stored) with
  | none => .error (.malformedEnvelope "stored value is not valid base64")
  | some envelope =>
    if envelope.length < Envelope.initialSize then
      .error (.malformedEnvelope "envelope too short")
    else .ok envelope

/-- Opens the stored text of a sealed payload. -/
def unsealText (key : MasterKey) (owner stored : String) : Except SealingError String := do
  let envelope ← storedEnvelope stored
  let ownerKey ← deriveKey key.bytes owner
  let plain ← Envelope.unwrap ownerKey envelope
  match Text.ofUtf8Bytes? plain with
  | some plaintext => return plaintext
  | none => throw (.decryptionFailed "decrypted payload is not valid UTF-8")

/-- Recovers the text of a payload for its owner. -/
def reveal (service : Service) (owner : String) (payload : Payload) :
    Except SealingError String := do
  checkOwner owner
  match payload with
  | .plain text => return text
  | .sealed stored =>
    match service.masterKey with
    | none => throw (.invalidKeyMaterial "master key not configured")
    | some key => unsealText key owner stored

/-- Protects a text for its owner, and gives the protection and the text that are stored. -/
def encrypt (service : Service) (initial : Block) (owner plaintext : String) :
    Except SealingError (Protection × String) :=
  (service.protect initial owner plaintext).map Payload.toStored

/-- Recovers for its owner the text that is stored with a protection. -/
def decrypt (service : Service) (owner : String) (protection : Protection) (stored : String) :
    Except SealingError String :=
  service.reveal owner (.ofStored protection stored)

/-- The owner for whom the self-test seals. -/
def sampleOwner : String := "self-test"

/-- The text that the self-test seals. -/
def sampleText : String := "vault self-test"

/-- Seals and opens a sample to see that the key works. Without a key there is nothing to
test. -/
def selfTest (service : Service) (initial : Block) : Except SealingError Unit := do
  if service.isEnabled then
    let sample ← service.protect initial sampleOwner sampleText
    if sample.text = sampleText then
      throw (.cipher "self-test produced plaintext output")
    let opened ← service.reveal sampleOwner sample
    if opened ≠ sampleText then
      throw (.decryptionFailed "self-test round trip mismatch")

/-! ### Entry points

Each kind of payload has its own way in and its own way out. Claims belong to a user, and all other
payloads to the owner of a document. -/

/-- Encrypts the claims of a user. -/
def encryptClaims (service : Service) (initial : Block) (user claims : String) :
    Except SealingError (Protection × String) :=
  service.encrypt initial user claims

/-- Decrypts the claims of a user. -/
def decryptClaims (service : Service) (user : String) (protection : Protection)
    (stored : String) : Except SealingError String :=
  service.decrypt user protection stored

/-- Encrypts the data of a document. -/
def encryptDocumentData (service : Service) (initial : Block) (documentOwner data : String) :
    Except SealingError (Protection × String) :=
  service.encrypt initial documentOwner data

/-- Decrypts the data of a document. -/
def decryptDocumentData (service : Service) (documentOwner : String) (protection : Protection)
    (stored : String) : Except SealingError String :=
  service.decrypt documentOwner protection stored

/-- Encrypts a photo for the owner of its document. -/
def encryptPhotoData (service : Service) (initial : Block) (documentOwner data : String) :
    Except SealingError (Protection × String) :=
  service.encrypt initial documentOwner data

/-- Decrypts a photo for the owner of its document. -/
def decryptPhotoData (service : Service) (documentOwner : String) (protection : Protection)
    (stored : String) : Except SealingError String :=
  service.decrypt documentOwner protection stored

/-- Encrypts an attachment for the owner of its document. -/
def encryptAttachmentData (service : Service) (initial : Block) (documentOwner data : String) :
    Except SealingError (Protection × String) :=
  service.encrypt initial documentOwner data

/-- Decrypts an attachment for the owner of its document. -/
def decryptAttachmentData (service : Service) (documentOwner : String) (protection : Protection)
    (stored : String) : Except SealingError String :=
  service.decrypt documentOwner protection stored

/-- The way in for payloads of a kind. -/
def encryptOf (service : Service) :
    Kind → Block → String → String → Except SealingError (Protection × String)
  | .claims => service.encryptClaims
  | .document => service.encryptDocumentData
  | .photo => service.encryptPhotoData
  | .attachment => service.encryptAttachmentData

/-- The way out for payloads of a kind. -/
def decryptOf (service : Service) :
    Kind → String → Protection → String → Except SealingError String
  | .claims => service.decryptClaims
  | .document => service.decryptDocumentData
  | .photo => service.decryptPhotoData
  | .attachment => service.decryptAttachmentData

/-- All ways in are the same. -/
theorem encryptOf_eq (service : Service) (kind : Kind) :
    service.encryptOf kind = service.encrypt := by
  cases kind <;> rfl

/-- All ways out are the same. -/
theorem decryptOf_eq (service : Service) (kind : Kind) :
    service.decryptOf kind = service.decrypt := by
  cases kind <;> rfl

/-- A description that does not show the key. -/
def describe (service : Service) : String :=
  let key := match service.masterKey with
    | none => "None"
    | some key => "Some(" ++ key.describe ++ ")"
  "EncryptionService \x7b master_key: " ++ key ++ " \x7d"

end Service

end SealedVault.Sealing
