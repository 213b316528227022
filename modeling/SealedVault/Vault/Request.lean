import SealedVault.Vault.AuditAccess
import SealedVault.Vault.Claims
import SealedVault.Vault.Documents
import SealedVault.Vault.Reseal

/-!
# Requests

Every operation of the vault as a value, and the answer that carrying it out gives.
-/

namespace SealedVault

/-- An operation with its arguments. -/
inductive Request where
  | storeClaims (caller : Caller) (claims : String)
  | readClaims (caller : Caller) (id : String)
  | updateClaims (caller : Caller) (id claims : String)
  | deleteClaims (caller : Caller) (id : String)
  | listClaims (caller : Caller)
  | storeDocument (caller : Caller) (title contentType data : String)
  | readDocument (caller : Caller) (id : String)
  | deleteDocument (caller : Caller) (id : String)
  | listDocuments (caller : Caller)
  | addPhoto (caller : Caller) (documentId contentType data : String)
  | readPhoto (caller : Caller) (id : String)
  | listPhotos (caller : Caller) (documentId : String)
  | addAttachment (caller : Caller) (documentId fileName contentType data : String)
  | readAttachment (caller : Caller) (id : String)
  | listAttachments (caller : Caller) (documentId : String)
  | reseal
  | auditEvents (caller : Caller) (date : String)
deriving Repr, DecidableEq

/-- What a request is answered with when it succeeds. -/
inductive Answer where
  | done
  | record {kind : Kind} (r : Record kind)
  | opened {kind : Kind} (o : Opened kind)
  | listed {kind : Kind} (entries : List (Opened kind))
  | summary (s : ResealSummary)
  | events (es : List Audit.Event)

namespace Vault

/-- Carries out a request. -/
def perform (v : Vault) : Request → Action Answer
  | .storeClaims caller claims => .record <$> v.storeClaims caller claims
  | .readClaims caller id => .opened <$> v.readClaims caller id
  | .updateClaims caller id claims => .record <$> v.updateClaims caller id claims
  | .deleteClaims caller id => (fun _ => .done) <$> v.deleteClaims caller id
  | .listClaims caller => .listed <$> v.listClaims caller
  | .storeDocument caller title contentType data =>
    .record <$> v.storeDocument caller title contentType data
  | .readDocument caller id => .opened <$> v.readDocument caller id
  | .deleteDocument caller id => (fun _ => .done) <$> v.deleteDocument caller id
  | .listDocuments caller => .listed <$> v.listDocuments caller
  | .addPhoto caller documentId contentType data =>
    .record <$> v.addPhoto caller documentId contentType data
  | .readPhoto caller id => .opened <$> v.readPhoto caller id
  | .listPhotos caller documentId => .listed <$> v.listPhotos caller documentId
  | .addAttachment caller documentId fileName contentType data =>
    .record <$> v.addAttachment caller documentId fileName contentType data
  | .readAttachment caller id => .opened <$> v.readAttachment caller id
  | .listAttachments caller documentId => .listed <$> v.listAttachments caller documentId
  | .reseal => .summary <$> v.reseal
  | .auditEvents caller date => .events <$> v.auditEvents caller date

end Vault

end SealedVault
