import SealedVault.Calendar.Timestamp

/-!
# Kinds of records

Claims and documents belong to their owner directly; photos and attachments hang on a document.
-/

namespace SealedVault

/-- What a record is. -/
inductive Kind where
  | claims
  | document
  | photo
  | attachment
deriving Repr, DecidableEq

namespace Kind

/-- Every kind, in the order in which the kinds are gone through. -/
def all : List Kind := [claims, document, photo, attachment]

/-- The name of the kind in messages and in the audit log. -/
def name : Kind → String
  | claims => "claims"
  | document => "document"
  | photo => "photo"
  | attachment => "attachment"

/-- The directory that holds the records of the kind. -/
def directory : Kind → String
  | claims => "claims"
  | document => "documents"
  | photo => "photos"
  | attachment => "attachments"

end Kind

/-- What only a claims record has. -/
structure ClaimsFields where
  updatedAt : Calendar.Timestamp
deriving DecidableEq

/-- What only a document has. -/
structure DocumentFields where
  title : String
  contentType : String
  updatedAt : Calendar.Timestamp
deriving DecidableEq

/-- What only a photo has. -/
structure PhotoFields where
  documentId : String
  contentType : String
deriving DecidableEq

/-- What only an attachment has. -/
structure AttachmentFields where
  documentId : String
  fileName : String
  contentType : String
deriving DecidableEq

namespace Kind

/-- The fields of a kind beyond those that all records share. -/
def Fields : Kind → Type
  | claims => ClaimsFields
  | document => DocumentFields
  | photo => PhotoFields
  | attachment => AttachmentFields

instance : (kind : Kind) → DecidableEq kind.Fields
  | claims => inferInstanceAs (DecidableEq ClaimsFields)
  | document => inferInstanceAs (DecidableEq DocumentFields)
  | photo => inferInstanceAs (DecidableEq PhotoFields)
  | attachment => inferInstanceAs (DecidableEq AttachmentFields)

/-- The fields after a change at the given instant. -/
def touch (now : Calendar.Timestamp) : (kind : Kind) → kind.Fields → kind.Fields
  | claims, fields => { (fields : ClaimsFields) with updatedAt := now }
  | document, fields => { (fields : DocumentFields) with updatedAt := now }
  | photo, fields => fields
  | attachment, fields => fields

/-- The document that a record with these fields hangs on. -/
def parent? : (kind : Kind) → kind.Fields → Option String
  | claims, _ => none
  | document, _ => none
  | photo, fields => some (fields : PhotoFields).documentId
  | attachment, fields => some (fields : AttachmentFields).documentId

end Kind

end SealedVault
