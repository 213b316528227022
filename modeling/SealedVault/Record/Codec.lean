import SealedVault.Json.Decode
import SealedVault.Json.Printer
import SealedVault.Record.Basic

/-!
# The JSON of records

A record is an object whose fields stand in a fixed order. A record written before payloads had a
protection tag holds its payload as it is.
-/

namespace SealedVault

open Json (Value Tree)
open Sealing (Payload Protection)

namespace Sealing.Protection

/-- The JSON of the tag. -/
def toJson (p : Protection) : Value := .text p.tag

/-- The protection whose tag a tree holds. -/
def ofTree? (tree : Tree) : Option Protection := tree.caseName?.bind ofTag?

end Sealing.Protection

namespace Role

/-- The JSON of the role. -/
def toJson (role : Role) : Value := .text role.name

/-- The role whose name a tree holds. -/
def ofTree? (tree : Tree) : Option Role := tree.caseName?.bind ofName?

end Role

namespace Caller

/-- The JSON of the caller. -/
def toJson (caller : Caller) : Value :=
  .object [("user_id", .text caller.userId), ("role", caller.role.toJson)]

/-- The caller that a tree holds. -/
def ofTree? (tree : Tree) : Option Caller := do
  let fields ← tree.fields? ["user_id", "role"]
  return ⟨← Tree.required? Tree.text? fields "user_id", ← Tree.required? Role.ofTree? fields "role"⟩

end Caller

namespace Kind

/-- The name of the field that holds the payload. -/
def payloadField : Kind → String
  | claims => "claims"
  | _ => "data"

/-- The names of the fields in the order in which they are written. -/
def fieldNames : Kind → List String
  | claims => ["id", "user_id", "encryption", "claims", "created_at", "updated_at"]
  | document =>
    ["id", "user_id", "title", "content_type", "encryption", "data", "created_at", "updated_at"]
  | photo => ["id", "document_id", "user_id", "content_type", "encryption", "data", "created_at"]
  | attachment =>
    ["id", "document_id", "user_id", "file_name", "content_type", "encryption", "data",
      "created_at"]

/-- Reads the fields that only records of the kind have. -/
def fieldsOfTrees? (fields : List (String × Tree)) : (kind : Kind) → Option kind.Fields
  | claims => do
    return ({ updatedAt := ← Tree.required? Tree.timestamp? fields "updated_at" } : ClaimsFields)
  | document => do
    return ({ title := ← Tree.required? Tree.text? fields "title"
              contentType := ← Tree.required? Tree.text? fields "content_type"
              updatedAt := ← Tree.required? Tree.timestamp? fields "updated_at" } : DocumentFields)
  | photo => do
    return ({ documentId := ← Tree.required? Tree.text? fields "document_id"
              contentType := ← Tree.required? Tree.text? fields "content_type" } : PhotoFields)
  | attachment => do
    return ({ documentId := ← Tree.required? Tree.text? fields "document_id"
              fileName := ← Tree.required? Tree.text? fields "file_name"
              contentType := ← Tree.required? Tree.text? fields "content_type" } :
            AttachmentFields)

end Kind

namespace Record

/-- The written form of a timestamp. -/
def timeJson (t : Calendar.Timestamp) : Value := .text t.text

/-- The members of the record's object, in order. -/
def members : {kind : Kind} → Record kind → List (String × Value)
  | .claims, r =>
    let f : ClaimsFields := r.fields
    [("id", .text r.id), ("user_id", .text r.owner),
      ("encryption", r.payload.protection.toJson), ("claims", .text r.payload.text),
      ("created_at", timeJson r.createdAt), ("updated_at", timeJson f.updatedAt)]
  | .document, r =>
    let f : DocumentFields := r.fields
    [("id", .text r.id), ("user_id", .text r.owner), ("title", .text f.title),
      ("content_type", .text f.contentType), ("encryption", r.payload.protection.toJson),
      ("data", .text r.payload.text), ("created_at", timeJson r.createdAt),
      ("updated_at", timeJson f.updatedAt)]
  | .photo, r =>
    let f : PhotoFields := r.fields
    [("id", .text r.id), ("document_id", .text f.documentId), ("user_id", .text r.owner),
      ("content_type", .text f.contentType), ("encryption", r.payload.protection.toJson),
      ("data", .text r.payload.text), ("created_at", timeJson r.createdAt)]
  | .attachment, r =>
    let f : AttachmentFields := r.fields
    [("id", .text r.id), ("document_id", .text f.documentId), ("user_id", .text r.owner),
      ("file_name", .text f.fileName), ("content_type", .text f.contentType),
      ("encryption", r.payload.protection.toJson), ("data", .text r.payload.text),
      ("created_at", timeJson r.createdAt)]

/-- The JSON of the record, with its members in order. -/
def toJson {kind : Kind} (r : Record kind) : Value := .object r.members

/-- The record that a tree holds. -/
def ofTree? (kind : Kind) (tree : Tree) : Option (Record kind) := do
  let fields ← tree.fields? kind.fieldNames
  let id ← Tree.required? Tree.text? fields "id"
  let owner ← Tree.required? Tree.text? fields "user_id"
  let protection ← Tree.withDefault? .none Protection.ofTree? fields "encryption"
  let stored ← Tree.required? Tree.text? fields kind.payloadField
  let createdAt ← Tree.required? Tree.timestamp? fields "created_at"
  let special ← kind.fieldsOfTrees? fields
  return ⟨id, owner, .ofStored protection stored, createdAt, special⟩

/-- The record that a file holds. -/
def ofBytes? (kind : Kind) (bytes : List UInt8) : Option (Record kind) :=
  (Tree.ofBytes? bytes).bind (ofTree? kind)

/-- The bytes of the record's file. -/
def toBytes {kind : Kind} (r : Record kind) : List UInt8 := Text.utf8Bytes r.toJson.pretty

end Record

end SealedVault
