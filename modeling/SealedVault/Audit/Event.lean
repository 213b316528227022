import SealedVault.Json.Decode
import SealedVault.Json.Printer

/-!
# Audit events

What happened to which record, at whose request and with what outcome. An event is one line of
JSON with all its fields, those without a value being null.
-/

namespace SealedVault.Audit

open Json (Value Tree)

/-- What can happen to records and to the audit log. -/
inductive EventType where
  | recordStored
  | recordRead
  | recordUpdated
  | recordDeleted
  | decryptionFailed
  | recordsResealed
  | permissionDenied
  | auditAccessed
deriving Repr, DecidableEq

namespace EventType

/-- Every type of event. -/
def all : List EventType :=
  [recordStored, recordRead, recordUpdated, recordDeleted, decryptionFailed, recordsResealed,
    permissionDenied, auditAccessed]

/-- The name of the type in an event's line. -/
def name : EventType → String
  | recordStored => "record_stored"
  | recordRead => "record_read"
  | recordUpdated => "record_updated"
  | recordDeleted => "record_deleted"
  | decryptionFailed => "decryption_failed"
  | recordsResealed => "records_resealed"
  | permissionDenied => "permission_denied"
  | auditAccessed => "audit_accessed"

/-- The type with exactly this name. -/
def ofName? (name : String) : Option EventType := all.find? (·.name = name)

/-- The JSON of the type. -/
def toJson (t : EventType) : Value := .text t.name

/-- The type that a tree holds. -/
def ofTree? (tree : Tree) : Option EventType := tree.caseName?.bind ofName?

end EventType

/-- One entry of an audit log. -/
structure Event where
  eventId : String
  timestamp : Calendar.Timestamp
  eventType : EventType
  /-- Who caused the event, if anyone is known to have. -/
  user : Option String
  resourceId : Option String
  resourceType : Option String
  details : Option Value
  success : Bool
  /-- What went wrong, if anything did. -/
  error : Option String

namespace Event

/-- A successful event of which nothing else is known. -/
def plain (eventId : String) (timestamp : Calendar.Timestamp) (eventType : EventType) : Event where
  eventId
  timestamp
  eventType
  user := none
  resourceId := none
  resourceType := none
  details := none
  success := true
  error := none

/-- The event with the user who caused it. -/
def withUser (e : Event) (user : String) : Event := { e with user := some user }

/-- The event with the record that it is about. -/
def withResource (e : Event) (resourceType resourceId : String) : Event :=
  { e with resourceType := some resourceType, resourceId := some resourceId }

/-- The event with further details. -/
def withDetails (e : Event) (details : Value) : Event := { e with details := some details }

/-- The event as a failure. -/
def failed (e : Event) (error : String) : Event := { e with success := false, error := some error }

/-- A value that may be missing, as its JSON or null. -/
def orNull {α : Type} (toJson : α → Value) : Option α → Value
  | some a => toJson a
  | none => .null

/-- The names of the fields in the order in which they are written. -/
def fieldNames : List String :=
  ["event_id", "timestamp", "event_type", "user_id", "resource_id", "resource_type", "details",
    "success", "error"]

/-- The JSON of the event, with all its fields in order. -/
def toJson (e : Event) : Value := .object
  [("event_id", .text e.eventId), ("timestamp", .text e.timestamp.text),
    ("event_type", e.eventType.toJson), ("user_id", orNull .text e.user),
    ("resource_id", orNull .text e.resourceId), ("resource_type", orNull .text e.resourceType),
    ("details", orNull id e.details), ("success", .bool e.success), ("error", orNull .text e.error)]

/-- The event that a tree holds. Its details are one level deeper than the event itself. -/
def ofTree? (tree : Tree) : Option Event := do
  let fields ← tree.fields? fieldNames
  return {
    eventId := ← Tree.required? Tree.text? fields "event_id"
    timestamp := ← Tree.required? Tree.timestamp? fields "timestamp"
    eventType := ← Tree.required? EventType.ofTree? fields "event_type"
    user := ← Tree.optional? Tree.text? fields "user_id"
    resourceId := ← Tree.optional? Tree.text? fields "resource_id"
    resourceType := ← Tree.optional? Tree.text? fields "resource_type"
    details := ← Tree.optional? (Value.ofTree? (Value.depthLimit - 1)) fields "details"
    success := ← Tree.required? Tree.bool? fields "success"
    error := ← Tree.optional? Tree.text? fields "error" }

/-- The event that some bytes hold. -/
def ofBytes? (bytes : List UInt8) : Option Event := (Tree.ofBytes? bytes).bind ofTree?

/-- The line of the event, with its end. -/
def line (e : Event) : String := e.toJson.compact ++ "\n"

end Event

end SealedVault.Audit
