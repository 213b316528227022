import SealedVault.Vault.Basic

/-!
# Access to the audit log

Auditors and admins may read the audit log of a day. That they did, or that someone else tried,
is itself noted.
-/

namespace SealedVault.Vault

open Audit (Event)
open Calendar (Date)

/-- The resource type that audit logs are noted as. -/
def auditResource : String := "audit"

/-- The events of a day; there are none when the day has no log. -/
def dayEvents (v : Vault) (day : Date) (d : Disk) : Except StorageError (List Event) :=
  match Audit.readDay v.storage day d with
  | .error (.notFound _) => .ok []
  | result => result

/-- The audit events of the day that a text names. -/
def auditEvents (v : Vault) (caller : Caller) (date : String) : Action (List Event) := do
  match Date.read date with
  | .error _ => throw (.invalidArgument ("invalid audit date: " ++ Text.quoted date))
  | .ok day =>
    if caller.role.hasPrivilege .auditor then
      let events ← Action.ask (v.dayEvents day)
      v.note .auditAccessed fun e =>
        (e.withUser caller.userId).withResource auditResource day.text
      return events
    else
      v.note .permissionDenied fun e =>
        ((e.withUser caller.userId).withResource auditResource day.text).failed
          "auditor role required"
      throw (.permissionDenied caller.userId ("audit log " ++ day.text))

end SealedVault.Vault
