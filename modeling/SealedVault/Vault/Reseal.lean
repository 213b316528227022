import SealedVault.Vault.Basic

/-!
# Sealing what is not sealed

A pass over all records that seals the payloads that are stored as they are. A record that cannot
be sealed is counted, and the pass goes on.
-/

namespace SealedVault

open Sealing (Payload)

/-- The counts of a pass. -/
structure ResealSummary where
  /-- The records looked at. -/
  scanned : Nat
  /-- Those that were sealed. -/
  resealed : Nat
  /-- Those that should have been sealed and were not. -/
  failed : Nat
deriving Repr, DecidableEq

namespace ResealSummary

/-- The counts of no records. -/
def zero : ResealSummary := ⟨0, 0, 0⟩

instance : Add ResealSummary :=
  ⟨fun a b => ⟨a.scanned + b.scanned, a.resealed + b.resealed, a.failed + b.failed⟩⟩

/-- The counts of a record that was already sealed. -/
def sealedBefore : ResealSummary := ⟨1, 0, 0⟩

/-- The counts of a record that was sealed now. -/
def sealedNow : ResealSummary := ⟨1, 1, 0⟩

/-- The counts of a record that could not be sealed. -/
def notSealed : ResealSummary := ⟨1, 0, 1⟩

/-- What the audit log says about a pass. -/
def details (s : ResealSummary) : Json.Value :=
  .object [("failed", count s.failed), ("resealed", count s.resealed),
    ("scanned", count s.scanned)]
where
  count (n : Nat) : Json.Value := .number (.int n)

end ResealSummary

namespace Vault

variable {kind : Kind}

/-- Seals the text of a record under its owner's key and stores the record. -/
def resealRecord (v : Vault) (r : Record kind) (plaintext : String) : Action Unit := do
  let payload ← v.sealFor kind r.owner plaintext
  let now ← Action.now
  Action.onDisk (v.storage.updateRecord (r.setPayload payload now))

/-- Seals those of some records that are not sealed. -/
def resealEach (v : Vault) : List (Record kind) → Action ResealSummary
  | [] => pure .zero
  | r :: rest => do
    let counts ← match r.payload with
      | .sealed _ => pure ResealSummary.sealedBefore
      | .plain plaintext => do
        match ← (v.resealRecord r plaintext).attempt with
        | some () => pure ResealSummary.sealedNow
        | none => pure ResealSummary.notSealed
    let more ← v.resealEach rest
    return counts + more

/-- Seals the records of a kind. -/
def resealKind (v : Vault) (kind : Kind) : Action ResealSummary := do
  let records ← Action.ask (v.storage.listAll kind)
  v.resealEach records

/-- Seals the records of several kinds. -/
def resealKinds (v : Vault) : List Kind → Action ResealSummary
  | [] => pure .zero
  | kind :: rest => do
    let counts ← v.resealKind kind
    let more ← v.resealKinds rest
    return counts + more

/-- Seals all records that are not sealed. Without a key there is nothing to do. -/
def reseal (v : Vault) : Action ResealSummary := do
  if v.service.isEnabled then
    let summary ← v.resealKinds Kind.all
    if 0 < summary.resealed ∨ 0 < summary.failed then
      v.note .recordsResealed fun e => e.withDetails summary.details
    return summary
  else
    return .zero

end Vault

end SealedVault
