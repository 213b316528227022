import SealedVault.Cipher.Block
import SealedVault.Disk.Basic
import SealedVault.Store.Storage
import SealedVault.Vault.Error

/-!
# The world of the vault

What the operations of the vault act on: a disk, and the sources from which they draw instants,
ids and initial blocks. An operation is a function of its world, so two runs can be compared.
-/

namespace SealedVault

/-- An endless supply of values, of which some have been drawn. -/
structure Source (α : Type) where
  value : Nat → α
  drawn : Nat

namespace Source

variable {α : Type}

/-- A source from which nothing has been drawn. -/
def ofFunction (value : Nat → α) : Source α := ⟨value, 0⟩

/-- The next value. -/
def next (s : Source α) : α := s.value s.drawn

/-- The source after its next value was drawn. -/
def rest (s : Source α) : Source α := { s with drawn := s.drawn + 1 }

end Source

/-- All that an operation can see and change. -/
structure World where
  disk : Disk
  /-- The readings of the clock. -/
  clock : Source Calendar.Timestamp
  /-- The ids of new records. -/
  recordIds : Source String
  /-- The ids of new audit events. -/
  eventIds : Source String
  /-- The initial blocks of new envelopes. -/
  initials : Source Cipher.Block

/-- An operation that can fail. What it did before a failure stays done. -/
abbrev Action (α : Type) := ExceptT VaultError (StateM World) α

namespace Action

/-- Reads the clock. -/
def now : Action Calendar.Timestamp := fun w => (.ok w.clock.next, { w with clock := w.clock.rest })

/-- Draws the id of a new record. -/
def newRecordId : Action String := fun w =>
  (.ok w.recordIds.next, { w with recordIds := w.recordIds.rest })

/-- Draws the id of a new audit event. -/
def newEventId : Action String := fun w =>
  (.ok w.eventIds.next, { w with eventIds := w.eventIds.rest })

/-- Draws the initial block of a new envelope. -/
def newInitial : Action Cipher.Block := fun w =>
  (.ok w.initials.next, { w with initials := w.initials.rest })

/-- Acts on the disk. -/
def onDisk {α : Type} (a : DiskAction α) : Action α := fun w =>
  let (result, d) := a w.disk
  (result.mapError .ofStorage, { w with disk := d })

/-- Asks the disk. -/
def ask {α : Type} (f : Disk → Except StorageError α) : Action α := onDisk (.ask f)

/-- Acts on the disk and goes on whether that succeeds or not. -/
def onDiskIgnoring (a : DiskAction Unit) : Action Unit := fun w =>
  (.ok (), { w with disk := (a w.disk).2 })

/-- Takes a result as it is and leaves the world as it is. -/
def ofExcept {α : Type} (result : Except VaultError α) : Action α := fun w => (result, w)

/-- Seals or opens. -/
def sealing {α : Type} (result : Except Sealing.SealingError α) : Action α :=
  ofExcept (result.mapError .sealing)

/-- Goes on with nothing where an action fails. -/
def attempt {α : Type} (a : Action α) : Action (Option α) := fun w =>
  let (result, w) := a w
  (.ok result.toOption, w)

end Action

end SealedVault
