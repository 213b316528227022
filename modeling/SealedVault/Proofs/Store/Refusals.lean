import SealedVault.Proofs.Results
import SealedVault.Store.Records
import SealedVault.Vault.AuditAccess

/-!
# Where refusals come from

The operations on files and records fail for many reasons, but none of them refuses a caller: that
is left to the check of access. So a refusal tells that the check was made and failed.
-/

namespace SealedVault

/-- The failure is that of a caller who is refused a record. -/
def StorageError.IsRefusal : StorageError → Prop
  | permissionDenied _ _ => True
  | _ => False

/-- The failure is that of a caller who is refused a record, or the audit log. -/
def VaultError.IsRefusal : VaultError → Prop
  | permissionDenied _ _ => True
  | _ => False

theorem VaultError.not_isRefusal_ofStorage {e : StorageError} (h : ¬e.IsRefusal) :
    ¬(ofStorage e).IsRefusal := by
  cases e with
  | permissionDenied user resource => exact absurd trivial h
  | _ => exact id

/-- A result that is no refusal. -/
def NeverRefuses {α : Type} (x : Except StorageError α) : Prop :=
  ∀ e, x = .error e → ¬e.IsRefusal

section

variable {α β : Type}

theorem neverRefuses_ok (a : α) : NeverRefuses (.ok a) := by
  intro e h
  cases h

theorem neverRefuses_error {e : StorageError} (h : ¬e.IsRefusal) :
    NeverRefuses (.error e : Except StorageError α) := by
  rintro _ ⟨⟩
  exact h

theorem NeverRefuses.bind {x : Except StorageError α} {f : α → Except StorageError β}
    (h : NeverRefuses x) (hnext : ∀ a, NeverRefuses (f a)) : NeverRefuses (x >>= f) := by
  cases x with
  | error e => exact neverRefuses_error (h e rfl)
  | ok a => exact hnext a

theorem not_isRefusal_ofFault (fault : Disk.Fault) : ¬(StorageError.ofFault fault).IsRefusal := by
  cases fault <;> exact id

theorem neverRefuses_ofFault (x : Except Disk.Fault α) :
    NeverRefuses (x.mapError StorageError.ofFault) := by
  cases x with
  | error fault => exact neverRefuses_error (not_isRefusal_ofFault fault)
  | ok a => exact neverRefuses_ok a

end

namespace Storage

variable {s : Storage} {kind : Kind} {α : Type}

theorem neverRefuses_checkReady (s : Storage) : NeverRefuses s.checkReady := by
  rw [checkReady]
  split
  · exact neverRefuses_ok ()
  · exact neverRefuses_error id

theorem neverRefuses_readWith (decode : List UInt8 → Option α) (p : Path) (d : Disk) :
    NeverRefuses (s.readWith decode p d) := by
  apply s.neverRefuses_checkReady.bind
  rintro ⟨⟩
  split
  · split
    · exact neverRefuses_ok _
    · exact neverRefuses_error id
  · exact neverRefuses_error id
  · exact neverRefuses_error (not_isRefusal_ofFault _)

theorem neverRefuses_recordPath (s : Storage) (kind : Kind) (id : String) :
    NeverRefuses (s.recordPath kind id) := by
  rw [recordPath]
  split
  · exact neverRefuses_ok _
  · exact neverRefuses_error fun h => h

theorem neverRefuses_presentPath (s : Storage) (kind : Kind) (id : String) (d : Disk) :
    NeverRefuses (s.presentPath kind id d) := by
  apply (s.neverRefuses_recordPath kind id).bind
  intro p
  split
  · exact neverRefuses_ok p
  · exact neverRefuses_error fun h => h

theorem neverRefuses_absentPath (s : Storage) (kind : Kind) (id : String) (d : Disk) :
    NeverRefuses (s.absentPath kind id d) := by
  apply (s.neverRefuses_recordPath kind id).bind
  intro p
  split
  · exact neverRefuses_error fun h => h
  · exact neverRefuses_ok p

theorem neverRefuses_getRecord (s : Storage) (kind : Kind) (id : String) (d : Disk) :
    NeverRefuses (s.getRecord kind id d) :=
  (s.neverRefuses_presentPath kind id d).bind fun p => neverRefuses_readWith _ p d

theorem neverRefuses_listRecords (s : Storage) (kind : Kind) (keep : Record kind → Bool)
    (d : Disk) : NeverRefuses (s.listRecords kind keep d) := by
  have hstems : NeverRefuses (s.listStems (s.layout.kindDirectory kind) Layout.recordExtension d) :=
    s.neverRefuses_checkReady.bind fun _ => neverRefuses_ofFault _
  exact hstems.bind fun ids => neverRefuses_ok _

end Storage

/-! ## Changes -/

namespace DiskAction

variable {α β : Type}

/-- An action that refuses nobody. -/
def NeverRefuses (a : DiskAction α) : Prop := ∀ d, SealedVault.NeverRefuses (a d).1

theorem NeverRefuses.bind {a : DiskAction α} {f : α → DiskAction β} (h : a.NeverRefuses)
    (hnext : ∀ x, (f x).NeverRefuses) : NeverRefuses (a >>= f) := by
  intro d
  rcases hfirst : a d with ⟨e | x, m⟩
  · rw [run_bind_of_error hfirst]
    have hfails := h d
    rw [hfirst] at hfails
    exact neverRefuses_error (hfails e rfl)
  · rw [run_bind_of_ok hfirst]
    exact hnext x m

theorem neverRefuses_ask {f : Disk → Except StorageError α}
    (h : ∀ d, SealedVault.NeverRefuses (f d)) : (ask f).NeverRefuses := h

theorem neverRefuses_change (f : Disk → Except Disk.Fault Disk) : (change f).NeverRefuses := by
  intro d
  rw [change]
  cases f d with
  | ok m => exact neverRefuses_ok ()
  | error fault => exact neverRefuses_error (not_isRefusal_ofFault fault)

theorem neverRefuses_make (f : Disk → Except Disk.Fault Unit × Disk) : (make f).NeverRefuses :=
  fun _ => neverRefuses_ofFault _

end DiskAction

namespace Storage

open DiskAction (neverRefuses_ask neverRefuses_change neverRefuses_make)

variable {kind : Kind}

theorem neverRefuses_replace (s : Storage) (p : Path) (bytes : List UInt8) :
    (s.replace p bytes).NeverRefuses :=
  (neverRefuses_ask fun _ => s.neverRefuses_checkReady).bind fun _ =>
    (neverRefuses_make _).bind fun _ => neverRefuses_change _

theorem neverRefuses_createRecord (s : Storage) (r : Record kind) :
    (s.createRecord r).NeverRefuses :=
  (neverRefuses_ask fun d => s.neverRefuses_absentPath kind r.id d).bind fun p =>
    s.neverRefuses_replace p r.toBytes

theorem neverRefuses_updateRecord (s : Storage) (r : Record kind) :
    (s.updateRecord r).NeverRefuses :=
  (neverRefuses_ask fun d => s.neverRefuses_presentPath kind r.id d).bind fun p =>
    s.neverRefuses_replace p r.toBytes

theorem neverRefuses_deleteRecord (s : Storage) (kind : Kind) (id : String) :
    (s.deleteRecord kind id).NeverRefuses := by
  apply (neverRefuses_ask fun d => s.neverRefuses_presentPath kind id d).bind
  intro p
  exact (neverRefuses_ask fun _ => s.neverRefuses_checkReady).bind fun _ => neverRefuses_change _

end Storage

/-! ## Audit logs -/

theorem Audit.neverRefuses_readContent (bytes : List UInt8) : NeverRefuses (readContent bytes) := by
  have hline (line : String) : NeverRefuses (readLine line) := by
    rw [readLine]
    split
    · exact neverRefuses_ok _
    · exact neverRefuses_error id
  have hlines (lines : List String) : NeverRefuses (lines.mapM readLine) := by
    induction lines with
    | nil => exact neverRefuses_ok []
    | cons line rest ih =>
      rw [List.mapM_cons]
      exact (hline line).bind fun e => ih.bind fun es => neverRefuses_ok (e :: es)
  rw [readContent]
  split
  · exact hlines _
  · exact neverRefuses_error id

theorem Vault.neverRefuses_dayEvents (v : Vault) (day : Calendar.Date) (d : Disk) :
    NeverRefuses (v.dayEvents day d) := by
  have hread : NeverRefuses (Audit.readDay v.storage day d) :=
    (v.storage.neverRefuses_checkReady.bind fun _ => neverRefuses_ofFault _).bind
      Audit.neverRefuses_readContent
  rw [dayEvents]
  split
  · exact neverRefuses_ok []
  · exact hread

end SealedVault
