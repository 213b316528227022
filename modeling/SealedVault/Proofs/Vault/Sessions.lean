import SealedVault.Proofs.Store.Preparation
import SealedVault.Proofs.Vault.Operations
import SealedVault.Proofs.Vault.Reading
import SealedVault.Proofs.Vault.Resealing

/-!
# Sessions

A session is a vault in its world. Requests of any callers are carried out in it one after the
other, and between two of them the service can be replaced, with or without a key. Whatever is
requested, the disk changes in a sequence of effects.
-/

namespace SealedVault

open Layout (AuditOnly)
open Sealing (MasterKey Service)

namespace Vault

variable {v : Vault} {base : Place} {w : World}

theorem perform_map {α : Type} (f : α → Answer) (a : Action α) (w : World) :
    ((f <$> a) w).2 = (a w).2 := by
  rw [run_map]

/-- Storing a record that hangs on nothing, or on a document of the same owner. -/
theorem effects_store
    (h : v.storage.ReadyAt base w.disk) {kind : Kind} (caller : Caller) (owner plaintext : String)
    (fields : Calendar.Timestamp → kind.Fields)
    (hhangs : ∀ now documentId, kind.parent? (fields now) = some documentId →
      ∃ document, v.storage.shelf w.disk .document documentId = some document ∧
        document.owner = owner) :
    v.Effects base w.disk (v.store caller owner plaintext fields w).2.disk := by
  rcases store_cases h kind caller owner plaintext fields hhangs with
    ⟨e, w', hw', hdisk⟩ | ⟨r, w', hw', -, -, -, hstores⟩
  · rw [hw', hdisk]
    exact .refl v base _
  · rw [hw']
    exact hstores.effects

theorem effects_addHanging
    (h : Consistent v.storage base w.disk) {kind : Kind} (caller : Caller)
    (documentId plaintext : String) (fields : Record .document → kind.Fields)
    (hparent : ∀ document, kind.parent? (fields document) = some document.id) :
    v.Effects base w.disk (v.addHanging kind caller documentId plaintext fields w).2.disk := by
  rcases addHanging_cases h kind caller documentId plaintext fields hparent with
    ⟨e, w', hw', haudit⟩ | ⟨document, r, w', hw', -, -, -, -, -, hstores⟩
  · rw [hw']
    exact effects_of_auditOnly haudit
  · rw [hw']
    exact hstores.effects

/-- A request changes the disk in a sequence of effects. -/
theorem effects_perform (h : Consistent v.storage base w.disk) (request : Request) :
    v.Effects base w.disk (v.perform request w).2.disk := by
  cases request with
  | storeClaims caller claims =>
    rw [perform, perform_map]
    exact effects_store h.ready caller _ _ _ fun _ _ hparent => by cases hparent
  | readClaims caller id =>
    rw [perform, perform_map]
    exact effects_of_auditOnly (auditOnly_readOwn h.ready .claims caller id)
  | updateClaims caller id claims =>
    rw [perform, perform_map]
    rcases updateClaims_cases h caller id claims with
      ⟨e, w', hw', haudit⟩ | ⟨old, payload, now, w', hw', -, -, hreplaces⟩
    · rw [hw']
      exact effects_of_auditOnly haudit
    · rw [hw']
      exact hreplaces.effects
  | deleteClaims caller id =>
    rw [perform, perform_map]
    rcases deleteClaims_cases h.ready caller id with ⟨e, w', hw', haudit⟩ | ⟨w', hw', hdeletes⟩
    · rw [hw']
      exact effects_of_auditOnly haudit
    · rw [hw']
      exact hdeletes.effects fun hkind => by cases hkind
  | listClaims caller =>
    rw [perform, perform_map]
    exact effects_of_auditOnly (auditOnly_listOwn h.ready .claims caller)
  | storeDocument caller title contentType data =>
    rw [perform, perform_map]
    exact effects_store h.ready caller _ _ _ fun _ _ hparent => by cases hparent
  | readDocument caller id =>
    rw [perform, perform_map]
    exact effects_of_auditOnly (auditOnly_readOwn h.ready .document caller id)
  | deleteDocument caller id =>
    rw [perform, perform_map]
    rcases deleteDocument_cases h caller id with ⟨e, w', hw', haudit⟩ | ⟨w', hw', heffects, -, -⟩
    · rw [hw']
      exact effects_of_auditOnly haudit
    · rw [hw']
      exact heffects
  | listDocuments caller =>
    rw [perform, perform_map]
    exact effects_of_auditOnly (auditOnly_listOwn h.ready .document caller)
  | addPhoto caller documentId contentType data =>
    rw [perform, perform_map]
    exact effects_addHanging h caller documentId data _ fun _ => rfl
  | readPhoto caller id =>
    rw [perform, perform_map]
    exact effects_of_auditOnly (auditOnly_readHanging h.ready .photo caller id _)
  | listPhotos caller documentId =>
    rw [perform, perform_map]
    exact effects_of_auditOnly (auditOnly_listHanging h.ready .photo caller documentId)
  | addAttachment caller documentId fileName contentType data =>
    rw [perform, perform_map]
    exact effects_addHanging h caller documentId data _ fun _ => rfl
  | readAttachment caller id =>
    rw [perform, perform_map]
    exact effects_of_auditOnly (auditOnly_readHanging h.ready .attachment caller id _)
  | listAttachments caller documentId =>
    rw [perform, perform_map]
    exact effects_of_auditOnly (auditOnly_listHanging h.ready .attachment caller documentId)
  | reseal =>
    rw [perform, perform_map]
    cases hkey : v.service.isEnabled with
    | true =>
      obtain ⟨summary, w', hw', heffects, -⟩ := exists_reseal h.toNamed hkey
      rw [hw']
      exact heffects
    | false =>
      rw [reseal_of_disabled hkey]
      exact .refl v base _
  | auditEvents caller date =>
    rw [perform, perform_map]
    exact effects_of_auditOnly (auditOnly_auditEvents h.ready caller date)

end Vault

/-- What happens in a session. -/
inductive Step where
  /-- A request is carried out. -/
  | request (r : Request)
  /-- The service is replaced. -/
  | rekey (service : Service)

/-- A vault in its world. -/
structure Session where
  vault : Vault
  world : World

namespace Session

/-- What a request is answered with. -/
def answer (s : Session) (r : Request) : Except VaultError Answer :=
  (s.vault.perform r s.world).1

/-- The session after one step. -/
def after (s : Session) : Step → Session
  | .request r => { s with world := (s.vault.perform r s.world).2 }
  | .rekey service => { s with vault := { s.vault with service := service } }

/-- The session after some steps. -/
def run (s : Session) (steps : List Step) : Session := steps.foldl after s

@[simp] theorem run_nil (s : Session) : s.run [] = s := rfl

@[simp] theorem run_cons (s : Session) (step : Step) (steps : List Step) :
    s.run (step :: steps) = (s.after step).run steps := rfl

@[simp] theorem after_storage (s : Session) (step : Step) :
    (s.after step).vault.storage = s.vault.storage := by
  cases step <;> rfl

@[simp] theorem run_storage (s : Session) (steps : List Step) :
    (s.run steps).vault.storage = s.vault.storage := by
  induction steps generalizing s with
  | nil => rfl
  | cons step steps ih => rw [run_cons, ih, after_storage]

/-- The keys that a step configures. -/
def newKeys : Step → List MasterKey
  | .request _ => []
  | .rekey service => service.masterKey.toList

/-- The keys that were configured at the beginning or by one of the steps. -/
def keys (s : Session) (steps : List Step) : List MasterKey :=
  s.vault.service.masterKey.toList ++ steps.flatMap newKeys

/-- The session begins with storage that was just prepared and in which there is no record yet. -/
structure Begins (s : Session) : Prop where
  prepared : ∃ layout before,
    (Storage.fresh layout).prepare before = (.ok s.vault.storage, s.world.disk)
  empty (kind : Kind) (place : Place) :
    s.world.disk.locate (s.vault.storage.layout.kindDirectory kind) = .ok place →
      s.world.disk.fileNames place = []

/-- Storage that was prepared on a disk without files holds no record. -/
theorem begins_of_no_files {s : Session} {layout : Layout} {before : Disk}
    (hprepare : (Storage.fresh layout).prepare before = (.ok s.vault.storage, s.world.disk))
    (hfiles : ∀ place bytes, before.get? place ≠ some (.file bytes)) : s.Begins := by
  refine ⟨⟨layout, before, hprepare⟩, fun kind place _ => ?_⟩
  obtain ⟨-, honly, -⟩ := Storage.readyAt_of_prepare hprepare
  rw [List.eq_nil_iff_forall_not_mem]
  intro name hname
  obtain ⟨bytes, hfile⟩ := Disk.mem_fileNames.mp hname
  exact hfiles _ bytes ((honly.files _ bytes).mp hfile)

/-- An empty disk after the data directory was made. -/
def sampleDisk : Disk := ((Storage.fresh ⟨⟨"/data"⟩⟩).prepare .empty).2

theorem prepare_sampleDisk :
    (Storage.fresh ⟨⟨"/data"⟩⟩).prepare .empty = (.ok ⟨⟨⟨"/data"⟩⟩, true⟩, sampleDisk) := by
  have hok : ((Storage.fresh ⟨⟨"/data"⟩⟩).prepare .empty).1.toOption =
      some ⟨⟨⟨"/data"⟩⟩, true⟩ := by
    decide +kernel
  unfold sampleDisk
  generalize (Storage.fresh ⟨⟨"/data"⟩⟩).prepare .empty = prepared at hok
  obtain ⟨result, d⟩ := prepared
  cases result with
  | error e => cases hok
  | ok s =>
    cases hok
    rfl

/-- The instant at which the year 1970 began. -/
def sampleInstant : Calendar.Timestamp := ⟨⟨1970, 1, 1, by decide⟩, 0, 0, by decide⟩

/-- A session on that disk, in which the clock stands still and ids are counted. -/
def sample (service : Service) : Session where
  vault := ⟨⟨⟨⟨"/data"⟩⟩, true⟩, service, rfl⟩
  world :=
    { disk := sampleDisk
      clock := .ofFunction fun _ => sampleInstant
      recordIds := .ofFunction fun n => "record-" ++ Nat.repr n
      eventIds := .ofFunction fun n => "event-" ++ Nat.repr n
      initials := .ofFunction fun _ => default }

theorem sample_begins (service : Service) : (sample service).Begins := by
  have hprepare : (Storage.fresh ⟨⟨"/data"⟩⟩).prepare .empty =
      (.ok (sample service).vault.storage, (sample service).world.disk) := by
    simp only [sample]
    exact prepare_sampleDisk
  exact begins_of_no_files hprepare Disk.get?_empty_ne_file

end Session

end SealedVault
