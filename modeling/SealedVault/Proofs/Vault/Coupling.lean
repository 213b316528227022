import SealedVault.Proofs.Store.Agreement
import SealedVault.Proofs.Vault.Operations

/-!
# Runs in worlds that differ in their disks

Two worlds may differ in their disks alone, and these may be related in a way that is kept by what
is done to records and by noting events. Then the steps of operations have the same results in both
worlds and leave worlds that are related. Where the relation also has the same records found on both
disks, so does every request but the one for audit events.
-/

namespace SealedVault

open Storage (KeepsRelated SameRecords)

variable {R : Disk → Disk → Prop} {α : Type}

/-- The worlds differ in their disks only, and these are related. -/
def World.Related (R : Disk → Disk → Prop) (w w' : World) : Prop :=
  ∃ d', w' = { w with disk := d' } ∧ R w.disk d'

/-! ## Sources and disks -/

namespace Action

theorem coupled_now : Coupled (World.Related R) now := by
  rintro w _ ⟨d', rfl, h⟩
  exact ⟨rfl, d', rfl, h⟩

theorem coupled_newRecordId : Coupled (World.Related R) newRecordId := by
  rintro w _ ⟨d', rfl, h⟩
  exact ⟨rfl, d', rfl, h⟩

theorem coupled_onDisk {a : DiskAction α} (ha : Coupled R a) :
    Coupled (World.Related R) (onDisk a) := by
  rintro w _ ⟨d', rfl, h⟩
  obtain ⟨hresult, hrel⟩ := ha w.disk d' h
  refine ⟨?_, (a d').2, rfl, hrel⟩
  rw [onDisk, onDisk]
  exact congrArg (Except.mapError VaultError.ofStorage) hresult

theorem coupled_ask {f : Disk → Except StorageError α} (hf : ∀ d d', R d d' → f d' = f d) :
    Coupled (World.Related R) (ask f) :=
  coupled_onDisk (DiskAction.coupled_ask hf)

theorem coupled_attempt {S : World → World → Prop} {a : Action α} (ha : Coupled S a) :
    Coupled S a.attempt := by
  intro w w' h
  obtain ⟨hresult, hrel⟩ := ha w w' h
  refine ⟨?_, hrel⟩
  exact congrArg (fun result => Except.ok result.toOption) hresult

end Action

namespace Vault

theorem coupled_sealFor (v : Vault) (kind : Kind) (owner plaintext : String) :
    Coupled (World.Related R) (v.sealFor kind owner plaintext) := by
  rintro w _ ⟨d', rfl, h⟩
  rw [SameRun, sealFor_eq, sealFor_eq]
  exact ⟨rfl, d', rfl, h⟩

end Vault

open SealedVault.Action (coupled_ask coupled_attempt coupled_newRecordId coupled_now coupled_onDisk)

variable {v : Vault} {kind : Kind}

/-! ## Steps that note or change records -/

namespace Storage.KeepsRelated

variable (h : v.storage.KeepsRelated R)

include h

/-- Noting succeeds in both worlds, even where the event gets into only one of the logs. -/
theorem coupled_note (eventType : Audit.EventType) (complete : Audit.Event → Audit.Event) :
    Coupled (World.Related R) (v.note eventType complete) := by
  rintro w _ ⟨d', rfl, hdisks⟩
  rw [SameRun, Vault.note_eq, Vault.note_eq]
  exact ⟨rfl, _, rfl, h.log _ _ _ hdisks⟩

theorem coupled_reveal (caller : Caller) (r : Record kind) (keyOwner : String) :
    Coupled (World.Related R) (v.reveal caller r keyOwner) := by
  rw [Vault.reveal_eq]
  cases v.service.reveal keyOwner r.payload with
  | ok plaintext => exact coupled_pure plaintext
  | error e => exact (h.coupled_note _ _).bind fun _ => coupled_throw _

theorem coupled_revealEach (caller : Caller) (keyOwner : Record kind → String)
    (records : List (Record kind)) :
    Coupled (World.Related R) (v.revealEach caller keyOwner records) := by
  induction records with
  | nil => exact coupled_pure []
  | cons r rest ih =>
    rw [Vault.revealEach]
    apply (coupled_attempt (h.coupled_reveal caller r (keyOwner r))).bind
    intro plaintext
    apply ih.bind
    intro opened
    cases plaintext with
    | none => exact coupled_pure _
    | some plaintext => exact coupled_pure _

theorem coupled_store (caller : Caller) (owner plaintext : String)
    (fields : Calendar.Timestamp → kind.Fields) :
    Coupled (World.Related R) (v.store caller owner plaintext fields) := by
  rw [Vault.store]
  apply (v.coupled_sealFor kind owner plaintext).bind
  intro payload
  apply coupled_newRecordId.bind
  intro id
  apply coupled_now.bind
  intro now
  apply (coupled_onDisk (h.create _)).bind
  intro _
  exact (h.coupled_note _ _).bind fun _ => coupled_pure _

theorem coupled_deleteEach (kind : Kind) (ids : List String) :
    Coupled (World.Related R) (v.deleteEach kind ids) := by
  induction ids with
  | nil => exact coupled_pure ()
  | cons id rest ih =>
    rw [Vault.deleteEach]
    exact (coupled_onDisk (h.delete kind id)).bind fun _ => ih

theorem coupled_resealRecord (r : Record kind) (plaintext : String) :
    Coupled (World.Related R) (v.resealRecord r plaintext) := by
  rw [Vault.resealRecord]
  apply (v.coupled_sealFor kind r.owner plaintext).bind
  intro payload
  apply coupled_now.bind
  intro now
  exact coupled_onDisk (h.update _)

theorem coupled_resealEach (records : List (Record kind)) :
    Coupled (World.Related R) (v.resealEach records) := by
  induction records with
  | nil => exact coupled_pure _
  | cons r rest ih =>
    have hrest (counts : ResealSummary) : Coupled (World.Related R) (do
        let counts ← (pure counts : Action ResealSummary)
        let more ← v.resealEach rest
        pure (counts + more)) :=
      (coupled_pure counts).bind fun _ => ih.bind fun _ => coupled_pure _
    cases hpayload : r.payload with
    | sealed stored =>
      simp only [Vault.resealEach, hpayload]
      exact hrest .sealedBefore
    | plain plaintext =>
      simp only [Vault.resealEach, hpayload]
      apply (coupled_attempt (h.coupled_resealRecord r plaintext)).bind
      intro done
      cases done with
      | some => exact hrest .sealedNow
      | none => exact hrest .notSealed

/-- The audit events of a day are the same where its log reads the same. -/
theorem coupled_auditEvents
    (hday : ∀ day d d', R d d' → v.dayEvents day d' = v.dayEvents day d)
    (caller : Caller) (date : String) :
    Coupled (World.Related R) (v.auditEvents caller date) := by
  rw [Vault.auditEvents]
  cases Calendar.Date.read date with
  | error fault => exact coupled_throw _
  | ok day =>
    by_cases hprivilege : caller.role.hasPrivilege .auditor = true
    · simp only [if_pos hprivilege]
      exact (coupled_ask (hday day)).bind fun events =>
        (h.coupled_note _ _).bind fun _ => coupled_pure events
    · simp only [if_neg hprivilege]
      exact (h.coupled_note _ _).bind fun _ => coupled_throw _

end Storage.KeepsRelated

/-! ## Operations -/

namespace Storage.SameRecords

variable (h : v.storage.SameRecords R)

include h

theorem coupled_authorized (kind : Kind) (caller : Caller) (id : String) :
    Coupled (World.Related R) (v.authorized kind caller id) := by
  rw [Vault.authorized]
  apply (coupled_ask (h.getRecord_eq kind id)).bind
  intro r
  have hauthorize : Coupled (World.Related R) (v.authorize caller r) := by
    rw [Vault.authorize]
    cases r.checkAccess caller with
    | ok => exact coupled_pure ()
    | error e => exact (h.coupled_note _ _).bind fun _ => coupled_throw _
  exact hauthorize.bind fun _ => coupled_pure r

/-- A record is opened, and that it was is noted. -/
theorem coupled_opening (caller : Caller) (r : Record kind) (keyOwner : String) :
    Coupled (World.Related R) (do
      let plaintext ← v.reveal caller r keyOwner
      v.noteSuccess .recordRead caller r
      return (⟨r, plaintext⟩ : Opened kind)) :=
  (h.coupled_reveal caller r keyOwner).bind fun _ =>
    (h.coupled_note _ _).bind fun _ => coupled_pure _

theorem coupled_readOwn (kind : Kind) (caller : Caller) (id : String) :
    Coupled (World.Related R) (v.readOwn kind caller id) := by
  rw [Vault.readOwn]
  apply (h.coupled_authorized kind caller id).bind
  intro r
  exact h.coupled_opening caller r r.owner

theorem coupled_readHanging (kind : Kind) (caller : Caller) (id : String)
    (documentOf : kind.Fields → String) :
    Coupled (World.Related R) (v.readHanging kind caller id documentOf) := by
  rw [Vault.readHanging]
  apply (coupled_ask (h.getRecord_eq kind id)).bind
  intro r
  apply (h.coupled_authorized .document caller (documentOf r.fields)).bind
  intro document
  exact h.coupled_opening caller r document.owner

theorem coupled_listOwn (kind : Kind) (caller : Caller) :
    Coupled (World.Related R) (v.listOwn kind caller) :=
  (coupled_ask (h.listRecords_eq _)).bind fun records =>
    h.coupled_revealEach caller (·.owner) records

theorem coupled_listHanging (kind : Kind) (caller : Caller) (documentId : String) :
    Coupled (World.Related R) (v.listHanging kind caller documentId) := by
  rw [Vault.listHanging]
  apply (h.coupled_authorized .document caller documentId).bind
  intro document
  exact (coupled_ask (h.listRecords_eq _)).bind fun records =>
    h.coupled_revealEach caller _ records

theorem coupled_addHanging (kind : Kind) (caller : Caller) (documentId plaintext : String)
    (fields : Record .document → kind.Fields) :
    Coupled (World.Related R) (v.addHanging kind caller documentId plaintext fields) := by
  rw [Vault.addHanging]
  apply (h.coupled_authorized .document caller documentId).bind
  intro document
  exact h.coupled_store caller document.owner plaintext _

theorem coupled_updateClaims (caller : Caller) (id claims : String) :
    Coupled (World.Related R) (v.updateClaims caller id claims) := by
  rw [Vault.updateClaims]
  apply (h.coupled_authorized .claims caller id).bind
  intro r
  apply (v.coupled_sealFor .claims r.owner claims).bind
  intro payload
  apply coupled_now.bind
  intro now
  apply (coupled_onDisk (h.update _)).bind
  intro _
  exact (h.coupled_note _ _).bind fun _ => coupled_pure _

theorem coupled_deleteClaims (caller : Caller) (id : String) :
    Coupled (World.Related R) (v.deleteClaims caller id) := by
  rw [Vault.deleteClaims]
  apply (h.coupled_authorized .claims caller id).bind
  intro r
  apply (coupled_onDisk (h.delete .claims id)).bind
  intro _
  exact h.coupled_note _ _

theorem coupled_deleteHanging (kind : Kind) (documentId : String) :
    Coupled (World.Related R) (v.deleteHanging kind documentId) := by
  rw [Vault.deleteHanging]
  apply (coupled_ask (h.listRecords_eq _)).bind
  intro records
  exact (h.coupled_deleteEach kind _).bind fun _ => coupled_pure _

theorem coupled_deleteDocument (caller : Caller) (id : String) :
    Coupled (World.Related R) (v.deleteDocument caller id) := by
  rw [Vault.deleteDocument]
  apply (h.coupled_authorized .document caller id).bind
  intro document
  apply (h.coupled_deleteHanging .photo id).bind
  intro photoIds
  apply (h.coupled_deleteHanging .attachment id).bind
  intro attachmentIds
  apply (coupled_onDisk (h.delete .document id)).bind
  intro _
  exact h.coupled_note _ _

theorem coupled_resealKinds (kinds : List Kind) :
    Coupled (World.Related R) (v.resealKinds kinds) := by
  induction kinds with
  | nil => exact coupled_pure _
  | cons kind rest ih =>
    have hkind : Coupled (World.Related R) (v.resealKind kind) :=
      (coupled_ask (h.listRecords_eq _)).bind fun records =>
        h.coupled_resealEach records
    rw [Vault.resealKinds]
    exact hkind.bind fun _ => ih.bind fun _ => coupled_pure _

theorem coupled_reseal : Coupled (World.Related R) v.reseal := by
  rw [Vault.reseal]
  split
  · apply (h.coupled_resealKinds Kind.all).bind
    intro summary
    split
    · exact (h.coupled_note _ _).bind fun _ => coupled_pure _
    · exact coupled_pure summary
  · exact coupled_pure _

/-- Every request but the one for audit events is answered in the same way in both worlds. -/
theorem coupled_perform {request : Request}
    (hrequest : ∀ caller date, request ≠ .auditEvents caller date) :
    Coupled (World.Related R) (v.perform request) := by
  cases request with
  | storeClaims caller claims => exact (h.coupled_store caller caller.userId claims _).map _
  | readClaims caller id => exact (h.coupled_readOwn .claims caller id).map _
  | updateClaims caller id claims => exact (h.coupled_updateClaims caller id claims).map _
  | deleteClaims caller id => exact (h.coupled_deleteClaims caller id).map _
  | listClaims caller => exact (h.coupled_listOwn .claims caller).map _
  | storeDocument caller title contentType data =>
    exact (h.coupled_store caller caller.userId data _).map _
  | readDocument caller id => exact (h.coupled_readOwn .document caller id).map _
  | deleteDocument caller id => exact (h.coupled_deleteDocument caller id).map _
  | listDocuments caller => exact (h.coupled_listOwn .document caller).map _
  | addPhoto caller documentId contentType data =>
    exact (h.coupled_addHanging .photo caller documentId data _).map _
  | readPhoto caller id => exact (h.coupled_readHanging .photo caller id _).map _
  | listPhotos caller documentId => exact (h.coupled_listHanging .photo caller documentId).map _
  | addAttachment caller documentId fileName contentType data =>
    exact (h.coupled_addHanging .attachment caller documentId data _).map _
  | readAttachment caller id => exact (h.coupled_readHanging .attachment caller id _).map _
  | listAttachments caller documentId =>
    exact (h.coupled_listHanging .attachment caller documentId).map _
  | reseal => exact h.coupled_reseal.map _
  | auditEvents caller date => exact absurd rfl (hrequest caller date)

/-- So is that one where the logs read the same. -/
theorem coupled_perform_of_sameDays
    (hday : ∀ day d d', R d d' → v.dayEvents day d' = v.dayEvents day d) (request : Request) :
    Coupled (World.Related R) (v.perform request) := by
  by_cases hrequest : ∀ caller date, request ≠ .auditEvents caller date
  · exact h.coupled_perform hrequest
  · push Not at hrequest
    obtain ⟨caller, date, rfl⟩ := hrequest
    exact (h.coupled_auditEvents hday caller date).map _

end Storage.SameRecords

/-! ## One run -/

/-- A property of disks that is kept when a record is stored, replaced or deleted, and when an event
is noted, whether that succeeds or not. -/
structure Storage.Keeps (s : Storage) (I : Disk → Prop) : Prop where
  create {kind : Kind} (r : Record kind) (d : Disk) : I d → I (s.createRecord r d).2
  update {kind : Kind} (r : Record kind) (d : Disk) : I d → I (s.updateRecord r d).2
  delete (kind : Kind) (id : String) (d : Disk) : I d → I (s.deleteRecord kind id d).2
  log (e : Audit.Event) (d : Disk) : I d → I (Audit.log s e d).2

/-- Disks that are equal and have such a property stay so. -/
theorem Storage.Keeps.sameRecords {s : Storage} {I : Disk → Prop} (h : s.Keeps I) :
    s.SameRecords fun d d' => d' = d ∧ I d := by
  have hsame {a : DiskAction Unit} (ha : ∀ d, I d → I (a d).2) :
      Coupled (fun d d' => d' = d ∧ I d) a := by
    rintro d _ ⟨rfl, hd⟩
    exact ⟨rfl, rfl, ha _ hd⟩
  exact
    { create := fun r => hsame (h.create r)
      update := fun r => hsame (h.update r)
      delete := fun kind id => hsame (h.delete kind id)
      log := by
        rintro e d _ ⟨rfl, hd⟩
        exact ⟨rfl, h.log e _ hd⟩
      getRecord_eq := by
        rintro kind id d _ ⟨rfl, -⟩
        rfl
      listRecords_eq := by
        rintro kind keep d _ ⟨rfl, -⟩
        rfl
      hasRecord_eq := by
        rintro kind id d _ ⟨rfl, -⟩
        rfl }

/-- What is kept by changes of records and by noting is kept by every request. -/
theorem Vault.keeps_perform {v : Vault} {I : Disk → Prop} {w : World} (h : v.storage.Keeps I)
    (request : Request) (hw : I w.disk) : I (v.perform request w).2.disk := by
  have hcoupled : Coupled (World.Related fun d d' => d' = d ∧ I d) (v.perform request) := by
    apply h.sameRecords.coupled_perform_of_sameDays
    rintro day d _ ⟨rfl, -⟩
    rfl
  obtain ⟨-, d', -, -, hkept⟩ := hcoupled w w ⟨w.disk, rfl, rfl, hw⟩
  exact hkept

end SealedVault
