import SealedVault.Proofs.Vault.Operations
import SealedVault.Proofs.Vault.Twins

/-!
# Twin vaults in lockstep

Every step and every operation is carried out in twin vaults side by side, each with its own texts
and initial blocks. From twin worlds it fails in both, in the same way, or in neither, and it leaves
twin worlds: the same is noted in both audit logs.
-/

namespace SealedVault

open Sealing (MasterKey Payload)

namespace Vault

variable {key key' : MasterKey} {v v' : Vault} {base : Place} {w w' : World} {kind : Kind}
  {caller : Caller} {α β : Type}

/-! ## Steps -/

theorem pairedRun_now (h : v.TwinWorlds base key key' w w') :
    PairedRun (v.TwinWorlds base key key') Eq Action.now Action.now w w' := by
  refine pairedRun_of_eq rfl rfl ?_ ⟨?_, h.recordIds_eq, h.eventIds_eq, h.disk⟩
  · rw [h.clock_eq]
    exact .ok rfl
  · exact congrArg Source.rest h.clock_eq

theorem pairedRun_newRecordId (h : v.TwinWorlds base key key' w w') :
    PairedRun (v.TwinWorlds base key key') Eq Action.newRecordId Action.newRecordId w w' := by
  refine pairedRun_of_eq rfl rfl ?_ ⟨h.clock_eq, ?_, h.eventIds_eq, h.disk⟩
  · rw [h.recordIds_eq]
    exact .ok rfl
  · exact congrArg Source.rest h.recordIds_eq

theorem pairedRun_onDisk {Q : α → β → Prop} {a : DiskAction α} {b : DiskAction β}
    (h : v.TwinWorlds base key key' w w')
    (hrun : PairedRun (v.storage.MatchAt base (Record.Twin key key')) Q a b w.disk w'.disk) :
    PairedRun (v.TwinWorlds base key key') Q (Action.onDisk a) (Action.onDisk b) w w' :=
  pairedRun_of_eq rfl rfl (hrun.1.mapError _) ⟨h.clock_eq, h.recordIds_eq, h.eventIds_eq, hrun.2⟩

theorem pairedRun_ask {Q : α → β → Prop} {f : Disk → Except StorageError α}
    {g : Disk → Except StorageError β} (h : v.TwinWorlds base key key' w w')
    (hresults : RelatedResults Q (f w.disk) (g w'.disk)) :
    PairedRun (v.TwinWorlds base key key') Q (Action.ask f) (Action.ask g) w w' :=
  pairedRun_onDisk h ⟨hresults, h.disk⟩

/-- The audit logs are the same before, and the same is written to them. -/
theorem pairedRun_note (hv : v.Twin key key' v') (h : v.TwinWorlds base key key' w w')
    (eventType : Audit.EventType) (complete : Audit.Event → Audit.Event) :
    PairedRun (v.TwinWorlds base key key') Eq (v.note eventType complete)
      (v'.note eventType complete) w w' := by
  refine pairedRun_of_eq (note_eq v eventType complete w) (note_eq v' eventType complete w')
    (.ok rfl) ⟨?_, h.recordIds_eq, ?_, ?_⟩
  · exact congrArg Source.rest h.clock_eq
  · exact congrArg Source.rest h.eventIds_eq
  · have hnoted := Audit.extendsAudit_log h.disk.ready
      (complete (.plain w.eventIds.next w.clock.next eventType))
    have hnoted' := Audit.extendsAudit_log h.disk.ready'
      (complete (.plain w.eventIds.next w.clock.next eventType))
    rw [← h.disk.auditView_eq] at hnoted'
    rw [hv.storage_eq, h.clock_eq, h.eventIds_eq]
    exact h.disk.of_extendsAudit hnoted hnoted'

theorem pairedRun_noteSuccess (hv : v.Twin key key' v') (h : v.TwinWorlds base key key' w w')
    (eventType : Audit.EventType) (caller : Caller) {r r' : Record kind}
    (hr : Record.Twin key key' kind r r') :
    PairedRun (v.TwinWorlds base key key') Eq (v.noteSuccess eventType caller r)
      (v'.noteSuccess eventType caller r') w w' := by
  rw [noteSuccess, noteSuccess, protectionDetails, protectionDetails, hr.id_eq,
    hr.payload.protection_eq]
  exact pairedRun_note hv h eventType _

theorem pairedRun_sealFor (hv : v.Twin key key' v') (h : v.TwinWorlds base key key' w w')
    (kind : Kind) (owner plaintext plaintext' : String) :
    PairedRun (v.TwinWorlds base key key') (Payload.Twin key key' owner)
      (v.sealFor kind owner plaintext) (v'.sealFor kind owner plaintext') w w' :=
  pairedRun_of_eq (sealFor_eq v kind owner plaintext w) (sealFor_eq v' kind owner plaintext' w')
    ((hv.service.relatedResults_protect _ _ owner plaintext plaintext').mapError _)
    ⟨h.clock_eq, h.recordIds_eq, h.eventIds_eq, h.disk⟩

/-- Payloads that are opened with the keys of their owners open in both vaults, or it is noted in
both why they do not. -/
theorem pairedRun_reveal (hv : v.Twin key key' v') (h : v.TwinWorlds base key key' w w')
    (caller : Caller) {r r' : Record kind} (hr : Record.Twin key key' kind r r') :
    PairedRun (v.TwinWorlds base key key') (fun _ _ => True) (v.reveal caller r r.owner)
      (v'.reveal caller r' r.owner) w w' := by
  have hresults := hv.service.relatedResults_reveal hr.payload
  cases hreveal : v.service.reveal r.owner r.payload with
  | ok plaintext =>
    rw [hreveal] at hresults
    generalize hreveal' : v'.service.reveal r.owner r'.payload = result' at hresults
    cases hresults with
    | ok =>
      exact pairedRun_of_eq (reveal_of_ok hreveal) (reveal_of_ok hreveal') (.ok trivial) h
  | error e =>
    rw [hreveal] at hresults
    generalize hreveal' : v'.service.reveal r.owner r'.payload = result' at hresults
    cases hresults with
    | error =>
      rw [reveal_eq, reveal_eq, hreveal, hreveal']
      simp only [noteUnopened, failureDetails]
      rw [hr.id_eq, hr.payload.protection_eq]
      apply (pairedRun_note hv h _ _).bind
      intro _ _ t t' _ _ _ ht
      exact pairedRun_throw _ ht

/-- A caller is let through by both vaults or by neither. -/
theorem pairedRun_authorized (hv : v.Twin key key' v') (h : v.TwinWorlds base key key' w w')
    (kind : Kind) (caller : Caller) (id : String) :
    PairedRun (v.TwinWorlds base key key') (Record.Twin key key' kind)
      (v.authorized kind caller id) (v'.authorized kind caller id) w w' := by
  rw [authorized, authorized, hv.storage_eq]
  apply (pairedRun_ask h (h.disk.relatedResults_getRecord kind id)).bind
  intro r r' t t' _ _ hr ht
  have hauthorize : PairedRun (v.TwinWorlds base key key') Eq (v.authorize caller r)
      (v'.authorize caller r') t t' := by
    have hgrants_eq := hr.grants_eq caller
    cases hgrants : r.grants caller with
    | true =>
      rw [hgrants] at hgrants_eq
      exact pairedRun_of_eq (authorize_of_grants hgrants) (authorize_of_grants hgrants_eq)
        (.ok rfl) ht
    | false =>
      rw [hgrants] at hgrants_eq
      have hdenied' := authorize_of_not_grants (v := v') (w := t') hgrants_eq
      rw [hr.label_eq, noteDenied, hr.id_eq] at hdenied'
      exact pairedRun_of_eq (authorize_of_not_grants hgrants) hdenied' (.error _)
        (pairedRun_note hv ht _ _).2
  apply hauthorize.bind
  intro _ _ u u' _ _ _ hu
  exact pairedRun_pure hr hu

/-! ## Operations on one record -/

/-- Records of the same owner that hang on the same document are stored in both vaults or in
neither. -/
theorem pairedRun_store (hv : v.Twin key key' v') (h : v.TwinWorlds base key key' w w')
    (caller : Caller) (owner plaintext plaintext' : String)
    {fields fields' : Calendar.Timestamp → kind.Fields}
    (hparent : ∀ now, kind.parent? (fields' now) = kind.parent? (fields now)) :
    PairedRun (v.TwinWorlds base key key') (fun _ _ => True) (v.store caller owner plaintext fields)
      (v'.store caller owner plaintext' fields') w w' := by
  rw [store, store, hv.storage_eq]
  apply (pairedRun_sealFor hv h kind owner plaintext plaintext').bind
  intro payload payload' t₁ t₁' _ _ hpayload h₁
  apply (pairedRun_newRecordId h₁).bind
  rintro id _ t₂ t₂' - - rfl h₂
  apply (pairedRun_now h₂).bind
  rintro now _ t₃ t₃' - - rfl h₃
  have hr : Record.Twin key key' kind ⟨id, owner, payload, now, fields now⟩
      ⟨id, owner, payload', now, fields' now⟩ := ⟨rfl, rfl, hparent now, hpayload⟩
  apply (pairedRun_onDisk h₃ (Storage.pairedRun_createRecord h₃.disk hr.id_eq hr)).bind
  intro _ _ t₄ t₄' _ _ _ h₄
  apply (pairedRun_noteSuccess hv h₄ .recordStored caller hr).bind
  intro _ _ t₅ t₅' _ _ _ h₅
  exact pairedRun_pure trivial h₅

/-- Opening a record and noting it. -/
theorem pairedRun_revealAndNote (hv : v.Twin key key' v') (h : v.TwinWorlds base key key' w w')
    (caller : Caller) {r r' : Record kind} (hr : Record.Twin key key' kind r r')
    {keyOwner keyOwner' : String} (hkey : keyOwner = r.owner) (hkey' : keyOwner' = r.owner) :
    PairedRun (v.TwinWorlds base key key') (fun _ _ => True)
      (do
        let plaintext ← v.reveal caller r keyOwner
        v.noteSuccess .recordRead caller r
        return (⟨r, plaintext⟩ : Opened kind))
      (do
        let plaintext ← v'.reveal caller r' keyOwner'
        v'.noteSuccess .recordRead caller r'
        return (⟨r', plaintext⟩ : Opened kind)) w w' := by
  rw [hkey, hkey']
  apply (pairedRun_reveal hv h caller hr).bind
  intro plaintext plaintext' t t' _ _ _ ht
  apply (pairedRun_noteSuccess hv ht .recordRead caller hr).bind
  intro _ _ u u' _ _ _ hu
  exact pairedRun_pure trivial hu

theorem pairedRun_readOwn (hv : v.Twin key key' v') (h : v.TwinWorlds base key key' w w')
    (kind : Kind) (caller : Caller) (id : String) :
    PairedRun (v.TwinWorlds base key key') (fun _ _ => True) (v.readOwn kind caller id)
      (v'.readOwn kind caller id) w w' := by
  rw [readOwn, readOwn]
  apply (pairedRun_authorized hv h kind caller id).bind
  intro r r' t t' _ _ hr ht
  exact pairedRun_revealAndNote hv ht caller hr rfl hr.owner_eq

theorem pairedRun_readHanging (hv : v.Twin key key' v') (h : v.TwinWorlds base key key' w w')
    (hd : Consistent v.storage base w.disk) (kind : Kind) (caller : Caller) (id : String)
    (documentOf : kind.Fields → String)
    (hparent : ∀ r : Record kind, r.parent? = some (documentOf r.fields)) :
    PairedRun (v.TwinWorlds base key key') (fun _ _ => True)
      (v.readHanging kind caller id documentOf) (v'.readHanging kind caller id documentOf)
      w w' := by
  rw [readHanging, readHanging, hv.storage_eq]
  apply (pairedRun_ask h (h.disk.relatedResults_getRecord kind id)).bind
  intro r r' t t' hask _ hr ht
  obtain ⟨rfl, hget⟩ := of_ask_eq_ok hask
  have hdocument_eq : documentOf r'.fields = documentOf r.fields := by
    have hsame := hr.parent?_eq
    rwa [hparent, hparent, Option.some.injEq] at hsame
  rw [hdocument_eq]
  apply (pairedRun_authorized hv ht .document caller (documentOf r.fields)).bind
  intro document document' u u' hauthorized _ hdocuments hu
  obtain ⟨-, hdocument, -⟩ := shelf_of_authorized hauthorized
  have howner : document.owner = r.owner :=
    hd.owner_eq (Storage.shelf_eq_some_iff_getRecord.mpr hget) (hparent r) hdocument
  exact pairedRun_revealAndNote hv hu caller hr howner (hdocuments.owner_eq.trans howner)

theorem pairedRun_updateClaims (hv : v.Twin key key' v') (h : v.TwinWorlds base key key' w w')
    (caller : Caller) (id claims claims' : String) :
    PairedRun (v.TwinWorlds base key key') (fun _ _ => True) (v.updateClaims caller id claims)
      (v'.updateClaims caller id claims') w w' := by
  rw [updateClaims, updateClaims, hv.storage_eq]
  apply (pairedRun_authorized hv h .claims caller id).bind
  intro r r' t₁ t₁' _ _ hr h₁
  rw [hr.owner_eq]
  apply (pairedRun_sealFor hv h₁ .claims r.owner claims claims').bind
  intro payload payload' t₂ t₂' _ _ hpayload h₂
  apply (pairedRun_now h₂).bind
  rintro now _ t₃ t₃' - - rfl h₃
  have hnew := hr.setPayload hpayload now
  apply (pairedRun_onDisk h₃ (Storage.pairedRun_updateRecord h₃.disk hnew.id_eq hnew)).bind
  intro _ _ t₄ t₄' _ _ _ h₄
  apply (pairedRun_noteSuccess hv h₄ .recordUpdated caller hnew).bind
  intro _ _ t₅ t₅' _ _ _ h₅
  exact pairedRun_pure trivial h₅

theorem pairedRun_deleteClaims (hv : v.Twin key key' v') (h : v.TwinWorlds base key key' w w')
    (caller : Caller) (id : String) :
    PairedRun (v.TwinWorlds base key key') Eq (v.deleteClaims caller id)
      (v'.deleteClaims caller id) w w' := by
  rw [deleteClaims, deleteClaims, hv.storage_eq]
  apply (pairedRun_authorized hv h .claims caller id).bind
  intro r r' t t' _ _ hr ht
  apply (pairedRun_onDisk ht (Storage.pairedRun_deleteRecord ht.disk .claims id)).bind
  intro _ _ u u' _ _ _ hu
  exact pairedRun_noteSuccess hv hu .recordDeleted caller hr

theorem pairedRun_addHanging (hv : v.Twin key key' v') (h : v.TwinWorlds base key key' w w')
    (kind : Kind) (caller : Caller) (documentId plaintext plaintext' : String)
    {fields fields' : Record .document → kind.Fields}
    (hparent : ∀ document document', Record.Twin key key' .document document document' →
      kind.parent? (fields' document') = kind.parent? (fields document)) :
    PairedRun (v.TwinWorlds base key key') (fun _ _ => True)
      (v.addHanging kind caller documentId plaintext fields)
      (v'.addHanging kind caller documentId plaintext' fields') w w' := by
  rw [addHanging, addHanging]
  apply (pairedRun_authorized hv h .document caller documentId).bind
  intro document document' t t' _ _ hdocuments ht
  rw [hdocuments.owner_eq]
  exact pairedRun_store hv ht caller document.owner plaintext plaintext' fun _ =>
    hparent document document' hdocuments

/-! ## Operations on several records -/

/-- The induction is on the two lists side by side. A record that does not open is passed over in
both vaults. -/
theorem pairedRun_revealEach (hv : v.Twin key key' v') (h : v.TwinWorlds base key key' w w')
    (caller : Caller) {keyOwner keyOwner' : Record kind → String} {rs rs' : List (Record kind)}
    (hrs : List.Forall₂ (Record.Twin key key' kind) rs rs')
    (hkey : ∀ r ∈ rs, keyOwner r = r.owner)
    (hkey' : ∀ r r', Record.Twin key key' kind r r' → keyOwner' r' = keyOwner r) :
    PairedRun (v.TwinWorlds base key key') (fun _ _ => True) (v.revealEach caller keyOwner rs)
      (v'.revealEach caller keyOwner' rs') w w' := by
  induction hrs generalizing w w' with
  | nil => exact pairedRun_pure trivial h
  | @cons r r' rest rest' hr _ ih =>
    rw [revealEach, revealEach, hkey' r r' hr, hkey r List.mem_cons_self]
    apply (pairedRun_attempt (pairedRun_reveal hv h caller hr)).bind
    intro opened opened' t t' _ _ hopened ht
    apply (ih ht fun r hr => hkey r (List.mem_cons_of_mem _ hr)).bind
    intro more more' u u' _ _ _ hu
    cases hopened with
    | none => exact pairedRun_pure trivial hu
    | some => exact pairedRun_pure trivial hu

theorem pairedRun_listOwn (hv : v.Twin key key' v') (h : v.TwinWorlds base key key' w w')
    (kind : Kind) (caller : Caller) :
    PairedRun (v.TwinWorlds base key key') (fun _ _ => True) (v.listOwn kind caller)
      (v'.listOwn kind caller) w w' := by
  rw [listOwn, listOwn, hv.storage_eq]
  have hlists : RelatedResults (List.Forall₂ (Record.Twin key key' kind))
      (v.storage.listByOwner kind caller.userId w.disk)
      (v.storage.listByOwner kind caller.userId w'.disk) :=
    h.disk.relatedResults_listRecords fun r r' hr => by rw [hr.owner_eq]
  apply (pairedRun_ask h hlists).bind
  intro rs rs' t t' _ _ hrs ht
  exact pairedRun_revealEach hv ht caller hrs (fun r _ => rfl) fun r r' hr => hr.owner_eq

theorem relatedResults_listByDocument (h : v.TwinWorlds base key key' w w') (kind : Kind)
    (documentId : String) :
    RelatedResults (List.Forall₂ (Record.Twin key key' kind))
      (v.storage.listByDocument kind documentId w.disk)
      (v.storage.listByDocument kind documentId w'.disk) :=
  h.disk.relatedResults_listRecords fun r r' hr => by rw [hr.parent?_eq]

theorem pairedRun_listHanging (hv : v.Twin key key' v') (h : v.TwinWorlds base key key' w w')
    (hd : Consistent v.storage base w.disk) (kind : Kind) (caller : Caller) (documentId : String) :
    PairedRun (v.TwinWorlds base key key') (fun _ _ => True)
      (v.listHanging kind caller documentId) (v'.listHanging kind caller documentId) w w' := by
  rw [listHanging, listHanging, hv.storage_eq]
  apply (pairedRun_authorized hv h .document caller documentId).bind
  intro document document' t t' hauthorized _ hdocuments ht
  obtain ⟨rfl, hdocument, -⟩ := shelf_of_authorized hauthorized
  apply (pairedRun_ask ht (relatedResults_listByDocument ht kind documentId)).bind
  intro rs rs' u u' hask _ hrs hu
  refine pairedRun_revealEach hv hu caller hrs (fun r hr => ?_) fun _ _ _ => hdocuments.owner_eq
  obtain ⟨-, hlist⟩ := of_ask_eq_ok hask
  obtain ⟨found, hfound, hmem, -⟩ := Storage.exists_listRecords ht.disk.ready kind
    fun r => r.parent? = some documentId
  rw [Storage.listByDocument, hfound] at hlist
  cases hlist
  obtain ⟨hparent, id, hshelf⟩ := (hmem r).mp hr
  exact hd.owner_eq hshelf (of_decide_eq_true hparent) hdocument

theorem pairedRun_deleteEach (hv : v.Twin key key' v') (h : v.TwinWorlds base key key' w w')
    (kind : Kind) (ids : List String) :
    PairedRun (v.TwinWorlds base key key') Eq (v.deleteEach kind ids) (v'.deleteEach kind ids)
      w w' := by
  induction ids generalizing w w' with
  | nil => exact pairedRun_pure rfl h
  | cons id rest ih =>
    rw [deleteEach, deleteEach, hv.storage_eq]
    apply (pairedRun_onDisk h (Storage.pairedRun_deleteRecord h.disk kind id)).bind
    intro _ _ t t' _ _ _ ht
    exact ih ht

theorem pairedRun_deleteHanging (hv : v.Twin key key' v') (h : v.TwinWorlds base key key' w w')
    (kind : Kind) (documentId : String) :
    PairedRun (v.TwinWorlds base key key') Eq (v.deleteHanging kind documentId)
      (v'.deleteHanging kind documentId) w w' := by
  rw [deleteHanging, deleteHanging, hv.storage_eq]
  apply (pairedRun_ask h (relatedResults_listByDocument h kind documentId)).bind
  intro rs rs' t t' _ _ hrs ht
  rw [Record.map_id_eq_of_twins hrs]
  apply (pairedRun_deleteEach hv ht kind _).bind
  intro _ _ u u' _ _ _ hu
  exact pairedRun_pure rfl hu

theorem pairedRun_deleteDocument (hv : v.Twin key key' v') (h : v.TwinWorlds base key key' w w')
    (caller : Caller) (id : String) :
    PairedRun (v.TwinWorlds base key key') Eq (v.deleteDocument caller id)
      (v'.deleteDocument caller id) w w' := by
  rw [deleteDocument, deleteDocument, hv.storage_eq]
  apply (pairedRun_authorized hv h .document caller id).bind
  intro document document' t₁ t₁' _ _ hdocuments h₁
  apply (pairedRun_deleteHanging hv h₁ .photo id).bind
  rintro photoIds _ t₂ t₂' - - rfl h₂
  apply (pairedRun_deleteHanging hv h₂ .attachment id).bind
  rintro attachmentIds _ t₃ t₃' - - rfl h₃
  apply (pairedRun_onDisk h₃ (Storage.pairedRun_deleteRecord h₃.disk .document id)).bind
  intro _ _ t₄ t₄' _ _ _ h₄
  rw [hdocuments.id_eq]
  exact pairedRun_note hv h₄ _ _

/-! ## Sealing what is not sealed -/

theorem pairedRun_resealRecord (hv : v.Twin key key' v') (h : v.TwinWorlds base key key' w w')
    {r r' : Record kind} (hr : Record.Twin key key' kind r r') (plaintext plaintext' : String) :
    PairedRun (v.TwinWorlds base key key') Eq (v.resealRecord r plaintext)
      (v'.resealRecord r' plaintext') w w' := by
  rw [resealRecord, resealRecord, hv.storage_eq, hr.owner_eq]
  apply (pairedRun_sealFor hv h kind r.owner plaintext plaintext').bind
  intro payload payload' t t' _ _ hpayload ht
  apply (pairedRun_now ht).bind
  rintro now _ u u' - - rfl hu
  have hnew := hr.setPayload hpayload now
  exact pairedRun_onDisk hu (Storage.pairedRun_updateRecord hu.disk hnew.id_eq hnew)

/-- The induction is on the two lists side by side, and the counts stay the same. -/
theorem pairedRun_resealEach (hv : v.Twin key key' v') (h : v.TwinWorlds base key key' w w')
    {rs rs' : List (Record kind)} (hrs : List.Forall₂ (Record.Twin key key' kind) rs rs') :
    PairedRun (v.TwinWorlds base key key') Eq (v.resealEach rs) (v'.resealEach rs') w w' := by
  induction hrs generalizing w w' with
  | nil => exact pairedRun_pure rfl h
  | @cons r r' rest rest' hr _ ih =>
    have hrest (counts : ResealSummary) {t t' : World} (ht : v.TwinWorlds base key key' t t') :
        PairedRun (v.TwinWorlds base key key') Eq
          (do
            let counts ← (pure counts : Action ResealSummary)
            let more ← v.resealEach rest
            pure (counts + more))
          (do
            let counts ← (pure counts : Action ResealSummary)
            let more ← v'.resealEach rest'
            pure (counts + more)) t t' := by
      apply (ih ht).bind
      rintro more _ u u' - - rfl hu
      exact pairedRun_pure rfl hu
    rw [resealEach, resealEach]
    have hpayload := hr.payload
    generalize r.payload = payload at hpayload
    generalize r'.payload = payload' at hpayload
    cases hpayload with
    | sealed => exact hrest .sealedBefore h
    | plain text text' =>
      apply (pairedRun_attempt (pairedRun_resealRecord hv h hr text text')).bind
      intro done done' t t' _ _ hdone ht
      cases hdone with
      | none => exact hrest .notSealed ht
      | some => exact hrest .sealedNow ht

theorem pairedRun_resealKinds (hv : v.Twin key key' v') (h : v.TwinWorlds base key key' w w')
    (kinds : List Kind) :
    PairedRun (v.TwinWorlds base key key') Eq (v.resealKinds kinds) (v'.resealKinds kinds)
      w w' := by
  induction kinds generalizing w w' with
  | nil => exact pairedRun_pure rfl h
  | cons kind rest ih =>
    have hkind : PairedRun (v.TwinWorlds base key key') Eq (v.resealKind kind)
        (v'.resealKind kind) w w' := by
      rw [resealKind, resealKind, hv.storage_eq]
      apply (pairedRun_ask h (h.disk.relatedResults_listRecords fun _ _ _ => rfl)).bind
      intro rs rs' t t' _ _ hrs ht
      exact pairedRun_resealEach hv ht hrs
    rw [resealKinds, resealKinds]
    apply hkind.bind
    rintro counts _ t t' - - rfl ht
    apply (ih ht).bind
    rintro more _ u u' - - rfl hu
    exact pairedRun_pure rfl hu

theorem pairedRun_reseal (hv : v.Twin key key' v') (h : v.TwinWorlds base key key' w w') :
    PairedRun (v.TwinWorlds base key key') Eq v.reseal v'.reseal w w' := by
  rw [reseal, reseal, hv.service.isEnabled_eq]
  split
  · apply (pairedRun_resealKinds hv h Kind.all).bind
    rintro summary _ t t' - - rfl ht
    split
    · apply (pairedRun_note hv ht _ _).bind
      intro _ _ u u' _ _ _ hu
      exact pairedRun_pure rfl hu
    · exact pairedRun_pure rfl ht
  · exact pairedRun_pure rfl h

/-! ## The audit log -/

theorem pairedRun_auditEvents (hv : v.Twin key key' v') (h : v.TwinWorlds base key key' w w')
    (caller : Caller) (date : String) :
    PairedRun (v.TwinWorlds base key key') Eq (v.auditEvents caller date)
      (v'.auditEvents caller date) w w' := by
  rw [auditEvents, auditEvents]
  cases Calendar.Date.read date with
  | error fault => exact pairedRun_throw _ h
  | ok day =>
    by_cases hprivilege : caller.role.hasPrivilege .auditor = true
    · simp only [if_pos hprivilege]
      have hevents : v'.dayEvents day w'.disk = v.dayEvents day w.disk := by
        have hbytes := Storage.readBytes_auditLog_congr h.disk.ready.auditReadyAt
          h.disk.ready'.auditReadyAt day.isName_text h.disk.auditView_eq
        rw [dayEvents, dayEvents, Audit.readDay, Audit.readDay, Audit.logPath,
          Audit.logPath, hv.storage_eq, hbytes]
      have hresults : RelatedResults Eq (v.dayEvents day w.disk) (v'.dayEvents day w'.disk) := by
        rw [hevents]
        exact relatedResults_self _
      apply (pairedRun_ask h hresults).bind
      rintro events _ t t' - - rfl ht
      apply (pairedRun_note hv ht _ _).bind
      intro _ _ u u' _ _ _ hu
      exact pairedRun_pure rfl hu
    · simp only [if_neg hprivilege]
      apply (pairedRun_note hv h _ _).bind
      intro _ _ t t' _ _ _ ht
      exact pairedRun_throw _ ht

end Vault

end SealedVault
