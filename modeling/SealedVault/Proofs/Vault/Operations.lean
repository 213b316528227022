import SealedVault.Proofs.Vault.Effects

/-!
# The operations on shelves

What each operation answers and which records can be found afterwards. An operation that fails
leaves every record as it was.
-/

namespace SealedVault.Vault

open Layout (AuditOnly recordPlace)
open Sealing (Payload)
open Storage (PutsRecord RemovesRecord)

variable {v : Vault} {base : Place} {d d' : Disk} {w : World} {kind : Kind} {caller : Caller}
  {id : String}

/-! ## Storing -/

/-- A new record is stored, and that is noted. -/
structure Stores (v : Vault) (base : Place) (r : Record kind) (d d' : Disk) : Prop where
  storable : v.Storable base d r
  between : ∃ m, PutsRecord base r d m ∧ AuditOnly base m d'

theorem Stores.effects {r : Record kind} (h : v.Stores base r d d') : v.Effects base d d' := by
  obtain ⟨m, hputs, haudit⟩ := h.between
  exact (Effect.store r h.storable hputs).effects.trans (effects_of_auditOnly haudit)

theorem Stores.shelf_self {r : Record kind} (hready : v.storage.ReadyAt base d)
    (h : v.Stores base r d d') : v.storage.shelf d' kind r.id = some r := by
  obtain ⟨m, hputs, haudit⟩ := h.between
  rw [shelf_of_auditOnly (hready.of_keepsDirectories hputs.keepsDirectories) haudit]
  exact hputs.shelf_self hready h.storable.valid h.storable.fits

theorem Stores.shelf_of_ne {r : Record kind} (hready : v.storage.ReadyAt base d)
    (h : v.Stores base r d d') {kind' : Kind} {id' : String}
    (hne : ¬(kind' = kind ∧ id' = r.id)) :
    v.storage.shelf d' kind' id' = v.storage.shelf d kind' id' := by
  obtain ⟨m, hputs, haudit⟩ := h.between
  rw [shelf_of_auditOnly (hready.of_keepsDirectories hputs.keepsDirectories) haudit]
  exact hputs.shelf_of_ne hready hne

/-- Storing fails and changes nothing, or a new record of the owner's is there. -/
theorem store_cases
    (h : v.storage.ReadyAt base w.disk) (kind : Kind) (caller : Caller) (owner plaintext : String)
    (fields : Calendar.Timestamp → kind.Fields)
    (hhangs : ∀ now documentId, kind.parent? (fields now) = some documentId →
      ∃ document, v.storage.shelf w.disk .document documentId = some document ∧
        document.owner = owner) :
    (∃ e w', v.store caller owner plaintext fields w = (.error e, w') ∧ w'.disk = w.disk) ∨
      ∃ (r : Record kind) (w' : World), v.store caller owner plaintext fields w = (.ok r, w') ∧
        r.owner = owner ∧ r.fields = fields r.createdAt ∧
        v.service.protect w.initials.next owner plaintext = .ok r.payload ∧
        v.Stores base r w.disk w'.disk := by
  rcases sealFor_cases v kind owner plaintext w with
    ⟨e, w₁, hseal, hdisk⟩ | ⟨payload, w₁, hseal, hdisk, hprotect⟩
  · exact Or.inl ⟨e, w₁, run_bind_of_error hseal, hdisk⟩
  rw [store, run_bind_of_ok hseal]
  have hid : Action.newRecordId w₁ =
      (.ok w₁.recordIds.next, { w₁ with recordIds := w₁.recordIds.rest }) := rfl
  obtain ⟨w₂, hw₂⟩ : ∃ w₂ : World, { w₁ with recordIds := w₁.recordIds.rest } = w₂ := ⟨_, rfl⟩
  rw [hw₂] at hid
  have hnow : Action.now w₂ = (.ok w₂.clock.next, { w₂ with clock := w₂.clock.rest }) := rfl
  obtain ⟨w₃, hw₃⟩ : ∃ w₃ : World, { w₂ with clock := w₂.clock.rest } = w₃ := ⟨_, rfl⟩
  rw [hw₃] at hnow
  have hdisk₃ : w₃.disk = w.disk := by
    rw [← hdisk, ← hw₃, ← hw₂]
  obtain ⟨r, hr⟩ : ∃ r : Record kind,
      r = ⟨w₁.recordIds.next, owner, payload, w₂.clock.next, fields w₂.clock.next⟩ := ⟨_, rfl⟩
  rw [run_bind_of_ok hid, run_bind_of_ok hnow, ← hr]
  have hready₃ : v.storage.ReadyAt base w₃.disk := by rwa [hdisk₃]
  rcases Storage.createRecord_cases hready₃ r with
    ⟨e, hcreate⟩ | ⟨m, hcreate, hvalid, hwritable, hfits, habsent, hputs⟩
  · exact Or.inl ⟨_, _, run_bind_of_error (onDisk_of_error hcreate), hdisk₃⟩
  have hready₄ := hready₃.of_keepsDirectories hputs.keepsDirectories
  obtain ⟨w₄, hw₄, haudit⟩ :=
    exists_noteSuccess (w := { w₃ with disk := m }) hready₄ .recordStored caller r
  right
  refine ⟨r, w₄, ?_, by rw [hr], by rw [hr], by rw [hr]; exact hprotect, ?_, m, ?_, haudit⟩
  · rw [run_bind_of_ok (onDisk_of_ok hcreate), run_bind_of_ok hw₄]
    rfl
  · rw [hdisk₃] at habsent
    refine ⟨hvalid, hfits, hwritable, habsent, ?_, ?_⟩
    · exact ⟨_, plaintext, by rw [hr]; exact hprotect⟩
    · intro documentId hparent
      rw [hr] at hparent ⊢
      exact hhangs _ documentId hparent
  · rw [← hdisk₃]
    exact hputs

/-- Hangs a new record on a document for whoever may access the document. -/
def addHanging (v : Vault) (kind : Kind) (caller : Caller) (documentId plaintext : String)
    (fields : Record .document → kind.Fields) : Action (Record kind) := do
  let document ← v.authorized .document caller documentId
  v.store caller document.owner plaintext fun _ => fields document

theorem addPhoto_eq (v : Vault) (caller : Caller) (documentId contentType data : String) :
    v.addPhoto caller documentId contentType data =
      v.addHanging .photo caller documentId data fun document =>
        ({ documentId := document.id, contentType } : PhotoFields) :=
  rfl

theorem addAttachment_eq (v : Vault) (caller : Caller)
    (documentId fileName contentType data : String) :
    v.addAttachment caller documentId fileName contentType data =
      v.addHanging .attachment caller documentId data fun document =>
        ({ documentId := document.id, fileName, contentType } : AttachmentFields) :=
  rfl

/-- Hanging a record on a document fails and changes no record, or the record belongs to the owner
of the document. -/
theorem addHanging_cases
    (h : Consistent v.storage base w.disk) (kind : Kind) (caller : Caller)
    (documentId plaintext : String)
    (fields : Record .document → kind.Fields)
    (hparent : ∀ document, kind.parent? (fields document) = some document.id) :
    (∃ e w', v.addHanging kind caller documentId plaintext fields w = (.error e, w') ∧
        AuditOnly base w.disk w'.disk) ∨
      ∃ (document : Record .document) (r : Record kind) (w' : World),
        v.addHanging kind caller documentId plaintext fields w = (.ok r, w') ∧
        v.storage.shelf w.disk .document documentId = some document ∧
        document.id = documentId ∧ r.owner = document.owner ∧ r.fields = fields document ∧
        v.service.protect w.initials.next document.owner plaintext = .ok r.payload ∧
        v.Stores base r w.disk w'.disk := by
  rcases authorized_cases h.ready .document caller documentId with
    ⟨e, w', hfound, haudit⟩ | ⟨document, hfound, hdocument, -⟩
  · exact Or.inl ⟨e, w', run_bind_of_error hfound, haudit⟩
  have hid : document.id = documentId := h.named hdocument
  have hhangs (now : Calendar.Timestamp) (id : String)
      (heq : kind.parent? (fields document) = some id) :
      ∃ document', v.storage.shelf w.disk .document id = some document' ∧
        document'.owner = document.owner := by
    rw [hparent document, hid] at heq
    cases heq
    exact ⟨document, hdocument, rfl⟩
  rw [addHanging, run_bind_of_ok hfound]
  rcases store_cases h.ready kind caller document.owner plaintext (fun _ => fields document)
    hhangs with
    ⟨e, w', hw', hdisk⟩ | ⟨r, w', hw', howner, hfields, hprotect, hstores⟩
  · refine Or.inl ⟨e, w', hw', ?_⟩
    rw [hdisk]
    exact .refl base _
  · exact Or.inr ⟨document, r, w', hw', hdocument, hid, howner, hfields, hprotect, hstores⟩

/-! ## Replacing -/

/-- The payload of a record is replaced, and that is noted. -/
structure Replaces (v : Vault) (base : Place) (old : Record kind) (payload : Payload)
    (now : Calendar.Timestamp) (d d' : Disk) : Prop where
  present : v.storage.shelf d kind old.id = some old
  protects : v.Protects old.owner payload
  between : ∃ m, PutsRecord base (old.setPayload payload now) d m ∧ AuditOnly base m d'

theorem Replaces.effects {old : Record kind} {payload : Payload} {now : Calendar.Timestamp}
    (h : v.Replaces base old payload now d d') : v.Effects base d d' := by
  obtain ⟨m, hputs, haudit⟩ := h.between
  exact (Effect.replace old payload now h.present h.protects hputs).effects.trans
    (effects_of_auditOnly haudit)

theorem Replaces.shelf_self {old : Record kind} {payload : Payload} {now : Calendar.Timestamp}
    (hready : v.storage.ReadyAt base d) (h : v.Replaces base old payload now d d') :
    v.storage.shelf d' kind old.id = some (old.setPayload payload now) := by
  obtain ⟨m, hputs, haudit⟩ := h.between
  obtain ⟨hvalid, hfits⟩ := valid_and_fits_of_shelf hready h.present
  have hself : v.storage.shelf m kind (old.setPayload payload now).id = _ :=
    hputs.shelf_self hready hvalid hfits
  rw [shelf_of_auditOnly (hready.of_keepsDirectories hputs.keepsDirectories) haudit]
  exact hself

theorem Replaces.shelf_of_ne {old : Record kind} {payload : Payload} {now : Calendar.Timestamp}
    (hready : v.storage.ReadyAt base d) (h : v.Replaces base old payload now d d')
    {kind' : Kind} {id' : String} (hne : ¬(kind' = kind ∧ id' = old.id)) :
    v.storage.shelf d' kind' id' = v.storage.shelf d kind' id' := by
  obtain ⟨m, hputs, haudit⟩ := h.between
  rw [shelf_of_auditOnly (hready.of_keepsDirectories hputs.keepsDirectories) haudit]
  exact hputs.shelf_of_ne hready hne

/-- Replacing the text of claims fails and changes no record, or the claims have a new payload. -/
theorem updateClaims_cases
    (h : Consistent v.storage base w.disk) (caller : Caller) (id claims : String) :
    (∃ e w', v.updateClaims caller id claims w = (.error e, w') ∧
        AuditOnly base w.disk w'.disk) ∨
      ∃ (old : Record .claims) (payload : Payload) (now : Calendar.Timestamp) (w' : World),
        v.updateClaims caller id claims w = (.ok (old.setPayload payload now), w') ∧
        old.id = id ∧
        v.service.protect w.initials.next old.owner claims = .ok payload ∧
        v.Replaces base old payload now w.disk w'.disk := by
  rcases authorized_cases h.ready .claims caller id with
    ⟨e, w', hfound, haudit⟩ | ⟨old, hfound, hold, -⟩
  · exact Or.inl ⟨e, w', run_bind_of_error hfound, haudit⟩
  have hid : old.id = id := h.named hold
  rw [updateClaims, run_bind_of_ok hfound]
  rcases sealFor_cases v .claims old.owner claims w with
    ⟨e, w₁, hseal, hdisk⟩ | ⟨payload, w₁, hseal, hdisk, hprotect⟩
  · refine Or.inl ⟨e, w₁, run_bind_of_error hseal, ?_⟩
    rw [hdisk]
    exact .refl base _
  have hnow : Action.now w₁ = (.ok w₁.clock.next, { w₁ with clock := w₁.clock.rest }) := rfl
  obtain ⟨w₂, hw₂⟩ : ∃ w₂ : World, { w₁ with clock := w₁.clock.rest } = w₂ := ⟨_, rfl⟩
  rw [hw₂] at hnow
  have hdisk₂ : w₂.disk = w.disk := by
    rw [← hdisk, ← hw₂]
  rw [run_bind_of_ok hseal, run_bind_of_ok hnow]
  have hready₂ : v.storage.ReadyAt base w₂.disk := by
    rw [hdisk₂]
    exact h.ready
  rcases Storage.updateRecord_cases hready₂ (old.setPayload payload w₁.clock.next) with
    ⟨e, hupdate⟩ | ⟨m, hupdate, -, -, -, hputs⟩
  · refine Or.inl ⟨_, _, run_bind_of_error (onDisk_of_error hupdate), ?_⟩
    rw [← hdisk₂]
    exact .refl base _
  have hready₃ := hready₂.of_keepsDirectories hputs.keepsDirectories
  obtain ⟨w₃, hw₃, haudit⟩ := exists_noteSuccess (w := { w₂ with disk := m }) hready₃
    .recordUpdated caller (old.setPayload payload w₁.clock.next)
  refine Or.inr ⟨old, payload, w₁.clock.next, w₃, ?_, hid, hprotect, ?_, ⟨_, claims, hprotect⟩,
    m, ?_, haudit⟩
  · rw [run_bind_of_ok (onDisk_of_ok hupdate), run_bind_of_ok hw₃]
    rfl
  · rw [hid]
    exact hold
  · rw [← hdisk₂]
    exact hputs

/-! ## Deleting -/

/-- A record is taken away, and that is noted. -/
def Deletes (base : Place) (kind : Kind) (id : String) (d d' : Disk) : Prop :=
  ∃ m, RemovesRecord base kind id d m ∧ AuditOnly base m d'

theorem Deletes.shelf_self (hready : v.storage.ReadyAt base d) (h : Deletes base kind id d d') :
    v.storage.shelf d' kind id = none := by
  obtain ⟨m, hremoves, haudit⟩ := h
  rw [shelf_of_auditOnly (hready.of_keepsDirectories hremoves.keepsDirectories) haudit]
  exact hremoves.shelf_self hready

theorem Deletes.shelf_of_ne (hready : v.storage.ReadyAt base d) (h : Deletes base kind id d d')
    {kind' : Kind} {id' : String} (hne : ¬(kind' = kind ∧ id' = id)) :
    v.storage.shelf d' kind' id' = v.storage.shelf d kind' id' := by
  obtain ⟨m, hremoves, haudit⟩ := h
  rw [shelf_of_auditOnly (hready.of_keepsDirectories hremoves.keepsDirectories) haudit]
  exact hremoves.shelf_of_ne hready hne

theorem Deletes.effects (h : Deletes base kind id d d')
    (hfree : kind = .document → ∀ kind' id' (r : Record kind'),
      v.storage.shelf d kind' id' = some r → r.parent? ≠ some id) :
    v.Effects base d d' := by
  obtain ⟨m, hremoves, haudit⟩ := h
  exact (Effect.remove kind id hfree hremoves).effects.trans (effects_of_auditOnly haudit)

theorem deleteClaims_cases
    (h : v.storage.ReadyAt base w.disk) (caller : Caller) (id : String) :
    (∃ e w', v.deleteClaims caller id w = (.error e, w') ∧ AuditOnly base w.disk w'.disk) ∨
      ∃ w', v.deleteClaims caller id w = (.ok (), w') ∧
        Deletes base .claims id w.disk w'.disk := by
  rcases authorized_cases h .claims caller id with ⟨e, w', hfound, haudit⟩ | ⟨r, hfound, hr, -⟩
  · exact Or.inl ⟨e, w', run_bind_of_error hfound, haudit⟩
  obtain ⟨m, hdelete, hremoves⟩ := Storage.exists_deleteRecord_of_shelf h hr
  have hready₁ := h.of_keepsDirectories hremoves.keepsDirectories
  obtain ⟨w₁, hw₁, haudit⟩ :=
    exists_noteSuccess (w := { w with disk := m }) hready₁ .recordDeleted caller r
  refine Or.inr ⟨w₁, ?_, m, hremoves, haudit⟩
  rw [deleteClaims, run_bind_of_ok hfound, run_bind_of_ok (onDisk_of_ok hdelete), hw₁]

/-- The record hangs on a document. -/
def HangsOn (documentId : String) (found : Option (Record kind)) : Prop :=
  ∃ r, found = some r ∧ r.parent? = some documentId

/-- Deleting records that are all there takes away these and no others. -/
theorem exists_deleteEach
    (h : v.storage.ReadyAt base w.disk) (hkind : kind ≠ .document) {ids : List String}
    (hnodup : ids.Nodup) (hpresent : ∀ id ∈ ids, v.storage.shelf w.disk kind id ≠ none) :
    ∃ w', v.deleteEach kind ids w = (.ok (), w') ∧ v.Effects base w.disk w'.disk ∧
      (∀ id ∈ ids, v.storage.shelf w'.disk kind id = none) ∧
      ∀ kind' id', ¬(kind' = kind ∧ id' ∈ ids) →
        v.storage.shelf w'.disk kind' id' = v.storage.shelf w.disk kind' id' := by
  induction ids generalizing w with
  | nil => exact ⟨w, rfl, .refl v base _, by simp, fun _ _ _ => rfl⟩
  | cons id rest ih =>
    obtain ⟨hnot, hnodup⟩ := List.nodup_cons.mp hnodup
    obtain ⟨r, hr⟩ := Option.ne_none_iff_exists'.mp (hpresent id (by simp))
    obtain ⟨m, hdelete, hremoves⟩ := Storage.exists_deleteRecord_of_shelf h hr
    have hready := h.of_keepsDirectories hremoves.keepsDirectories
    have heffect : v.Effect base w.disk m :=
      Effect.remove kind id (fun heq => absurd heq hkind) hremoves
    have hstill : ∀ id' ∈ rest,
        v.storage.shelf (World.disk { w with disk := m }) kind id' ≠ none := by
      intro id' hid'
      have hne : ¬(kind = kind ∧ id' = id) := by
        rintro ⟨-, rfl⟩
        exact hnot hid'
      rw [hremoves.shelf_of_ne h hne]
      exact hpresent id' (by simp [hid'])
    obtain ⟨w', hw', heffects, hgone, hkept⟩ := ih (w := { w with disk := m }) hready hnodup hstill
    refine ⟨w', ?_, heffect.effects.trans heffects, ?_, ?_⟩
    · rw [deleteEach, run_bind_of_ok (onDisk_of_ok hdelete)]
      exact hw'
    · intro id' hid'
      rcases List.mem_cons.mp hid' with rfl | hid'
      · rw [hkept kind id' fun hmem => hnot hmem.2]
        exact hremoves.shelf_self h
      · exact hgone id' hid'
    · intro kind' id' hne
      have hne' : ¬(kind' = kind ∧ id' ∈ rest) := fun hmem => hne ⟨hmem.1, by simp [hmem.2]⟩
      rw [hkept kind' id' hne']
      apply hremoves.shelf_of_ne h
      rintro ⟨rfl, rfl⟩
      exact hne ⟨rfl, by simp⟩

/-- The records of a kind that hang on a document are all deleted. -/
theorem exists_deleteHanging
    (h : Consistent v.storage base w.disk) (kind : Kind) (hkind : kind ≠ .document)
    (documentId : String) :
    ∃ ids w', v.deleteHanging kind documentId w = (.ok ids, w') ∧
      v.Effects base w.disk w'.disk ∧
      (∀ id, HangsOn documentId (v.storage.shelf w.disk kind id) →
        v.storage.shelf w'.disk kind id = none) ∧
      ∀ kind' id', ¬(kind' = kind ∧ HangsOn documentId (v.storage.shelf w.disk kind' id')) →
        v.storage.shelf w'.disk kind' id' = v.storage.shelf w.disk kind' id' := by
  obtain ⟨records, hlist, hmem, hnodup⟩ := Storage.exists_listRecords h.ready kind
    fun r => decide (r.parent? = some documentId)
  have hask : Action.ask (v.storage.listByDocument kind documentId) w = (.ok records, w) :=
    ask_of_ok hlist
  have hids (id : String) : id ∈ records.map (·.id) ↔
      HangsOn documentId (v.storage.shelf w.disk kind id) := by
    rw [List.mem_map]
    constructor
    · rintro ⟨r, hr, rfl⟩
      obtain ⟨hparent, id', hid'⟩ := (hmem r).mp hr
      have hnamed : r.id = id' := h.named hid'
      rw [hnamed]
      exact ⟨r, hid', by simpa using hparent⟩
    · rintro ⟨r, hr, hparent⟩
      exact ⟨r, (hmem r).mpr ⟨by simpa using hparent, id, hr⟩, h.named hr⟩
  have hpresent : ∀ id ∈ records.map (·.id), v.storage.shelf w.disk kind id ≠ none := by
    intro id hid
    obtain ⟨r, hr, -⟩ := (hids id).mp hid
    rw [hr]
    simp
  obtain ⟨w', hw', heffects, hgone, hkept⟩ :=
    exists_deleteEach h.ready hkind (hnodup fun id r hr => h.named hr) hpresent
  refine ⟨records.map (·.id), w', ?_, heffects, ?_, ?_⟩
  · rw [deleteHanging, run_bind_of_ok hask, run_bind_of_ok hw']
    rfl
  · intro id hid
    exact hgone id ((hids id).mpr hid)
  · intro kind' id' hne
    apply hkept kind' id'
    rintro ⟨rfl, hid'⟩
    exact hne ⟨rfl, (hids id').mp hid'⟩

theorem kind_of_hangsOn {found : Option (Record kind)} {documentId : String}
    (h : HangsOn documentId found) : kind = .photo ∨ kind = .attachment := by
  obtain ⟨r, -, hparent⟩ := h
  cases kind with
  | claims => cases hparent
  | document => cases hparent
  | photo => exact Or.inl rfl
  | attachment => exact Or.inr rfl

/-- The photos and then the attachments of a document are deleted, and nothing hangs on it then. -/
theorem exists_deleteAllHanging
    (h : Consistent v.storage base w.disk) (documentId : String) :
    ∃ photoIds attachmentIds w₁ w₂,
      v.deleteHanging .photo documentId w = (.ok photoIds, w₁) ∧
      v.deleteHanging .attachment documentId w₁ = (.ok attachmentIds, w₂) ∧
      v.Effects base w.disk w₂.disk ∧
      (∀ kind id, HangsOn documentId (v.storage.shelf w.disk kind id) →
        v.storage.shelf w₂.disk kind id = none) ∧
      ∀ kind id, ¬HangsOn documentId (v.storage.shelf w.disk kind id) →
        v.storage.shelf w₂.disk kind id = v.storage.shelf w.disk kind id := by
  obtain ⟨photoIds, w₁, hphotos, heffects₁, hgone₁, hkept₁⟩ :=
    exists_deleteHanging h .photo (by decide) documentId
  obtain ⟨attachmentIds, w₂, hattachments, heffects₂, hgone₂, hkept₂⟩ :=
    exists_deleteHanging (heffects₁.consistent h) .attachment (by decide) documentId
  refine ⟨photoIds, attachmentIds, w₁, w₂, hphotos, hattachments, heffects₁.trans heffects₂,
    ?_, ?_⟩
  · intro kind id hhangs
    rcases kind_of_hangsOn hhangs with rfl | rfl
    · -- the second pass leaves the photos as the first one left them
      rw [hkept₂ .photo id (by simp)]
      exact hgone₁ id hhangs
    · apply hgone₂ id
      rw [hkept₁ .attachment id (by simp)]
      exact hhangs
  · intro kind id hnot
    have hfirst := hkept₁ kind id fun hboth => hnot hboth.2
    rw [← hfirst]
    apply hkept₂ kind id
    intro hboth
    apply hnot
    rw [← hfirst]
    exact hboth.2

/-- Deleting a document fails and changes no record, or it takes away the document and what hangs on
it, and nothing else. -/
theorem deleteDocument_cases
    (h : Consistent v.storage base w.disk) (caller : Caller) (id : String) :
    (∃ e w', v.deleteDocument caller id w = (.error e, w') ∧ AuditOnly base w.disk w'.disk) ∨
      ∃ w', v.deleteDocument caller id w = (.ok (), w') ∧ v.Effects base w.disk w'.disk ∧
        (∀ kind' id', (kind' = .document ∧ id' = id) ∨
            HangsOn id (v.storage.shelf w.disk kind' id') →
          v.storage.shelf w'.disk kind' id' = none) ∧
        ∀ kind' id', ¬(kind' = .document ∧ id' = id) →
            ¬HangsOn id (v.storage.shelf w.disk kind' id') →
          v.storage.shelf w'.disk kind' id' = v.storage.shelf w.disk kind' id' := by
  rcases authorized_cases h.ready .document caller id with
    ⟨e, w', hfound, haudit⟩ | ⟨document, hfound, hdocument, -⟩
  · exact Or.inl ⟨e, w', run_bind_of_error hfound, haudit⟩
  right
  obtain ⟨photoIds, attachmentIds, w₁, w₂, hphotos, hattachments, heffects, hgone, hkept⟩ :=
    exists_deleteAllHanging h id
  have hready₂ := (heffects.consistent h).ready
  have hdocument₂ : v.storage.shelf w₂.disk .document id = some document := by
    rw [hkept]
    · exact hdocument
    · intro hhangs
      rcases kind_of_hangsOn hhangs with hkind | hkind <;> cases hkind
  have hfree : ∀ kind' id' (r : Record kind'),
      v.storage.shelf w₂.disk kind' id' = some r → r.parent? ≠ some id := by
    intro kind' id' r hr hparent
    by_cases hhangs : HangsOn id (v.storage.shelf w.disk kind' id')
    · rw [hgone kind' id' hhangs] at hr
      cases hr
    · rw [hkept kind' id' hhangs] at hr
      exact hhangs ⟨r, hr, hparent⟩
  obtain ⟨m, hdelete, hremoves⟩ := Storage.exists_deleteRecord_of_shelf hready₂ hdocument₂
  have hready₃ := hready₂.of_keepsDirectories hremoves.keepsDirectories
  obtain ⟨w₃, hw₃, haudit⟩ := exists_note (w := { w₂ with disk := m }) hready₃ .recordDeleted
    fun e => ((e.withUser caller.userId).withResource Kind.document.name document.id).withDetails
      (deletionDetails photoIds attachmentIds)
  have hdeletes : Deletes base .document id w₂.disk w₃.disk := ⟨m, hremoves, haudit⟩
  refine ⟨w₃, ?_, heffects.trans (hdeletes.effects fun _ => hfree), ?_, ?_⟩
  · rw [deleteDocument, run_bind_of_ok hfound, run_bind_of_ok hphotos,
      run_bind_of_ok hattachments, run_bind_of_ok (onDisk_of_ok hdelete), hw₃]
  · intro kind' id' hgoes
    by_cases hself : kind' = .document ∧ id' = id
    · obtain ⟨rfl, rfl⟩ := hself
      exact hdeletes.shelf_self hready₂
    · rw [hdeletes.shelf_of_ne hready₂ hself]
      exact hgone kind' id' (hgoes.resolve_left hself)
  · intro kind' id' hself hnot
    rw [hdeletes.shelf_of_ne hready₂ hself]
    exact hkept kind' id' hnot

end SealedVault.Vault
