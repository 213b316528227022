import SealedVault.Proofs.Vault.Confidentiality
import SealedVault.Proofs.Vault.WriteBack

/-!
# Integrity between users

A caller who is not an admin changes the files of records that are shown to the caller, and of no
others: the caller's own claims and documents, and what hangs on these documents. A request that
only reads changes no file of a record at all. The data directory may be in any state in which a
record that can be found is found under its own id.
-/

namespace SealedVault

open Layout (auditPlace recordPlace)
open Storage (Holds)

/-- The requests that open records or show audit logs, and store nothing. -/
def Request.onlyReads : Request → Bool
  | readClaims .. => true
  | listClaims .. => true
  | readDocument .. => true
  | listDocuments .. => true
  | readPhoto .. => true
  | listPhotos .. => true
  | readAttachment .. => true
  | listAttachments .. => true
  | auditEvents .. => true
  | _ => false

namespace Vault

variable {v : Vault} {w : World} {d : Disk} {request : Request} {kind : Kind} {caller : Caller}
  {id user : String} {P : Place → Option (List UInt8) → Prop}

/-! ## Reading -/

theorem spares_readOwn (kind : Kind) (caller : Caller) (id : String) :
    v.Spares (v.readOwn kind caller id) := by
  rw [readOwn]
  apply (spares_authorized kind caller id).bind
  intro r
  apply (spares_reveal caller r r.owner).bind
  intro plaintext
  exact (spares_noteSuccess _ _ _).bind fun _ => spares_pure _

theorem spares_readHanging (kind : Kind) (caller : Caller) (id : String)
    (documentOf : kind.Fields → String) : v.Spares (v.readHanging kind caller id documentOf) := by
  rw [readHanging]
  apply (spares_ask _).bind
  intro r
  apply (spares_authorized .document caller _).bind
  intro document
  apply (spares_reveal caller r document.owner).bind
  intro plaintext
  exact (spares_noteSuccess _ _ _).bind fun _ => spares_pure _

theorem spares_listOwn (kind : Kind) (caller : Caller) : v.Spares (v.listOwn kind caller) :=
  (spares_ask _).bind fun records => spares_revealEach caller _ records

theorem spares_listHanging (kind : Kind) (caller : Caller) (documentId : String) :
    v.Spares (v.listHanging kind caller documentId) := by
  rw [listHanging]
  apply (spares_authorized .document caller documentId).bind
  intro document
  exact (spares_ask _).bind fun records => spares_revealEach caller _ records

theorem spares_auditEvents (caller : Caller) (date : String) :
    v.Spares (v.auditEvents caller date) := by
  rw [auditEvents]
  cases Calendar.Date.read date with
  | error fault => exact spares_throw _
  | ok day =>
    simp only
    split
    · apply (spares_ask _).bind
      intro events
      exact (spares_note _ _).bind fun _ => spares_pure events
    · exact (spares_note _ _).bind fun _ => spares_throw _

theorem spares_perform (hreads : request.onlyReads = true) : v.Spares (v.perform request) := by
  cases request with
  | readClaims caller id => exact (spares_readOwn .claims caller id).map _
  | listClaims caller => exact (spares_listOwn .claims caller).map _
  | readDocument caller id => exact (spares_readOwn .document caller id).map _
  | listDocuments caller => exact (spares_listOwn .document caller).map _
  | readPhoto caller id => exact (spares_readHanging .photo caller id _).map _
  | listPhotos caller documentId => exact (spares_listHanging .photo caller documentId).map _
  | readAttachment caller id => exact (spares_readHanging .attachment caller id _).map _
  | listAttachments caller documentId =>
    exact (spares_listHanging .attachment caller documentId).map _
  | auditEvents caller date => exact (spares_auditEvents caller date).map _
  | _ => cases hreads

/-! ## Files of records that are shown to a user -/

/-- The file holds, before or after it is changed to `content`, a record that is shown to the user
and whose id is the name of the file. -/
def ShownFile (v : Vault) (d : Disk) (user : String) (place : Place)
    (content : Option (List UInt8)) : Prop :=
  ∃ (kind : Kind) (r : Record kind), place = recordPlace v.storage.layout.base kind r.id ∧
    (Holds d place r ∨ content.bind (Record.ofBytes? kind) = some r) ∧ v.storage.Shows d user r

theorem shows_of_grants {r : Record kind} (hrole : caller.role ≠ .admin)
    (hparent : r.parent? = none) (hgrants : r.grants caller = true) :
    v.storage.Shows d caller.userId r := by
  rw [Storage.Shows, hparent]
  exact (Record.grants_iff.mp hgrants).resolve_right hrole

theorem shows_of_document {r : Record kind} {documentId : String} {document : Record .document}
    (hrole : caller.role ≠ .admin) (hparent : r.parent? = some documentId)
    (hdocument : v.storage.getRecord .document documentId d = .ok document)
    (hgrants : document.grants caller = true) : v.storage.Shows d caller.userId r := by
  rw [Storage.Shows, hparent]
  exact ⟨document, hdocument, (Record.grants_iff.mp hgrants).resolve_right hrole⟩

/-- What a request of the caller selects is shown to the caller. -/
theorem Selects.shows {r : Record kind} (h : v.Selects d request kind id r)
    (hrole : caller.role ≠ .admin) (hcaller : request.caller? = some caller) :
    v.storage.Shows d caller.userId r := by
  cases h with
  | update found granted =>
    cases hcaller
    exact shows_of_grants hrole rfl granted
  | delete found granted =>
    cases hcaller
    exact shows_of_grants hrole rfl granted
  | document found granted =>
    cases hcaller
    exact shows_of_grants hrole rfl granted
  | hanging document_found granted found hangs =>
    cases hcaller
    exact shows_of_document hrole hangs document_found granted
  | plain enabled found plain => cases hcaller

theorem WritesBack.shownFile {place : Place} {content : Option (List UInt8)}
    (h : v.WritesBack d request place content) (hrole : caller.role ≠ .admin)
    (hnamed : ∀ (kind : Kind) (id : String) (r : Record kind),
      v.storage.getRecord kind id d = .ok r → r.id = id)
    (hcaller : request.caller? = some caller) : v.ShownFile d caller.userId place content := by
  obtain ⟨kind, id, r, hselects, hplace, -⟩ := h
  obtain rfl := hnamed kind id r hselects.getRecord
  obtain rfl := (or_self_iff).mp hplace
  exact ⟨kind, r, rfl, Or.inl (Storage.holds_of_getRecord hselects.getRecord),
    hselects.shows hrole hcaller⟩

/-! ## Storing -/

theorem touches_store (caller : Caller) (owner plaintext : String)
    (fields : Calendar.Timestamp → kind.Fields)
    (hP : ∀ r : Record kind, r.owner = owner → (∃ now, r.fields = fields now) →
      P (recordPlace v.storage.layout.base kind r.id) (some r.toBytes)) :
    v.Touches P w (v.store caller owner plaintext fields) := by
  rw [store]
  refine Touches.bind (spares_sealFor kind owner plaintext).touches ?_
  intro payload _ _
  refine Touches.bind spares_newRecordId.touches ?_
  intro id _ _
  refine Touches.bind spares_now.touches ?_
  intro now _ _
  refine Touches.bind (touches_createRecord _ (hP _ rfl ⟨now, rfl⟩)) ?_
  intro _ _ _
  exact ((spares_noteSuccess _ _ _).bind fun _ => spares_pure _).touches

/-- A new record of the caller's gets a file of the caller's. -/
theorem touches_storeOwn (caller : Caller) (plaintext : String)
    (fields : Calendar.Timestamp → kind.Fields)
    (hparent : ∀ now, kind.parent? (fields now) = none) :
    v.Touches (v.ShownFile w.disk caller.userId) w
      (v.store caller caller.userId plaintext fields) := by
  apply touches_store
  rintro r howner ⟨now, hfields⟩
  refine ⟨kind, r, rfl, Or.inr r.ofBytes?_toBytes, ?_⟩
  have hnone : r.parent? = none := by rw [Record.parent?, hfields, hparent]
  rw [Storage.Shows, hnone]
  exact howner

/-- What is hung on a document gets a file that is shown to whoever may access the document. -/
theorem touches_addHanging (hrole : caller.role ≠ .admin)
    (hnamed : ∀ (kind : Kind) (id : String) (r : Record kind),
      v.storage.getRecord kind id w.disk = .ok r → r.id = id)
    (documentId plaintext : String) (fields : Record .document → kind.Fields)
    (hparent : ∀ document, kind.parent? (fields document) = some document.id) :
    v.Touches (v.ShownFile w.disk caller.userId) w
      (v.addHanging kind caller documentId plaintext fields) := by
  rw [addHanging]
  refine Touches.bind (spares_authorized .document caller documentId).touches ?_
  intro document t hfound
  obtain ⟨rfl, hget, hgrants⟩ := getRecord_of_authorized hfound
  apply touches_store
  rintro r - ⟨-, hfields⟩
  have hhangs : r.parent? = some documentId := by
    rw [Record.parent?, hfields, hparent, hnamed _ _ _ hget]
  exact ⟨kind, r, rfl, Or.inr r.ofBytes?_toBytes, shows_of_document hrole hhangs hget hgrants⟩

/-! ## Every request -/

theorem touches_perform (hrole : caller.role ≠ .admin)
    (hnamed : ∀ (kind : Kind) (id : String) (r : Record kind),
      v.storage.getRecord kind id w.disk = .ok r → r.id = id)
    (hcaller : request.caller? = some caller) :
    v.Touches (v.ShownFile w.disk caller.userId) w (v.perform request) := by
  by_cases hreads : request.onlyReads = true
  · exact (spares_perform hreads).touches
  by_cases hrewrites : request.rewrites = true
  · exact (touches_of_rewrites hrewrites).mono fun _ _ hwrites =>
      hwrites.shownFile hrole hnamed hcaller
  cases request with
  | storeClaims _ claims =>
    cases hcaller
    exact (touches_storeOwn caller claims _ fun _ => rfl).map _
  | storeDocument _ title contentType data =>
    cases hcaller
    exact (touches_storeOwn caller data _ fun _ => rfl).map _
  | addPhoto _ documentId contentType data =>
    cases hcaller
    exact (touches_addHanging hrole hnamed documentId data _ fun _ => rfl).map _
  | addAttachment _ documentId fileName contentType data =>
    cases hcaller
    exact (touches_addHanging hrole hnamed documentId data _ fun _ => rfl).map _
  | reseal => cases hcaller
  | _ => first | exact absurd rfl hreads | exact absurd rfl hrewrites

/-- Where every record is found under its own id, each file that a request of a caller who is not an
admin creates, changes or removes outside the audit directory holds, before or after, a record that
is shown to the caller: claims or a document of the caller's, or what hangs on such a document. A
request that only reads changes no file there. -/
theorem changes_records_shown_to_caller (v : Vault) (w : World) (caller : Caller)
    (hrole : caller.role ≠ .admin)
    (hnamed : ∀ (kind : Kind) (id : String) (r : Record kind),
      v.storage.getRecord kind id w.disk = .ok r → r.id = id)
    (request : Request) (hcaller : request.caller? = some caller)
    (place : Place) (houtside : ∀ rest, place ≠ auditPlace v.storage.layout.base rest)
    (hchanged : (v.perform request w).2.disk.fileAt? place ≠ w.disk.fileAt? place) :
    request.onlyReads = false ∧
      ∃ (kind : Kind) (r : Record kind), place = recordPlace v.storage.layout.base kind r.id ∧
        (Holds w.disk place r ∨ Holds (v.perform request w).2.disk place r) ∧
        v.storage.Shows w.disk caller.userId r := by
  constructor
  · rw [← Bool.not_eq_true]
    intro hreads
    exact hchanged (spares_perform hreads w place houtside)
  · exact touches_perform hrole hnamed hcaller place houtside hchanged

/-- The claims that alice deletes are her own. -/
theorem changes_records_shown_to_alice :
    ∃ (kind : Kind) (r : Record kind),
      recordPlace claimsSession.vault.storage.layout.base .claims "record-0" =
        recordPlace claimsSession.vault.storage.layout.base kind r.id ∧
      claimsSession.vault.storage.Shows claimsSession.world.disk "alice" r := by
  obtain ⟨base, hd⟩ := exists_consistent_claimsSession
  obtain ⟨-, kind, r, hplace, -, hshows⟩ :=
    changes_records_shown_to_caller claimsSession.vault claimsSession.world ⟨"alice", .user⟩
      (by decide) (fun kind id r hget => hd.named (Storage.shelf_eq_some_iff_getRecord.mpr hget))
      (.deleteClaims ⟨"alice", .user⟩ "record-0") rfl _
      (Layout.recordPlace_ne_auditPlace .claims "record-0") fileAt?_after_deleteClaims
  exact ⟨kind, r, hplace, hshows⟩

end Vault

end SealedVault
