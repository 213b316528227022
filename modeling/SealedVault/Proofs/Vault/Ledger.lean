import SealedVault.Proofs.Vault.Integrity

/-!
# The ledger of a session

A ledger says what a vault should hold after the requests of a session: for every record that was
stored and not deleted since, its owner and its labels from the time when it was stored, its latest
text, and the key under which this was sealed last. It is drawn up from the requests and their
answers alone, and the records that can be found agree with it in every state.
-/

namespace SealedVault

open Layout (AuditOnly)
open Sealing (MasterKey Payload Service checkOwner)

/-- The texts that describe a record and never change. -/
def Kind.labels : (kind : Kind) → kind.Fields → List String
  | claims, _ => []
  | document, fields => [(fields : DocumentFields).title, (fields : DocumentFields).contentType]
  | photo, fields => [(fields : PhotoFields).contentType]
  | attachment, fields =>
    [(fields : AttachmentFields).fileName, (fields : AttachmentFields).contentType]

/-- What is known of a record that was stored. -/
structure LedgerEntry where
  owner : String
  /-- The document on which the record hangs. -/
  documentId : Option String
  labels : List String
  createdAt : Calendar.Timestamp
  /-- The text that was stored last. -/
  plaintext : String
  /-- The key under which the text was sealed last, if it was sealed. -/
  key : Option MasterKey

/-- The records that a vault should hold, by kind and id. -/
abbrev Ledger := Kind → String → Option LedgerEntry

namespace Ledger

/-- The ledger of a vault without records. -/
def empty : Ledger := fun _ _ => none

/-- The ledger with another entry, or none, under an id. -/
def set (ledger : Ledger) (kind : Kind) (id : String) (entry : Option LedgerEntry) : Ledger :=
  fun kind' id' => if kind' = kind ∧ id' = id then entry else ledger kind' id'

/-- The ledger without a document and what hangs on it. -/
def dropDocument (ledger : Ledger) (id : String) : Ledger := fun kind' id' =>
  if kind' = .document ∧ id' = id then none
  else (ledger kind' id').filter fun entry => entry.documentId ≠ some id

/-- The ledger after everything that was not sealed has been sealed. -/
def sealAll (ledger : Ledger) (key : MasterKey) : Ledger := fun kind id =>
  (ledger kind id).map fun entry => { entry with key := some (entry.key.getD key) }

/-- The ledger after a request was answered, when `key` is the key of the service. -/
def after (ledger : Ledger) (key : Option MasterKey) :
    Request → Except VaultError Answer → Ledger
  | .storeClaims caller plaintext, .ok (.record r) =>
    ledger.set .claims r.id (some ⟨caller.userId, none, [], r.createdAt, plaintext, key⟩)
  | .updateClaims _ id plaintext, .ok _ =>
    ledger.set .claims id
      ((ledger .claims id).map fun entry => { entry with plaintext := plaintext, key := key })
  | .deleteClaims _ id, .ok _ => ledger.set .claims id none
  | .storeDocument caller title contentType plaintext, .ok (.record r) =>
    ledger.set .document r.id
      (some ⟨caller.userId, none, [title, contentType], r.createdAt, plaintext, key⟩)
  | .deleteDocument _ id, .ok _ => ledger.dropDocument id
  | .addPhoto _ documentId contentType plaintext, .ok (.record r) =>
    ledger.set .photo r.id ((ledger .document documentId).map fun document =>
      ⟨document.owner, some documentId, [contentType], r.createdAt, plaintext, key⟩)
  | .addAttachment _ documentId fileName contentType plaintext, .ok (.record r) =>
    ledger.set .attachment r.id ((ledger .document documentId).map fun document =>
      ⟨document.owner, some documentId, [fileName, contentType], r.createdAt, plaintext, key⟩)
  | .reseal, .ok _ =>
    match key with
    | none => ledger
    | some key => ledger.sealAll key
  | _, _ => ledger

end Ledger

/-- The ledger at the end of a session that had the given ledger at its beginning. -/
def Session.ledger (s : Session) (ledger : Ledger) : List Step → Ledger
  | [] => ledger
  | .request r :: steps =>
    (s.after (.request r)).ledger
      (ledger.after s.vault.service.masterKey r (s.answer r)) steps
  | .rekey service :: steps => (s.after (.rekey service)).ledger ledger steps

/-! ## Agreement -/

namespace LedgerEntry

variable {kind : Kind}

/-- The payload holds the text of the entry, sealed under the key of the entry or not at all. -/
def Holds (entry : LedgerEntry) (payload : Payload) : Prop :=
  match entry.key with
  | none => payload = .plain entry.plaintext
  | some key => ∃ initial stored, payload = .sealed stored ∧
      Service.IsSealing key entry.owner initial entry.plaintext stored

/-- The record is the one that was stored, with its latest text. -/
structure Describes (entry : LedgerEntry) (r : Record kind) : Prop where
  owner_eq : r.owner = entry.owner
  parent_eq : r.parent? = entry.documentId
  labels_eq : kind.labels r.fields = entry.labels
  createdAt_eq : r.createdAt = entry.createdAt
  holds : entry.Holds r.payload

@[simp] theorem labels_setPayload (r : Record kind) (payload : Payload)
    (now : Calendar.Timestamp) :
    kind.labels (r.setPayload payload now).fields = kind.labels r.fields := by
  cases kind <;> rfl

/-- A record with a new payload is described by the entry with the text of that payload. -/
theorem Describes.setPayload {entry : LedgerEntry} {r : Record kind} (h : entry.Describes r)
    {plaintext : String} {key : Option MasterKey} {payload : Payload}
    (hholds : LedgerEntry.Holds { entry with plaintext := plaintext, key := key } payload)
    (now : Calendar.Timestamp) :
    LedgerEntry.Describes { entry with plaintext := plaintext, key := key }
      (r.setPayload payload now) where
  owner_eq := by rw [Record.setPayload_owner, h.owner_eq]
  parent_eq := by rw [Record.setPayload_parent?, h.parent_eq]
  labels_eq := by rw [labels_setPayload, h.labels_eq]
  createdAt_eq := by rw [Record.setPayload_createdAt, h.createdAt_eq]
  holds := hholds

/-- What the service protects holds the text of an entry with the key of the service. -/
theorem holds_of_protect {service : Service} {initial : Cipher.Block} {entry : LedgerEntry}
    {payload : Payload}
    (h : service.protect initial entry.owner entry.plaintext = .ok payload)
    (hkey : entry.key = service.masterKey) :
    entry.Holds payload := by
  obtain ⟨-, hpayload⟩ := Vault.protect_eq_ok h
  rw [Holds, hkey]
  cases hmaster : service.masterKey with
  | none =>
    rw [hmaster] at hpayload
    exact hpayload
  | some key =>
    rw [hmaster] at hpayload
    obtain ⟨stored, hstored, hsealing⟩ := hpayload
    exact ⟨initial, stored, hstored, hsealing⟩

/-- What a pass makes of a record is described by the entry with a key: that under which the record
was sealed before, or else that of the service. -/
theorem Describes.resealed {v : Vault} {entry : LedgerEntry} {r new : Record kind} {key : MasterKey}
    (h : entry.Describes r) (hkey : v.service.masterKey = some key)
    (howner : checkOwner r.owner = .ok ()) (hwritable : v.storage.layout.Writable kind)
    (hresealed : v.Resealed r new) :
    LedgerEntry.Describes { entry with key := some (entry.key.getD key) } new := by
  have hholds := h.holds
  cases hold : entry.key with
  | some older =>
    rw [Holds, hold] at hholds
    obtain ⟨initial, stored, hpayload, hsealing⟩ := hholds
    rw [Vault.Resealed, hpayload] at hresealed
    rw [hresealed]
    exact ⟨h.owner_eq, h.parent_eq, h.labels_eq, h.createdAt_eq, initial, stored, hpayload,
      hsealing⟩
  | none =>
    rw [Holds, hold] at hholds
    rw [Vault.Resealed, hholds] at hresealed
    rcases hresealed with ⟨initial, payload, now, hprotect, rfl⟩ | ⟨-, hcannot⟩
    · refine h.setPayload ?_ now
      rw [h.owner_eq] at hprotect
      exact holds_of_protect hprotect hkey.symm
    · -- with a key and an owner, a text can always be sealed
      have hservice : v.service = ⟨some key⟩ := by rw [← hkey]
      refine absurd ⟨hwritable, fun initial => ?_⟩ hcannot
      obtain ⟨stored, hprotect, -⟩ := Service.exists_protect key howner initial entry.plaintext
      rw [hservice]
      exact ⟨_, hprotect⟩

end LedgerEntry

namespace Ledger

variable {ledger : Ledger} {v : Vault} {base : Place} {d d' : Disk} {w : World} {kind : Kind}

/-- A record is found where the ledger has an entry that describes it, and nowhere else. -/
def Agrees (ledger : Ledger) (s : Storage) (d : Disk) : Prop :=
  ∀ kind id, (ledger kind id = none ∧ s.shelf d kind id = none) ∨
    ∃ entry r, ledger kind id = some entry ∧ s.shelf d kind id = some r ∧ entry.Describes r

theorem Agrees.exists_of_shelf {s : Storage} {id : String} {r : Record kind}
    (h : ledger.Agrees s d) (hr : s.shelf d kind id = some r) :
    ∃ entry, ledger kind id = some entry ∧ entry.Describes r := by
  rcases h kind id with ⟨-, hnone⟩ | ⟨entry, r', hentry, hr', hdescribes⟩
  · rw [hr] at hnone
    cases hnone
  · rw [hr] at hr'
    cases hr'
    exact ⟨entry, hentry, hdescribes⟩

theorem Agrees.exists_of_entry {s : Storage} {id : String} {entry : LedgerEntry}
    (h : ledger.Agrees s d) (hentry : ledger kind id = some entry) :
    ∃ r : Record kind, s.shelf d kind id = some r ∧ entry.Describes r := by
  rcases h kind id with ⟨hnone, -⟩ | ⟨entry', r, hentry', hr, hdescribes⟩
  · rw [hentry] at hnone
    cases hnone
  · rw [hentry] at hentry'
    cases hentry'
    exact ⟨r, hr, hdescribes⟩

theorem Agrees.of_shelf_eq {s : Storage} (h : ledger.Agrees s d)
    (hshelf : ∀ kind id, s.shelf d' kind id = s.shelf d kind id) : ledger.Agrees s d' := by
  intro kind id
  rw [hshelf]
  exact h kind id

theorem Agrees.of_auditOnly (h : ledger.Agrees v.storage d)
    (hready : v.storage.ReadyAt base d) (haudit : AuditOnly base d d') :
    ledger.Agrees v.storage d' :=
  h.of_shelf_eq (Vault.shelf_of_auditOnly hready haudit)

theorem Agrees.set {s : Storage} {id : String} {entry : LedgerEntry} {r : Record kind}
    (h : ledger.Agrees s d) (hr : s.shelf d' kind id = some r) (hdescribes : entry.Describes r)
    (hother : ∀ kind' id', ¬(kind' = kind ∧ id' = id) →
      s.shelf d' kind' id' = s.shelf d kind' id') :
    (ledger.set kind id (some entry)).Agrees s d' := by
  intro kind' id'
  by_cases hsame : kind' = kind ∧ id' = id
  · obtain ⟨rfl, rfl⟩ := hsame
    exact Or.inr ⟨entry, r, by rw [Ledger.set, if_pos ⟨rfl, rfl⟩], hr, hdescribes⟩
  · rw [Ledger.set, if_neg hsame, hother kind' id' hsame]
    exact h kind' id'

theorem Agrees.clear {s : Storage} {id : String}
    (h : ledger.Agrees s d) (hr : s.shelf d' kind id = none)
    (hother : ∀ kind' id', ¬(kind' = kind ∧ id' = id) →
      s.shelf d' kind' id' = s.shelf d kind' id') :
    (ledger.set kind id none).Agrees s d' := by
  intro kind' id'
  by_cases hsame : kind' = kind ∧ id' = id
  · obtain ⟨rfl, rfl⟩ := hsame
    exact Or.inl ⟨by rw [Ledger.set, if_pos ⟨rfl, rfl⟩], hr⟩
  · rw [Ledger.set, if_neg hsame, hother kind' id' hsame]
    exact h kind' id'

/-! ## One request -/

/-- A record that is stored gets its entry. -/
theorem Agrees.of_stores {r : Record kind} {initial : Cipher.Block} {owner plaintext : String}
    {documentId : Option String} {labels : List String}
    (h : ledger.Agrees v.storage d) (hready : v.storage.ReadyAt base d)
    (hstores : v.Stores base r d d') (howner : r.owner = owner)
    (hparent : r.parent? = documentId) (hlabels : kind.labels r.fields = labels)
    (hprotect : v.service.protect initial owner plaintext = .ok r.payload) :
    (ledger.set kind r.id
      (some ⟨owner, documentId, labels, r.createdAt, plaintext, v.service.masterKey⟩)).Agrees
        v.storage d' := by
  refine h.set (hstores.shelf_self hready) ⟨howner, hparent, hlabels, rfl, ?_⟩ ?_
  · exact LedgerEntry.holds_of_protect hprotect rfl
  · intro kind' id' hne
    exact hstores.shelf_of_ne hready hne

/-- Storing a record that hangs on nothing fails and leaves the agreement, or gives the record an
entry. -/
theorem agrees_store
    (h : ledger.Agrees v.storage w.disk) (hready : v.storage.ReadyAt base w.disk) (kind : Kind)
    (caller : Caller) (owner plaintext : String) (fields : Calendar.Timestamp → kind.Fields)
    (labels : List String)
    (hroot : ∀ now, kind.parent? (fields now) = none)
    (hlabels : ∀ now, kind.labels (fields now) = labels) :
    (∃ e w', v.store caller owner plaintext fields w = (.error e, w') ∧
        ledger.Agrees v.storage w'.disk) ∨
      ∃ (r : Record kind) (w' : World), v.store caller owner plaintext fields w = (.ok r, w') ∧
        (ledger.set kind r.id
          (some ⟨owner, none, labels, r.createdAt, plaintext, v.service.masterKey⟩)).Agrees
            v.storage w'.disk := by
  have hhangs (now : Calendar.Timestamp) (documentId : String)
      (hparent : kind.parent? (fields now) = some documentId) :
      ∃ document, v.storage.shelf w.disk .document documentId = some document ∧
        document.owner = owner := by
    rw [hroot] at hparent
    cases hparent
  rcases Vault.store_cases hready kind caller owner plaintext fields hhangs with
    ⟨e, w', hw', hdisk⟩ | ⟨r, w', hw', howner, hfields, hprotect, hstores⟩
  · refine Or.inl ⟨e, w', hw', ?_⟩
    rw [hdisk]
    exact h
  · refine Or.inr ⟨r, w', hw', h.of_stores hready hstores howner ?_ ?_ hprotect⟩
    · rw [Record.parent?, hfields]
      exact hroot r.createdAt
    · rw [hfields]
      exact hlabels r.createdAt

/-- Hanging a record on a document fails and leaves the agreement, or gives the record an entry with
the owner of the document. -/
theorem agrees_addHanging
    (h : ledger.Agrees v.storage w.disk) (hd : Consistent v.storage base w.disk) (kind : Kind)
    (caller : Caller) (documentId plaintext : String) (fields : Record .document → kind.Fields)
    (labels : List String)
    (hparent : ∀ document, kind.parent? (fields document) = some document.id)
    (hlabels : ∀ document, kind.labels (fields document) = labels) :
    (∃ e w', v.addHanging kind caller documentId plaintext fields w = (.error e, w') ∧
        ledger.Agrees v.storage w'.disk) ∨
      ∃ (r : Record kind) (w' : World),
        v.addHanging kind caller documentId plaintext fields w = (.ok r, w') ∧
        (ledger.set kind r.id ((ledger .document documentId).map fun document =>
          ⟨document.owner, some documentId, labels, r.createdAt, plaintext,
            v.service.masterKey⟩)).Agrees v.storage w'.disk := by
  rcases Vault.addHanging_cases hd kind caller documentId plaintext fields hparent with
    ⟨e, w', hw', haudit⟩ |
      ⟨document, r, w', hw', hdocument, hid, howner, hfields, hprotect, hstores⟩
  · exact Or.inl ⟨e, w', hw', h.of_auditOnly hd.ready haudit⟩
  obtain ⟨entry, hentry, hdescribes⟩ := h.exists_of_shelf hdocument
  refine Or.inr ⟨r, w', hw', ?_⟩
  rw [hentry, Option.map_some, ← hdescribes.owner_eq]
  refine h.of_stores hd.ready hstores howner ?_ ?_ hprotect
  · rw [Record.parent?, hfields, hparent, hid]
  · rw [hfields]
    exact hlabels document

theorem agrees_updateClaims
    (h : ledger.Agrees v.storage w.disk) (hd : Consistent v.storage base w.disk)
    (caller : Caller) (id claims : String) :
    (ledger.after v.service.masterKey (.updateClaims caller id claims)
      (v.perform (.updateClaims caller id claims) w).1).Agrees v.storage
        (v.perform (.updateClaims caller id claims) w).2.disk := by
  rw [Vault.perform, run_map]
  rcases Vault.updateClaims_cases hd caller id claims with
    ⟨e, w', hw', haudit⟩ | ⟨old, payload, now, w', hw', rfl, hprotect, hreplaces⟩
  · rw [hw']
    exact h.of_auditOnly hd.ready haudit
  · obtain ⟨entry, hentry, hdescribes⟩ := h.exists_of_shelf hreplaces.present
    rw [hw']
    simp only [Except.map, after, hentry, Option.map_some]
    refine h.set (hreplaces.shelf_self hd.ready)
      (hdescribes.setPayload ?_ now)
      fun kind' id' hne => hreplaces.shelf_of_ne hd.ready hne
    rw [hdescribes.owner_eq] at hprotect
    exact LedgerEntry.holds_of_protect hprotect rfl

theorem agrees_deleteClaims
    (h : ledger.Agrees v.storage w.disk) (hd : Consistent v.storage base w.disk)
    (caller : Caller) (id : String) :
    (ledger.after v.service.masterKey (.deleteClaims caller id)
      (v.perform (.deleteClaims caller id) w).1).Agrees v.storage
        (v.perform (.deleteClaims caller id) w).2.disk := by
  rw [Vault.perform, run_map]
  rcases Vault.deleteClaims_cases hd.ready caller id with
    ⟨e, w', hw', haudit⟩ | ⟨w', hw', hdeletes⟩
  · rw [hw']
    exact h.of_auditOnly hd.ready haudit
  · rw [hw']
    exact h.clear (hdeletes.shelf_self hd.ready) fun kind' id' hne =>
      hdeletes.shelf_of_ne hd.ready hne

/-- A deleted document takes the entries of what hangs on it with it. -/
theorem agrees_deleteDocument
    (h : ledger.Agrees v.storage w.disk) (hd : Consistent v.storage base w.disk)
    (caller : Caller) (id : String) :
    (ledger.after v.service.masterKey (.deleteDocument caller id)
      (v.perform (.deleteDocument caller id) w).1).Agrees v.storage
        (v.perform (.deleteDocument caller id) w).2.disk := by
  rw [Vault.perform, run_map]
  rcases Vault.deleteDocument_cases hd caller id with
    ⟨e, w', hw', haudit⟩ | ⟨w', hw', -, hgone, hkept⟩
  · rw [hw']
    exact h.of_auditOnly hd.ready haudit
  rw [hw']
  intro kind' id'
  simp only [Except.map, after, dropDocument]
  by_cases hself : kind' = .document ∧ id' = id
  · exact Or.inl ⟨if_pos hself, hgone kind' id' (Or.inl hself)⟩
  rw [if_neg hself]
  rcases h kind' id' with ⟨hnone, hempty⟩ | ⟨entry, r, hentry, hr, hdescribes⟩
  · refine Or.inl ⟨by rw [hnone]; rfl, ?_⟩
    rw [hkept kind' id' hself, hempty]
    rintro ⟨r, hr, -⟩
    rw [hempty] at hr
    cases hr
  by_cases hhangs : entry.documentId = some id
  · refine Or.inl ⟨by simp [hentry, hhangs], hgone kind' id' (Or.inr ⟨r, hr, ?_⟩)⟩
    rw [hdescribes.parent_eq, hhangs]
  · refine Or.inr ⟨entry, r, by simp [hentry, hhangs], ?_, hdescribes⟩
    rw [hkept kind' id' hself, hr]
    rintro ⟨r', hr', hparent⟩
    rw [hr] at hr'
    cases hr'
    exact hhangs (hdescribes.parent_eq ▸ hparent)

/-- A pass seals what was not sealed, and nothing stands in its way. -/
theorem agrees_reseal {keys : List MasterKey}
    (h : ledger.Agrees v.storage w.disk) (hd : Vault.Kept v.storage base keys w.disk) :
    (ledger.after v.service.masterKey .reseal (v.perform .reseal w).1).Agrees v.storage
      (v.perform .reseal w).2.disk := by
  rw [Vault.perform, run_map]
  cases hkey : v.service.masterKey with
  | none =>
    have hdisabled : v.service.isEnabled = false := by simp [Service.isEnabled, hkey]
    rw [Vault.reseal_of_disabled hdisabled]
    exact h
  | some key =>
    have henabled : v.service.isEnabled = true := by simp [Service.isEnabled, hkey]
    obtain ⟨summary, w', hw', -, hreseals⟩ := Vault.exists_reseal hd.consistent.toNamed henabled
    rw [hw']
    intro kind id
    simp only [Except.map, after, sealAll]
    rcases h kind id with ⟨hnone, hempty⟩ | ⟨entry, r, hentry, hr, hdescribes⟩
    · exact Or.inl ⟨by rw [hnone]; rfl, hreseals.none hempty⟩
    · have hkind : kind ∈ Kind.all := by cases kind <;> simp [Kind.all]
      obtain ⟨new, hnew, hresealed⟩ := hreseals.resealed hkind hr
      exact Or.inr ⟨_, new, by rw [hentry]; rfl, hnew,
        hdescribes.resealed hkey (hd.owner hr) (hd.writable hr) hresealed⟩

/-- Every request and its answer leave the ledger in agreement with the records. -/
theorem agrees_perform {keys : List MasterKey}
    (h : ledger.Agrees v.storage w.disk) (hd : Vault.Kept v.storage base keys w.disk)
    (request : Request) :
    (ledger.after v.service.masterKey request (v.perform request w).1).Agrees v.storage
      (v.perform request w).2.disk := by
  have hready := hd.consistent.ready
  cases request with
  | storeClaims caller claims =>
    rw [Vault.perform, run_map, Vault.storeClaims]
    rcases agrees_store h hready .claims caller caller.userId claims
        (fun now => ({ updatedAt := now } : ClaimsFields)) [] (fun _ => rfl) (fun _ => rfl) with
      ⟨e, w', hw', hagrees⟩ | ⟨r, w', hw', hagrees⟩
    · rw [hw']
      exact hagrees
    · rw [hw']
      exact hagrees
  | updateClaims caller id claims => exact agrees_updateClaims h hd.consistent caller id claims
  | deleteClaims caller id => exact agrees_deleteClaims h hd.consistent caller id
  | storeDocument caller title contentType data =>
    rw [Vault.perform, run_map, Vault.storeDocument]
    rcases agrees_store h hready .document caller caller.userId data
        (fun now => ({ title, contentType, updatedAt := now } : DocumentFields))
        [title, contentType] (fun _ => rfl) (fun _ => rfl) with
      ⟨e, w', hw', hagrees⟩ | ⟨r, w', hw', hagrees⟩
    · rw [hw']
      exact hagrees
    · rw [hw']
      exact hagrees
  | deleteDocument caller id => exact agrees_deleteDocument h hd.consistent caller id
  | addPhoto caller documentId contentType data =>
    rw [Vault.perform, run_map, Vault.addPhoto_eq]
    rcases agrees_addHanging h hd.consistent .photo caller documentId data
        (fun document => ({ documentId := document.id, contentType } : PhotoFields))
        [contentType] (fun _ => rfl) (fun _ => rfl) with
      ⟨e, w', hw', hagrees⟩ | ⟨r, w', hw', hagrees⟩
    · rw [hw']
      exact hagrees
    · rw [hw']
      exact hagrees
  | addAttachment caller documentId fileName contentType data =>
    rw [Vault.perform, run_map, Vault.addAttachment_eq]
    rcases agrees_addHanging h hd.consistent .attachment caller documentId data
        (fun document =>
          ({ documentId := document.id, fileName, contentType } : AttachmentFields))
        [fileName, contentType] (fun _ => rfl) (fun _ => rfl) with
      ⟨e, w', hw', hagrees⟩ | ⟨r, w', hw', hagrees⟩
    · rw [hw']
      exact hagrees
    · rw [hw']
      exact hagrees
  | reseal => exact agrees_reseal h hd
  | readClaims caller id =>
    rw [Vault.perform, run_map]
    exact h.of_auditOnly hready (Vault.auditOnly_readOwn hready .claims caller id)
  | listClaims caller =>
    rw [Vault.perform, run_map]
    exact h.of_auditOnly hready (Vault.auditOnly_listOwn hready .claims caller)
  | readDocument caller id =>
    rw [Vault.perform, run_map]
    exact h.of_auditOnly hready (Vault.auditOnly_readOwn hready .document caller id)
  | listDocuments caller =>
    rw [Vault.perform, run_map]
    exact h.of_auditOnly hready (Vault.auditOnly_listOwn hready .document caller)
  | readPhoto caller id =>
    rw [Vault.perform, run_map]
    exact h.of_auditOnly hready (Vault.auditOnly_readHanging hready .photo caller id _)
  | listPhotos caller documentId =>
    rw [Vault.perform, run_map]
    exact h.of_auditOnly hready (Vault.auditOnly_listHanging hready .photo caller documentId)
  | readAttachment caller id =>
    rw [Vault.perform, run_map]
    exact h.of_auditOnly hready (Vault.auditOnly_readHanging hready .attachment caller id _)
  | listAttachments caller documentId =>
    rw [Vault.perform, run_map]
    exact h.of_auditOnly hready (Vault.auditOnly_listHanging hready .attachment caller documentId)
  | auditEvents caller date =>
    rw [Vault.perform, run_map]
    exact h.of_auditOnly hready (Vault.auditOnly_auditEvents hready caller date)

end Ledger

/-- The ledger agrees with the records at the end of a session if it did at the beginning. -/
theorem Session.agrees_run {s : Session} {base : Place} {keys : List MasterKey} {ledger : Ledger}
    (hsound : s.Sound base keys) (h : ledger.Agrees s.vault.storage s.world.disk)
    (steps : List Step) :
    (s.ledger ledger steps).Agrees (s.run steps).vault.storage (s.run steps).world.disk := by
  induction steps generalizing s keys ledger with
  | nil => exact h
  | cons step steps ih =>
    cases step with
    | request r =>
      exact ih (hsound.after (.request r)) (Ledger.agrees_perform h hsound.kept r)
    | rekey service => exact ih (hsound.after (.rekey service)) h

end SealedVault
