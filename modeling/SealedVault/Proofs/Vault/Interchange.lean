import SealedVault.Proofs.Store.LogBytes
import SealedVault.Proofs.Vault.Accountability
import SealedVault.Proofs.Vault.Coupling
import SealedVault.Proofs.Vault.Failures

/-!
# Callers with access

Whoever may access the record that a request is about gets the same answer and leaves the same
records. The caller is asked for twice only, when access is decided and when events are noted: keys
are chosen by the owner of the record, or of the document on which it hangs, and so is the owner of
what is hung on a document. Two runs of one request by two callers with access go the same way up to
the notes, which differ in nothing but what they say.
-/

namespace SealedVault

/-- The same request of another caller. -/
def Request.ofCaller (caller : Caller) : Request → Request
  | storeClaims _ claims => storeClaims caller claims
  | readClaims _ id => readClaims caller id
  | updateClaims _ id claims => updateClaims caller id claims
  | deleteClaims _ id => deleteClaims caller id
  | listClaims _ => listClaims caller
  | storeDocument _ title contentType data => storeDocument caller title contentType data
  | readDocument _ id => readDocument caller id
  | deleteDocument _ id => deleteDocument caller id
  | listDocuments _ => listDocuments caller
  | addPhoto _ documentId contentType data => addPhoto caller documentId contentType data
  | readPhoto _ id => readPhoto caller id
  | listPhotos _ documentId => listPhotos caller documentId
  | addAttachment _ documentId fileName contentType data =>
    addAttachment caller documentId fileName contentType data
  | readAttachment _ id => readAttachment caller id
  | listAttachments _ documentId => listAttachments caller documentId
  | reseal => reseal
  | auditEvents _ date => auditEvents caller date

namespace Vault

variable {v : Vault} {w w' : World} {kind : Kind} {a b caller : Caller} {id : String}
  {α β γ : Type}

/-- If there is a record with the id, the caller is its owner or an admin. -/
def Admits (v : Vault) (d : Disk) (caller : Caller) (kind : Kind) (id : String) : Prop :=
  ∀ r : Record kind, v.storage.getRecord kind id d = .ok r →
    r.owner = caller.userId ∨ caller.role = .admin

/-- The request is about a record with an id, and the caller is the owner of that record or an
admin. For what hangs on a document the owner of the document counts. -/
def Entitles (v : Vault) (d : Disk) (caller : Caller) : Request → Prop
  | .readClaims _ id => v.Admits d caller .claims id
  | .updateClaims _ id _ => v.Admits d caller .claims id
  | .deleteClaims _ id => v.Admits d caller .claims id
  | .readDocument _ id => v.Admits d caller .document id
  | .deleteDocument _ id => v.Admits d caller .document id
  | .addPhoto _ documentId _ _ => v.Admits d caller .document documentId
  | .readPhoto _ id => ∀ photo, v.storage.getRecord .photo id d = .ok photo →
    v.Admits d caller .document photo.fields.documentId
  | .listPhotos _ documentId => v.Admits d caller .document documentId
  | .addAttachment _ documentId _ _ _ => v.Admits d caller .document documentId
  | .readAttachment _ id => ∀ attachment, v.storage.getRecord .attachment id d = .ok attachment →
    v.Admits d caller .document attachment.fields.documentId
  | .listAttachments _ documentId => v.Admits d caller .document documentId
  | _ => False

/-- The worlds differ at most in what audit logs say. -/
def DifferInLogs (v : Vault) : World → World → Prop :=
  World.Related v.storage.layout.DifferInLogs

theorem DifferInLogs.refl (v : Vault) (w : World) : v.DifferInLogs w w :=
  ⟨w.disk, rfl, .refl _ _⟩

/-! ## Steps -/

/-- What two runs do alike from one world does not tell them apart. -/
theorem alike_after {Q : β → γ → Prop} {first : Action α} {f : α → Action β} {g : α → Action γ}
    (hnext : ∀ x t, first w = (.ok x, t) → PairedRun v.DifferInLogs Q (f x) (g x) t t) :
    PairedRun v.DifferInLogs Q (first >>= f) (first >>= g) w w := by
  rcases hfirst : first w with ⟨e | x, t⟩
  · exact pairedRun_of_eq (run_bind_of_error hfirst) (run_bind_of_error hfirst) (.error e)
      (.refl v t)
  · rw [PairedRun, run_bind_of_ok hfirst, run_bind_of_ok hfirst]
    exact hnext x t hfirst

/-- Notes of the same instant may say different things. -/
theorem alike_note (h : v.DifferInLogs w w') (eventType : Audit.EventType)
    (complete complete' : Audit.Event → Audit.Event)
    (htime : ∀ e, (complete' e).timestamp = (complete e).timestamp) :
    PairedRun v.DifferInLogs Eq (v.note eventType complete) (v.note eventType complete') w w' := by
  obtain ⟨d', rfl, hdisks⟩ := h
  exact pairedRun_of_eq (note_eq v eventType complete w) (note_eq v eventType complete' _) (.ok rfl)
    ⟨_, rfl, Audit.differInLogs_log hdisks (htime _)⟩

theorem alike_noteSuccess (h : v.DifferInLogs w w') (eventType : Audit.EventType)
    (a b : Caller) (r : Record kind) :
    PairedRun v.DifferInLogs Eq (v.noteSuccess eventType a r) (v.noteSuccess eventType b r)
      w w' := by
  rw [noteSuccess, noteSuccess]
  exact alike_note h eventType _ _ fun _ => rfl

/-- What is returned after a note does not depend on who is noted. -/
theorem alike_noteSuccess_return (h : v.DifferInLogs w w') (eventType : Audit.EventType)
    (a b : Caller) (r : Record kind) (x : α) :
    PairedRun v.DifferInLogs Eq
      (do
        v.noteSuccess eventType a r
        return x : Action α)
      (do
        v.noteSuccess eventType b r
        return x : Action α) w w' :=
  (alike_noteSuccess h eventType a b r).bind fun _ _ _ _ _ _ _ hworlds =>
    pairedRun_pure rfl hworlds

/-- Two callers with access are let through alike. -/
theorem alike_authorized {Q : β → γ → Prop} {f : Record kind → Action β}
    {g : Record kind → Action γ} (ha : v.Admits w.disk a kind id) (hb : v.Admits w.disk b kind id)
    (hnext : ∀ r, v.storage.getRecord kind id w.disk = .ok r →
      PairedRun v.DifferInLogs Q (f r) (g r) w w) :
    PairedRun v.DifferInLogs Q (v.authorized kind a id >>= f) (v.authorized kind b id >>= g)
      w w := by
  cases hget : v.storage.getRecord kind id w.disk with
  | error e =>
    have hfails (caller : Caller) :
        v.authorized kind caller id w = (.error (.ofStorage e), w) :=
      authorized_of_error hget
    exact pairedRun_of_eq (run_bind_of_error (hfails a)) (run_bind_of_error (hfails b)) (.error _)
      (.refl v w)
  | ok r =>
    have hfound {caller : Caller} (hadmits : v.Admits w.disk caller kind id) :
        v.authorized kind caller id w = (.ok r, w) :=
      authorized_of_grants hget (Record.grants_iff.mpr (hadmits r hget))
    rw [PairedRun, run_bind_of_ok (hfound ha), run_bind_of_ok (hfound hb)]
    exact hnext r hget

theorem alike_reveal (h : v.DifferInLogs w w') (a b : Caller) (r : Record kind)
    (keyOwner : String) :
    PairedRun v.DifferInLogs Eq (v.reveal a r keyOwner) (v.reveal b r keyOwner) w w' := by
  cases hreveal : v.service.reveal keyOwner r.payload with
  | ok plaintext =>
    exact pairedRun_of_eq (reveal_of_ok hreveal) (reveal_of_ok hreveal) (.ok rfl) h
  | error e =>
    have hnotes := alike_note h .decryptionFailed
      (fun event =>
        (((event.withUser a.userId).withResource kind.name r.id).withDetails
          (failureDetails r.payload e)).failed e.message)
      (fun event =>
        (((event.withUser b.userId).withResource kind.name r.id).withDetails
          (failureDetails r.payload e)).failed e.message) fun _ => rfl
    exact pairedRun_of_eq (reveal_of_error hreveal) (reveal_of_error hreveal) (.error _) hnotes.2

theorem alike_revealEach (h : v.DifferInLogs w w') (a b : Caller)
    (keyOwner : Record kind → String) (records : List (Record kind)) :
    PairedRun v.DifferInLogs Eq (v.revealEach a keyOwner records)
      (v.revealEach b keyOwner records) w w' := by
  induction records generalizing w w' with
  | nil => exact pairedRun_pure rfl h
  | cons r rest ih =>
    rw [revealEach, revealEach]
    refine (pairedRun_attempt (alike_reveal h a b r (keyOwner r))).bind ?_
    intro plaintext plaintext' t t' _ _ htexts hworlds
    refine (ih hworlds).bind ?_
    rintro opened _ u u' - - rfl hworlds
    cases htexts with
    | none => exact pairedRun_pure rfl hworlds
    | some heq =>
      subst heq
      exact pairedRun_pure rfl hworlds

/-- A record is opened with one key, and each caller is noted. -/
theorem alike_opening (a b : Caller) (r : Record kind) (keyOwner : String) (w : World) :
    PairedRun v.DifferInLogs Eq
      (do
        let plaintext ← v.reveal a r keyOwner
        v.noteSuccess .recordRead a r
        return (⟨r, plaintext⟩ : Opened kind) : Action (Opened kind))
      (do
        let plaintext ← v.reveal b r keyOwner
        v.noteSuccess .recordRead b r
        return (⟨r, plaintext⟩ : Opened kind) : Action (Opened kind)) w w := by
  refine (alike_reveal (.refl v w) a b r keyOwner).bind ?_
  rintro plaintext _ t t' - - rfl hworlds
  exact alike_noteSuccess_return hworlds .recordRead a b r _

/-! ## Operations -/

theorem alike_readOwn (ha : v.Admits w.disk a kind id) (hb : v.Admits w.disk b kind id) :
    PairedRun v.DifferInLogs Eq (v.readOwn kind a id) (v.readOwn kind b id) w w :=
  alike_authorized ha hb fun r _ => alike_opening a b r r.owner w

theorem alike_readHanging {documentOf : kind.Fields → String}
    (ha : ∀ r : Record kind, v.storage.getRecord kind id w.disk = .ok r →
      v.Admits w.disk a .document (documentOf r.fields))
    (hb : ∀ r : Record kind, v.storage.getRecord kind id w.disk = .ok r →
      v.Admits w.disk b .document (documentOf r.fields)) :
    PairedRun v.DifferInLogs Eq (v.readHanging kind a id documentOf)
      (v.readHanging kind b id documentOf) w w := by
  rw [readHanging, readHanging]
  apply alike_after
  intro r t hasked
  obtain ⟨rfl, hget⟩ := of_ask_eq_ok hasked
  exact alike_authorized (ha r hget) (hb r hget) fun document _ =>
    alike_opening a b r document.owner t

theorem alike_listHanging {documentId : String} (ha : v.Admits w.disk a .document documentId)
    (hb : v.Admits w.disk b .document documentId) :
    PairedRun v.DifferInLogs Eq (v.listHanging kind a documentId)
      (v.listHanging kind b documentId) w w :=
  alike_authorized ha hb fun document _ =>
    alike_after fun records t _ =>
      alike_revealEach (.refl v t) a b (fun _ => document.owner) records

theorem alike_store (a b : Caller) (owner plaintext : String)
    (fields : Calendar.Timestamp → kind.Fields) (w : World) :
    PairedRun v.DifferInLogs Eq (v.store a owner plaintext fields)
      (v.store b owner plaintext fields) w w := by
  rw [store, store]
  refine alike_after fun payload t _ => ?_
  refine alike_after fun id t _ => ?_
  refine alike_after fun now t _ => ?_
  refine alike_after fun _ t _ => ?_
  exact alike_noteSuccess_return (.refl v t) .recordStored a b _ _

theorem alike_addHanging {documentId : String} (ha : v.Admits w.disk a .document documentId)
    (hb : v.Admits w.disk b .document documentId) (plaintext : String)
    (fields : Record .document → kind.Fields) :
    PairedRun v.DifferInLogs Eq (v.addHanging kind a documentId plaintext fields)
      (v.addHanging kind b documentId plaintext fields) w w :=
  alike_authorized ha hb fun document _ =>
    alike_store a b document.owner plaintext _ w

theorem alike_updateClaims (ha : v.Admits w.disk a .claims id)
    (hb : v.Admits w.disk b .claims id) (claims : String) :
    PairedRun v.DifferInLogs Eq (v.updateClaims a id claims) (v.updateClaims b id claims) w w := by
  refine alike_authorized ha hb fun r _ => ?_
  refine alike_after fun payload t _ => ?_
  refine alike_after fun now t _ => ?_
  refine alike_after fun _ t _ => ?_
  exact alike_noteSuccess_return (.refl v t) .recordUpdated a b _ _

theorem alike_deleteClaims (ha : v.Admits w.disk a .claims id)
    (hb : v.Admits w.disk b .claims id) :
    PairedRun v.DifferInLogs Eq (v.deleteClaims a id) (v.deleteClaims b id) w w :=
  alike_authorized ha hb fun r _ =>
    alike_after fun _ t _ => alike_noteSuccess (.refl v t) .recordDeleted a b r

theorem alike_deleteDocument (ha : v.Admits w.disk a .document id)
    (hb : v.Admits w.disk b .document id) :
    PairedRun v.DifferInLogs Eq (v.deleteDocument a id) (v.deleteDocument b id) w w := by
  refine alike_authorized ha hb fun document _ => ?_
  refine alike_after fun photoIds t _ => ?_
  refine alike_after fun attachmentIds t _ => ?_
  exact alike_after fun _ t _ => alike_note (.refl v t) .recordDeleted _ _ fun _ => rfl

/-- Requests that differ in their callers, who both have access, go the same way. -/
theorem alike_perform {request : Request} (ha : v.Entitles w.disk a request)
    (hb : v.Entitles w.disk b request) :
    PairedRun v.DifferInLogs Eq (v.perform (request.ofCaller a)) (v.perform (request.ofCaller b))
      w w := by
  have hmap {α : Type} {f : α → Answer} {first second : Action α}
      (h : PairedRun v.DifferInLogs Eq first second w w) :
      PairedRun v.DifferInLogs Eq (f <$> first) (f <$> second) w w :=
    h.map fun _ _ heq => congrArg f heq
  cases request with
  | readClaims _ id => exact hmap (alike_readOwn ha hb)
  | updateClaims _ id claims => exact hmap (alike_updateClaims ha hb claims)
  | deleteClaims _ id => exact hmap (alike_deleteClaims ha hb)
  | readDocument _ id => exact hmap (alike_readOwn ha hb)
  | deleteDocument _ id => exact hmap (alike_deleteDocument ha hb)
  | addPhoto _ documentId contentType data => exact hmap (alike_addHanging ha hb data _)
  | readPhoto _ id => exact hmap (alike_readHanging ha hb)
  | listPhotos _ documentId => exact hmap (alike_listHanging ha hb)
  | addAttachment _ documentId fileName contentType data =>
    exact hmap (alike_addHanging ha hb data _)
  | readAttachment _ id => exact hmap (alike_readHanging ha hb)
  | listAttachments _ documentId => exact hmap (alike_listHanging ha hb)
  | _ => exact ha.elim

/-! ## Whose record it is -/

theorem getRecord_of_onDisk_createRecord {r : Record kind} {x : Unit} {t : World}
    (h : Action.onDisk (v.storage.createRecord r) w = (.ok x, t)) :
    v.storage.getRecord kind r.id t.disk = .ok r := by
  rcases hrun : v.storage.createRecord r w.disk with ⟨e | x, d'⟩
  · rw [onDisk_of_error hrun] at h
    cases h
  · rw [onDisk_of_ok hrun] at h
    cases h
    exact Storage.getRecord_of_createRecord v.ready hrun

/-- A record that was stored belongs to the given owner, under whose key it is sealed. -/
theorem of_store_eq_ok {owner plaintext : String} {fields : Calendar.Timestamp → kind.Fields}
    {r : Record kind} {t : World} (h : v.store caller owner plaintext fields w = (.ok r, t)) :
    r.owner = owner ∧ (∃ now, r.fields = fields now) ∧
      v.service.protect w.initials.next owner plaintext = .ok r.payload ∧
      v.storage.getRecord kind r.id t.disk = .ok r := by
  rcases sealFor_cases v kind owner plaintext w with
    ⟨e, w₁, hseal, -⟩ | ⟨payload, w₁, hseal, -, hprotect⟩
  · rw [store, run_bind_of_error hseal] at h
    cases h
  rw [store, run_bind_of_ok hseal, run_bind_eq_ok_iff] at h
  obtain ⟨id, w₂, -, h⟩ := h
  rw [run_bind_eq_ok_iff] at h
  obtain ⟨now, w₃, -, h⟩ := h
  obtain ⟨stored, hstored⟩ : ∃ stored : Record kind,
      stored = ⟨id, owner, payload, now, fields now⟩ := ⟨_, rfl⟩
  rw [← hstored, run_bind_eq_ok_iff] at h
  obtain ⟨x, w₄, hcreated, h⟩ := h
  have hfound := getRecord_of_onDisk_createRecord hcreated
  have hnoted : v.noteSuccess .recordStored caller stored w₄ =
      (.ok (), (v.noteSuccess .recordStored caller stored w₄).2) := by
    rw [noteSuccess, note_eq]
  have hkeeps := keepsRecords_noteSuccess (v := v) .recordStored caller stored w₄
  rw [run_bind_of_ok hnoted] at h
  cases h
  refine ⟨?_, ⟨now, ?_⟩, ?_, Storage.getRecord_of_keepsRecords hkeeps hfound⟩
  · rw [hstored]
  · rw [hstored]
  · rw [hstored]
    exact hprotect

/-- The answer is a record that was hung on the document with an id. It belongs to the owner of the
document, under whose key its text is sealed, and is found. -/
def HangsForOwner (v : Vault) (w t : World) (kind : Kind) (documentId plaintext : String)
    (answer : Answer) : Prop :=
  ∃ (document : Record .document) (r : Record kind), answer = .record r ∧
    v.storage.getRecord .document documentId w.disk = .ok document ∧
    r.owner = document.owner ∧ r.parent? = some document.id ∧
    v.service.protect w.initials.next document.owner plaintext = .ok r.payload ∧
    v.storage.getRecord kind r.id t.disk = .ok r

theorem hangsForOwner_addHanging {documentId plaintext : String}
    {fields : Record .document → kind.Fields} {answer : Answer} {t : World}
    (hparent : ∀ document, kind.parent? (fields document) = some document.id)
    (h : (Answer.record <$> v.addHanging kind caller documentId plaintext fields) w =
      (.ok answer, t)) :
    v.HangsForOwner w t kind documentId plaintext answer := by
  obtain ⟨r, hrun, rfl⟩ := of_map_eq_ok h
  rw [addHanging, run_bind_eq_ok_iff] at hrun
  obtain ⟨document, u, hauthorized, hrun⟩ := hrun
  obtain ⟨rfl, hdocument, -⟩ := getRecord_of_authorized hauthorized
  obtain ⟨howner, ⟨-, hfields⟩, hprotect, hfound⟩ := of_store_eq_ok hrun
  refine ⟨document, r, rfl, hdocument, howner, ?_, hprotect, hfound⟩
  rw [Record.parent?, hfields, hparent]

/-- Two callers who may access the record that a request is about are answered alike, and what they
leave differs in nothing but what audit logs say; the files of records are the same. What is hung on
a document belongs to the owner of the document and is sealed under the owner's key, whoever hangs
it there. -/
theorem entitled_callers_interchangeable (v : Vault) (w : World) (request : Request)
    (a b : Caller) (ha : v.Entitles w.disk a request) (hb : v.Entitles w.disk b request) :
    (v.perform (request.ofCaller b) w).1 = (v.perform (request.ofCaller a) w).1 ∧
      v.DifferInLogs (v.perform (request.ofCaller a) w).2 (v.perform (request.ofCaller b) w).2 ∧
      (∀ kind id, isValidId id = true →
        (v.perform (request.ofCaller b) w).2.disk.readFile (v.storage.layout.record kind id) =
          (v.perform (request.ofCaller a) w).2.disk.readFile (v.storage.layout.record kind id)) ∧
      (∀ caller documentId contentType data answer t,
        v.perform (.addPhoto caller documentId contentType data) w = (.ok answer, t) →
          v.HangsForOwner w t .photo documentId data answer) ∧
      ∀ caller documentId fileName contentType data answer t,
        v.perform (.addAttachment caller documentId fileName contentType data) w =
            (.ok answer, t) →
          v.HangsForOwner w t .attachment documentId data answer := by
  obtain ⟨hresults, hworlds⟩ := alike_perform ha hb
  refine ⟨?_, hworlds, fun kind id hid => ?_,
    fun caller documentId contentType data answer t h => ?_,
    fun caller documentId fileName contentType data answer t h => ?_⟩
  · generalize (v.perform (request.ofCaller a) w).1 = x at hresults ⊢
    generalize (v.perform (request.ofCaller b) w).1 = y at hresults ⊢
    cases hresults with
    | error e => rfl
    | ok heq => rw [heq]
  · obtain ⟨d', hdisk, hdisks⟩ := hworlds
    rw [hdisk]
    exact hdisks.readFile_record hid
  · exact hangsForOwner_addHanging (fun _ => rfl) h
  · exact hangsForOwner_addHanging (fun _ => rfl) h

/-- An admin is shown the claims of alice as she is. -/
theorem claims_shown_alike :
    ∃ o : Opened .claims,
      (claimsSession.vault.perform (.readClaims ⟨"alice", .user⟩ "record-0")
          claimsSession.world).1 = .ok (.opened o) ∧
        (claimsSession.vault.perform (.readClaims ⟨"root", .admin⟩ "record-0")
          claimsSession.world).1 = .ok (.opened o) := by
  have howner : (claimsSession.vault.storage.getRecord .claims "record-0"
      claimsSession.world.disk).toOption.map (·.owner) = some "alice" := by
    decide +kernel
  have hread : (claimsSession.vault.readClaims ⟨"alice", .user⟩ "record-0"
      claimsSession.world).1.toOption.isSome = true := by
    decide +kernel
  obtain ⟨r, plaintext, t, hanswer⟩ := exists_perform_readClaims hread
  have halice : claimsSession.vault.Entitles claimsSession.world.disk ⟨"alice", .user⟩
      (.readClaims ⟨"alice", .user⟩ "record-0") := by
    intro found hfound
    rw [hfound] at howner
    exact Or.inl (Option.some.inj howner)
  have hroot : claimsSession.vault.Entitles claimsSession.world.disk ⟨"root", .admin⟩
      (.readClaims ⟨"alice", .user⟩ "record-0") :=
    fun _ _ => Or.inr rfl
  have halike := (entitled_callers_interchangeable claimsSession.vault claimsSession.world
    (.readClaims ⟨"alice", .user⟩ "record-0") ⟨"alice", .user⟩ ⟨"root", .admin⟩ halice hroot).1
  exact ⟨⟨r, plaintext⟩, congrArg Prod.fst hanswer, halike.trans (congrArg Prod.fst hanswer)⟩

end Vault

end SealedVault
