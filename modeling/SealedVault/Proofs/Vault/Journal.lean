import SealedVault.Proofs.Audit.Fidelity
import SealedVault.Proofs.Vault.Accountability
import SealedVault.Proofs.Vault.Notes

/-!
# One event for each outcome

Where the audit logs can be extended, the events that a request adds to them follow from its
outcome: one event if it succeeds, one failed event if the caller is refused or a payload does not
open, and none if it fails otherwise, however far it came. Listings alone are left out: they note
every payload that does not open.
-/

namespace SealedVault

open Audit (Event)

/-- Who has a new record stored. -/
def Request.stores? : Request → Option Caller
  | storeClaims caller _ => some caller
  | storeDocument caller _ _ _ => some caller
  | addPhoto caller _ _ _ => some caller
  | addAttachment caller _ _ _ _ => some caller
  | _ => none

/-- Who reads which record. -/
def Request.reads? : Request → Option (Caller × Kind × String)
  | readClaims caller id => some (caller, .claims, id)
  | readDocument caller id => some (caller, .document, id)
  | readPhoto caller id => some (caller, .photo, id)
  | readAttachment caller id => some (caller, .attachment, id)
  | _ => none

namespace Vault

variable {v : Vault} {w t : World} {kind : Kind} {caller : Caller} {id : String}

/-- A record, or the document that it hangs on, cannot be loaded. -/
def Missing (s : Storage) (kind : Kind) (id : String) (e : StorageError) (d : Disk) : Prop :=
  s.getRecord kind id d = .error e ∨
    ∃ r documentId, s.getRecord kind id d = .ok r ∧ r.parent? = some documentId ∧
      s.getRecord .document documentId d = .error e

/-- The records of a kind that are there no more are those with the given ids. -/
def Lost (s : Storage) (kind : Kind) (ids : List String) (before after : Disk) : Prop :=
  ids.Nodup ∧ ∀ id, id ∈ ids ↔
    s.hasRecord kind id before = true ∧ s.hasRecord kind id after = false

/-- The events that are due for the outcome of a request, given the disk before and after it. -/
inductive Due (v : Vault) (before after : Disk) (request : Request) :
    Except VaultError Answer → List Event → Prop
  | stored {caller : Caller} {kind : Kind} {r : Record kind} {e : Event}
    (stores : request.stores? = some caller)
    (reports : e.Reports .recordStored true caller kind.name r.id) :
    Due v before after request (.ok (.record r)) [e]
  | read {caller : Caller} {kind : Kind} {id plaintext : String} {r : Record kind} {e : Event}
    (reads : request.reads? = some (caller, kind, id))
    (found : v.storage.getRecord kind id before = .ok r)
    (reports : e.Reports .recordRead true caller kind.name r.id) :
    Due v before after request (.ok (.opened ⟨r, plaintext⟩)) [e]
  | updated {caller : Caller} {id claims : String} {r : Record .claims} {e : Event}
    (updates : request = .updateClaims caller id claims)
    (reports : e.Reports .recordUpdated true caller Kind.claims.name r.id) :
    Due v before after request (.ok (.record r)) [e]
  | deletedClaims {caller : Caller} {id : String} {r : Record .claims} {e : Event}
    (deletes : request = .deleteClaims caller id)
    (found : v.storage.getRecord .claims id before = .ok r)
    (reports : e.Reports .recordDeleted true caller Kind.claims.name r.id) :
    Due v before after request (.ok .done) [e]
  | deletedDocument {caller : Caller} {id : String} {r : Record .document}
    {photoIds attachmentIds : List String} {e : Event}
    (deletes : request = .deleteDocument caller id)
    (found : v.storage.getRecord .document id before = .ok r)
    (reports : e.Reports .recordDeleted true caller Kind.document.name r.id)
    (details : e.details = some (deletionDetails photoIds attachmentIds))
    (photos : Lost v.storage .photo photoIds before after)
    (attachments : Lost v.storage .attachment attachmentIds before after) :
    Due v before after request (.ok .done) [e]
  | accessed {caller : Caller} {date : String} {day : Calendar.Date} {es : List Event} {e : Event}
    (accesses : request = .auditEvents caller date) (names : Calendar.Date.read date = .ok day)
    (reports : e.Reports .auditAccessed true caller auditResource day.text) :
    Due v before after request (.ok (.events es)) [e]
  | resealed {summary : ResealSummary} {e : Event} (reseals : request = .reseal)
    (counts : 0 < summary.resealed + summary.failed)
    (eventType : e.eventType = .recordsResealed) (success : e.success = true)
    (details : e.details = some summary.details) :
    Due v before after request (.ok (.summary summary)) [e]
  | nothingResealed {summary : ResealSummary} (reseals : request = .reseal)
    (counts : summary.resealed + summary.failed = 0) :
    Due v before after request (.ok (.summary summary)) []
  | refused {caller : Caller} {resource resourceType resourceId : String} {e : Event}
    (made : request.caller? = some caller)
    (reports : e.Reports .permissionDenied false caller resourceType resourceId) :
    Due v before after request (.error (.permissionDenied caller.userId resource)) [e]
  | unopened {caller : Caller} {kind : Kind} {id keyOwner : String} {r : Record kind}
    {error : Sealing.SealingError} {e : Event}
    (reads : request.reads? = some (caller, kind, id))
    (found : v.storage.getRecord kind id before = .ok r)
    (fails : v.service.reveal keyOwner r.payload = .error error)
    (reports : e.Reports .decryptionFailed false caller kind.name r.id)
    (details : e.details = some (failureDetails r.payload error)) :
    Due v before after request (.error (.sealing error)) [e]
  | missing {caller : Caller} {kind : Kind} {id : String} {error : StorageError}
    (reads : request.reads? = some (caller, kind, id))
    (missing : Missing v.storage kind id error before) (refusal : ¬error.IsRefusal) :
    Due v before after request (.error (.ofStorage error)) []
  | failed {error : VaultError} (reads : request.reads? = none) (refusal : ¬error.IsRefusal) :
    Due v before after request (.error error) []

/-! ## Operations -/

theorem caller?_of_stores? {request : Request} (h : request.stores? = some caller) :
    request.caller? = some caller := by
  cases request <;> cases h <;> rfl

theorem caller?_of_reads? {request : Request} (h : request.reads? = some (caller, kind, id)) :
    request.caller? = some caller := by
  cases request <;> cases h <;> rfl

section

variable {before : Disk} {request : Request} (h : v.AuditWritable w)

include h

theorem settles_store (hstores : request.stores? = some caller)
    (hreads : request.reads? = none) (owner plaintext : String)
    (fields : Calendar.Timestamp → kind.Fields) :
    v.Settles (fun result after => Due v before after request (result.map .record)) w
      (v.store caller owner plaintext fields) := by
  have hfailed (e : VaultError) (d : Disk) (he : ¬e.IsRefusal) :
      Due v before d request (.error e) [] := .failed hreads he
  refine .after h (quiet_sealFor kind owner plaintext) (fun e t _ => hfailed e t.disk) ?_
  intro payload t _ ht
  refine .after ht quiet_newRecordId (fun e u _ => hfailed e u.disk) ?_
  intro id u _ hu
  refine .after hu quiet_now (fun e x _ => hfailed e x.disk) ?_
  intro now x _ hx
  refine .after hx (quiet_createRecord _) (fun e y _ => hfailed e y.disk) ?_
  intro _ y _ hy
  exact settles_noteSuccess hy .recordStored caller _ fun d event hevent => .stored hstores hevent

theorem settles_addHanging (hstores : request.stores? = some caller)
    (hreads : request.reads? = none) (documentId plaintext : String)
    (fields : Record .document → kind.Fields) :
    v.Settles (fun result after => Due v before after request (result.map .record)) w
      (v.addHanging kind caller documentId plaintext fields) := by
  refine .authorized h (fun e _ he => .failed hreads (VaultError.not_isRefusal_ofStorage he))
    (fun resource d resourceId event => .refused (caller?_of_stores? hstores)) ?_
  intro document _
  exact settles_store h hstores hreads document.owner plaintext _

/-- A record that is there and may be accessed is opened with some key, or that it does not open is
noted. -/
theorem settles_opening (hreads : request.reads? = some (caller, kind, id)) {r : Record kind}
    (hr : v.storage.getRecord kind id before = .ok r) (keyOwner : String) :
    v.Settles (fun result after => Due v before after request (result.map .opened)) w (do
      let plaintext ← v.reveal caller r keyOwner
      v.noteSuccess .recordRead caller r
      return ⟨r, plaintext⟩) := by
  refine .reveal h (fun error d event => .unopened hreads hr) ?_
  intro plaintext
  exact settles_noteSuccess h .recordRead caller r fun d event => .read hreads hr

theorem settles_readOwn (hreads : request.reads? = some (caller, kind, id)) :
    v.Settles (fun result after => Due v w.disk after request (result.map .opened)) w
      (v.readOwn kind caller id) := by
  refine .authorized h (fun e he => .missing hreads (Or.inl he))
    (fun resource d resourceId event => .refused (caller?_of_reads? hreads)) ?_
  intro r hr
  exact settles_opening h hreads hr r.owner

theorem settles_readHanging (hreads : request.reads? = some (caller, kind, id))
    {documentOf : kind.Fields → String}
    (hparent : ∀ fields, kind.parent? fields = some (documentOf fields)) :
    v.Settles (fun result after => Due v w.disk after request (result.map .opened)) w
      (v.readHanging kind caller id documentOf) := by
  refine .after_ask h (v.storage.neverRefuses_getRecord kind id)
    (fun e he => .missing hreads (Or.inl he)) ?_
  intro r hr
  refine .authorized h
    (fun e he => .missing hreads
      (Or.inr ⟨r, documentOf r.fields, hr, hparent r.fields, he⟩))
    (fun resource d resourceId event => .refused (caller?_of_reads? hreads)) ?_
  intro document _
  exact settles_opening h hreads hr document.owner

theorem settles_updateClaims (claims : String) :
    v.Settles (fun result after =>
      Due v before after (.updateClaims caller id claims) (result.map .record)) w
      (v.updateClaims caller id claims) := by
  have hfailed (e : VaultError) (d : Disk) (he : ¬e.IsRefusal) :
      Due v before d (.updateClaims caller id claims) (.error e) [] := .failed rfl he
  refine .authorized h (fun e _ he => hfailed _ _ (VaultError.not_isRefusal_ofStorage he))
    (fun resource d resourceId event => .refused rfl) ?_
  intro r _
  refine .after h (quiet_sealFor .claims r.owner claims) (fun e t _ => hfailed e t.disk) ?_
  intro payload t _ ht
  refine .after ht quiet_now (fun e u _ => hfailed e u.disk) ?_
  intro now u _ hu
  refine .after hu (quiet_updateRecord _) (fun e x _ => hfailed e x.disk) ?_
  intro _ x _ hx
  exact settles_noteSuccess hx .recordUpdated caller _ fun d event => .updated rfl

theorem settles_auditEvents (date : String) :
    v.Settles (fun result after =>
      Due v before after (.auditEvents caller date) (result.map .events)) w
      (v.auditEvents caller date) := by
  rw [auditEvents]
  cases hdate : Calendar.Date.read date with
  | error fault =>
    have hrun : (throw (VaultError.invalidArgument ("invalid audit date: " ++ Text.quoted date)) :
        Action (List Event)) w =
          (.error (.invalidArgument ("invalid audit date: " ++ Text.quoted date)), w) := rfl
    exact settles_of_run hrun (.failed rfl id) (.refl h)
  | ok day =>
    simp only
    split
    · refine .after_ask h (v.neverRefuses_dayEvents day)
        (fun e _ he => .failed rfl (VaultError.not_isRefusal_ofStorage he)) ?_
      intro es _
      exact settles_note (fun _ => rfl) h rfl fun d _ =>
        .accessed rfl hdate ⟨rfl, rfl, rfl, rfl, rfl⟩
    · exact settles_note (fun _ => rfl) h rfl fun d _ => .refused rfl ⟨rfl, rfl, rfl, rfl, rfl⟩

theorem settles_reseal :
    v.Settles (fun result after => Due v before after .reseal (result.map .summary)) w
      v.reseal := by
  rw [reseal]
  split
  · refine .after h (quiet_resealKinds Kind.all) (fun e t _ he => .failed rfl he) ?_
    intro summary t _ ht
    split
    next hcounts =>
      exact settles_note (fun _ => rfl) ht rfl fun d _ => .resealed rfl (by omega) rfl rfl rfl
    next hcounts => exact settles_pure ht (.nothingResealed rfl (by omega))
  · exact settles_pure h (.nothingResealed rfl rfl)

theorem settles_deleteClaims :
    v.Settles (fun result after =>
      Due v w.disk after (.deleteClaims caller id) (result.map fun _ => .done)) w
      (v.deleteClaims caller id) := by
  have hfailed (e : VaultError) (d : Disk) (he : ¬e.IsRefusal) :
      Due v w.disk d (.deleteClaims caller id) (.error e) [] := .failed rfl he
  refine .authorized h (fun e _ he => hfailed _ _ (VaultError.not_isRefusal_ofStorage he))
    (fun resource d resourceId event => .refused rfl) ?_
  intro r hr
  refine .after h (quiet_deleteRecord .claims id) (fun e t _ => hfailed e t.disk) ?_
  intro _ t _ ht
  apply Settles.of_bind_pure
  exact settles_noteSuccess ht .recordDeleted caller r fun d event => .deletedClaims rfl hr

/-! ## Deleting a document -/

theorem drops_onDisk (hrun : Action.onDisk (v.storage.deleteRecord kind id) w = (.ok (), t)) :
    v.storage.Drops kind [id] w.disk t.disk := by
  rcases hdelete : v.storage.deleteRecord kind id w.disk with ⟨e | ⟨⟩, d⟩
  · rw [onDisk_of_error hdelete] at hrun
    cases hrun
  · rw [onDisk_of_ok hdelete] at hrun
    cases hrun
    exact Storage.drops_deleteRecord h hdelete

theorem drops_deleteEach {ids : List String} (hrun : v.deleteEach kind ids w = (.ok (), t)) :
    v.storage.Drops kind ids w.disk t.disk := by
  induction ids generalizing w with
  | nil =>
    cases hrun
    exact .nil _ _ _
  | cons id rest ih =>
    obtain ⟨_, u, hfirst, hrest⟩ := run_bind_eq_ok_iff.mp hrun
    have hu := (quiet_deleteRecord kind id).notes w h
    rw [hfirst] at hu
    exact (drops_onDisk h hfirst).cons (ih hu.auditWritable hrest)

theorem drops_deleteHanging {documentId : String} {ids : List String}
    (hrun : v.deleteHanging kind documentId w = (.ok ids, t)) :
    v.storage.Drops kind ids w.disk t.disk := by
  rw [deleteHanging, run_bind_eq_ok_iff] at hrun
  obtain ⟨records, u, hask, hrun⟩ := hrun
  obtain ⟨rfl, -⟩ := of_ask_eq_ok hask
  rw [run_bind_eq_ok_iff] at hrun
  obtain ⟨_, x, hdelete, hids⟩ := hrun
  cases hids
  exact drops_deleteEach h hdelete

omit h in
/-- What was dropped between two disks is lost, if nothing else of its kind changed before and
after. -/
theorem lost_of_drops {s : Storage} {ids : List String} {d d' after : Disk}
    (hdrops : s.Drops kind ids d d')
    (hbefore : ∀ id, s.hasRecord kind id d = s.hasRecord kind id before)
    (hafter : ∀ id, s.hasRecord kind id after = s.hasRecord kind id d') :
    Lost s kind ids before after := by
  refine ⟨hdrops.nodup, fun id => ?_⟩
  rw [hdrops.mem_iff, hbefore, hafter]

theorem settles_deleteDocument :
    v.Settles (fun result after =>
      Due v w.disk after (.deleteDocument caller id) (result.map fun _ => .done)) w
      (v.deleteDocument caller id) := by
  have hfailed (e : VaultError) (d : Disk) (he : ¬e.IsRefusal) :
      Due v w.disk d (.deleteDocument caller id) (.error e) [] := .failed rfl he
  refine .authorized h (fun e _ he => hfailed _ _ (VaultError.not_isRefusal_ofStorage he))
    (fun resource d resourceId event => .refused rfl) ?_
  intro document hdocument
  refine .after h (quiet_deleteHanging .photo id) (fun e t _ => hfailed e t.disk) ?_
  intro photoIds t hphotos ht
  refine .after ht (quiet_deleteHanging .attachment id) (fun e u _ => hfailed e u.disk) ?_
  intro attachmentIds u hattachments hu
  refine .after hu (quiet_deleteRecord .document id) (fun e x _ => hfailed e x.disk) ?_
  intro _ x hdelete hx
  have hphotos := drops_deleteHanging h hphotos
  have hattachments := drops_deleteHanging ht hattachments
  have hdelete := drops_onDisk hu hdelete
  apply Settles.of_bind_pure
  refine settles_note (fun _ => rfl) hx rfl fun d haudit => ?_
  have hnoted (kind : Kind) (id : String) :=
    Storage.hasRecord_of_auditOnly hx.auditReadyAt.stands haudit kind id
  refine .deletedDocument rfl hdocument ⟨rfl, rfl, rfl, rfl, rfl⟩ rfl ?_ ?_
  · refine lost_of_drops hphotos (fun _ => rfl) fun id => ?_
    rw [hnoted, hdelete.hasRecord_of_ne (by decide), hattachments.hasRecord_of_ne (by decide)]
  · refine lost_of_drops hattachments (hphotos.hasRecord_of_ne (by decide)) fun id => ?_
    rw [hnoted, hdelete.hasRecord_of_ne (by decide)]

end

/-! ## Requests -/

/-- The events that are due for the outcome of a request are noted, and no others: where the audit
logs can be extended, a request that is not a listing adds them to the ends of the logs of their
days, at instants that the clock told meanwhile, and leaves all other logs as they were. -/
theorem due_events_are_noted (v : Vault) (w : World) (request : Request)
    (hlists : request.lists = false) (hwritable : v.AuditWritable w) :
    ∃ events,
      Due v w.disk (v.perform request w).2.disk request (v.perform request w).1 events ∧
        v.Notes events w (v.perform request w).2 := by
  change v.Settles (fun result after => Due v w.disk after request result) w (v.perform request)
  cases request with
  | storeClaims caller claims =>
    exact (settles_store hwritable rfl rfl caller.userId claims _).map
  | readClaims caller id => exact (settles_readOwn hwritable rfl).map
  | updateClaims caller id claims => exact (settles_updateClaims hwritable claims).map
  | deleteClaims caller id => exact (settles_deleteClaims hwritable).map
  | listClaims caller => cases hlists
  | storeDocument caller title contentType data =>
    exact (settles_store hwritable rfl rfl caller.userId data _).map
  | readDocument caller id => exact (settles_readOwn hwritable rfl).map
  | deleteDocument caller id => exact (settles_deleteDocument hwritable).map
  | listDocuments caller => cases hlists
  | addPhoto caller documentId contentType data =>
    exact (settles_addHanging hwritable rfl rfl documentId data _).map
  | readPhoto caller id => exact (settles_readHanging hwritable rfl fun _ => rfl).map
  | listPhotos caller documentId => cases hlists
  | addAttachment caller documentId fileName contentType data =>
    exact (settles_addHanging hwritable rfl rfl documentId data _).map
  | readAttachment caller id => exact (settles_readHanging hwritable rfl fun _ => rfl).map
  | listAttachments caller documentId => cases hlists
  | reseal => exact (settles_reseal hwritable).map
  | auditEvents caller date => exact (settles_auditEvents hwritable date).map

theorem exists_perform_storeClaims {claims : String}
    (h : (v.storeClaims caller claims w).1.toOption.isSome = true) :
    ∃ (r : Record .claims) (t : World),
      v.perform (.storeClaims caller claims) w = (.ok (.record r), t) := by
  rcases hrun : v.storeClaims caller claims w with ⟨e | r, t⟩
  · rw [hrun] at h
    cases h
  · refine ⟨r, t, ?_⟩
    rw [perform, run_map, hrun]
    rfl

/-- When alice stores claims in a new data directory, that is noted. -/
theorem stored_claims_are_noted :
    ∃ (r : Record .claims) (t : World) (e : Event),
      (Session.sample .disabled).vault.perform (.storeClaims ⟨"alice", .user⟩ "one")
          (Session.sample .disabled).world = (.ok (.record r), t) ∧
        e.Reports .recordStored true ⟨"alice", .user⟩ Kind.claims.name r.id ∧
        (Session.sample .disabled).vault.Notes [e] (Session.sample .disabled).world t := by
  have hstored : ((Session.sample .disabled).vault.storeClaims ⟨"alice", .user⟩ "one"
      (Session.sample .disabled).world).1.toOption.isSome = true := by
    decide +kernel
  have hwritable : (Session.sample .disabled).vault.AuditWritable
      (Session.sample .disabled).world := by
    simp only [AuditWritable, Session.sample]
    exact Audit.auditWritable_sampleDisk _
  obtain ⟨r, t, hanswer⟩ := exists_perform_storeClaims hstored
  have hnoted := due_events_are_noted (Session.sample .disabled).vault
    (Session.sample .disabled).world (.storeClaims ⟨"alice", .user⟩ "one") rfl hwritable
  rw [hanswer] at hnoted
  obtain ⟨events, hdue, hnotes⟩ := hnoted
  cases hdue with
  | stored stores reports =>
    cases stores
    exact ⟨r, t, _, hanswer, reports, hnotes⟩
  | updated updates reports => cases updates

end Vault

end SealedVault
