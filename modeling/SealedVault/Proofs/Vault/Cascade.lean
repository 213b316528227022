import SealedVault.Proofs.Store.Removals
import SealedVault.Proofs.Vault.Notes
import SealedVault.Proofs.Vault.Recovery
import SealedVault.Proofs.Vault.Touching

/-!
# Deleting a document with what hangs on it

The photos of a document are deleted before its attachments, and it is deleted last. Each record
that hangs on it is deleted by the id that it holds. Where the files of the kinds have directories
and the records are found under their own ids, every step succeeds, and just the document and what
hangs on it are gone. Nothing that was deleted is put back when a later step fails: the attachments
may be impossible to list, or a record may hold an id by which nothing can be deleted.
-/

namespace SealedVault

open Audit (Event)
open Layout (takesAway_nothing)

variable {v : Vault} {s : Storage} {w t u : World} {d d' : Disk} {kind : Kind} {caller : Caller}
  {documentId id : String} {P : Kind → String → Prop}

/-! ## What hangs on a document -/

namespace Storage

/-- A record that hangs on the document holds the id, whatever name its file has. -/
def HangingId (s : Storage) (d : Disk) (documentId : String) (kind : Kind) (id : String) : Prop :=
  ∃ (name : String) (r : Record kind),
    s.getRecord kind name d = .ok r ∧ r.parent? = some documentId ∧ r.id = id

/-- The records that hang on the document are found under the ids that they hold. -/
def HangingNamed (s : Storage) (d : Disk) (documentId : String) : Prop :=
  ∀ (kind : Kind) (name : String) (r : Record kind),
    s.getRecord kind name d = .ok r → r.parent? = some documentId → r.id = name

theorem HangingId.kind_cases (h : s.HangingId d documentId kind id) :
    kind = .photo ∨ kind = .attachment := by
  obtain ⟨name, r, -, hparent, -⟩ := h
  exact Vault.kind_of_hangsOn ⟨r, rfl, hparent⟩

theorem HangingNamed.hangingId_iff (h : s.HangingNamed d documentId) :
    s.HangingId d documentId kind id ↔
      ∃ r : Record kind, s.getRecord kind id d = .ok r ∧ r.parent? = some documentId := by
  constructor
  · rintro ⟨name, r, hr, hparent, rfl⟩
    rw [← h kind name r hr hparent] at hr
    exact ⟨r, hr, hparent⟩
  · rintro ⟨r, hr, hparent⟩
    exact ⟨id, r, hr, hparent, h kind id r hr hparent⟩

end Storage

namespace Layout.TakesAway

theorem hangingNamed (h : s.layout.TakesAway P d d') (hnamed : s.HangingNamed d documentId) :
    s.HangingNamed d' documentId :=
  fun kind name r hr => hnamed kind name r (h.getRecord_eq_ok_iff.mp hr).1

theorem hangingId (h : s.layout.TakesAway P d d') (hhangs : s.HangingId d' documentId kind id) :
    s.HangingId d documentId kind id := by
  obtain ⟨name, r, hr, hparent, hid⟩ := hhangs
  exact ⟨name, r, (h.getRecord_eq_ok_iff.mp hr).1, hparent, hid⟩

theorem hangingId_iff (h : s.layout.TakesAway P d d') (hnot : ∀ id, ¬P kind id) :
    s.HangingId d' documentId kind id ↔ s.HangingId d documentId kind id := by
  refine ⟨h.hangingId, ?_⟩
  rintro ⟨name, r, hr, hparent, hid⟩
  exact ⟨name, r, h.getRecord_eq_ok_iff.mpr ⟨hr, hnot name⟩, hparent, hid⟩

end Layout.TakesAway

namespace Vault

/-! ## Deleting records one after the other -/

/-- Where a record cannot be deleted, those before it are gone. -/
theorem takesAway_deleteEach (v : Vault) (kind : Kind) (ids : List String) (w : World) :
    ∃ gone, gone ⊆ ids ∧
      v.storage.layout.TakesAway (fun kind' id => kind' = kind ∧ id ∈ gone) w.disk
        (v.deleteEach kind ids w).2.disk ∧
      ((v.deleteEach kind ids w).1 = .ok () → gone = ids) := by
  induction ids generalizing w with
  | nil => exact ⟨[], List.Subset.refl _, takesAway_nothing (by simp) _, fun _ => rfl⟩
  | cons id rest ih =>
    rcases v.storage.deleteRecord_footprint kind id w.disk with ⟨e, hfails⟩ | ⟨d, hdelete, -⟩
    · rw [deleteEach, run_bind_of_error (onDisk_of_error hfails)]
      exact ⟨[], List.nil_subset _, takesAway_nothing (by simp) _, fun hok => by cases hok⟩
    · rw [deleteEach, run_bind_of_ok (onDisk_of_ok hdelete)]
      obtain ⟨gone, hsubset, htakes, hall⟩ := ih { w with disk := d }
      refine ⟨id :: gone, List.cons_subset_cons id hsubset, ?_, fun hok => by rw [hall hok]⟩
      apply ((Storage.takesAway_deleteRecord hdelete).trans htakes).congr
      intro kind' id'
      rw [List.mem_cons, and_or_left]

/-- Records that have files are all deleted. -/
theorem deleteEach_eq_ok (hready : v.storage.initialized = true) {ids : List String}
    (hnodup : ids.Nodup)
    (hfiles : ∀ id ∈ ids,
      isValidId id = true ∧ w.disk.isFile (v.storage.layout.record kind id) = true) :
    (v.deleteEach kind ids w).1 = .ok () := by
  induction ids generalizing w with
  | nil => rfl
  | cons id rest ih =>
    obtain ⟨hnot, hnodup⟩ := List.nodup_cons.mp hnodup
    obtain ⟨hid, hfile⟩ := hfiles id List.mem_cons_self
    obtain ⟨d, hdelete, -⟩ := Storage.exists_deleteRecord_of_isFile hready hid hfile
    rw [deleteEach, run_bind_of_ok (onDisk_of_ok hdelete)]
    apply ih hnodup
    intro id' hid'
    obtain ⟨hvalid, hfile'⟩ := hfiles id' (List.mem_cons_of_mem id hid')
    refine ⟨hvalid, ((Storage.takesAway_deleteRecord hdelete).isFile_record_iff hvalid).mpr
      ⟨hfile', ?_⟩⟩
    rintro ⟨-, rfl⟩
    exact hnot hid'

/-! ## Deleting what hangs on a document -/

theorem mem_ids_listByDocument_iff (hready : s.initialized = true) {records : List (Record kind)}
    (hrecords : s.listByDocument kind documentId d = .ok records) (id : String) :
    id ∈ records.map (·.id) ↔ s.HangingId d documentId kind id := by
  have hmem := Storage.mem_listRecords_iff hready hrecords
  simp only [List.mem_map, hmem, decide_eq_true_eq, Storage.HangingId]
  constructor
  · rintro ⟨r, ⟨hparent, name, hr⟩, hid⟩
    exact ⟨name, r, hr, hparent, hid⟩
  · rintro ⟨name, r, hr, hparent, hid⟩
    exact ⟨r, ⟨hparent, name, hr⟩, hid⟩

/-- Whether all of them can be deleted or not, only records that hang on the document are gone. -/
theorem takesAway_deleteHanging (hready : v.storage.initialized = true) (kind : Kind)
    (documentId : String) (w : World) :
    ∃ gone, (∀ kind' id, gone kind' id →
        kind' = kind ∧ v.storage.HangingId w.disk documentId kind' id) ∧
      v.storage.layout.TakesAway gone w.disk (v.deleteHanging kind documentId w).2.disk := by
  rw [deleteHanging]
  cases hlist : v.storage.listByDocument kind documentId w.disk with
  | error e =>
    rw [run_bind_of_error (ask_of_error hlist)]
    exact ⟨fun _ _ => False, fun _ _ => False.elim, takesAway_nothing (fun _ _ => id) _⟩
  | ok records =>
    rw [run_bind_of_ok (ask_of_ok hlist)]
    obtain ⟨gone, hsubset, htakes, -⟩ := takesAway_deleteEach v kind (records.map (·.id)) w
    refine ⟨fun kind' id => kind' = kind ∧ id ∈ gone, ?_, ?_⟩
    · rintro _ id ⟨rfl, hid⟩
      exact ⟨rfl, (mem_ids_listByDocument_iff hready hlist id).mp (hsubset hid)⟩
    · rcases hdelete : v.deleteEach kind (records.map (·.id)) w with ⟨e | ⟨⟩, t⟩
      · rw [run_bind_of_error hdelete]
        rwa [hdelete] at htakes
      · rw [run_bind_of_ok hdelete]
        rwa [hdelete] at htakes

/-- Where that succeeds, all of them are gone. -/
theorem takesAway_of_deleteHanging (hready : v.storage.initialized = true) {ids : List String}
    (hrun : v.deleteHanging kind documentId w = (.ok ids, t)) :
    v.storage.layout.TakesAway
        (fun kind' id => kind' = kind ∧ v.storage.HangingId w.disk documentId kind' id)
        w.disk t.disk ∧
      ∀ id, id ∈ ids ↔ v.storage.HangingId w.disk documentId kind id := by
  rw [deleteHanging, run_bind_eq_ok_iff] at hrun
  obtain ⟨records, u, hask, hrun⟩ := hrun
  obtain ⟨rfl, hlist⟩ := of_ask_eq_ok hask
  rw [run_bind_eq_ok_iff] at hrun
  obtain ⟨_, x, hdelete, hids⟩ := hrun
  cases hids
  have hmem := mem_ids_listByDocument_iff hready hlist
  obtain ⟨gone, -, htakes, hall⟩ := takesAway_deleteEach v kind (records.map (·.id)) u
  rw [hdelete] at htakes hall
  refine ⟨htakes.congr fun kind' id => and_congr_right ?_, hmem⟩
  rintro rfl
  rw [hall rfl, hmem]

/-- Records that are found under their own ids are all deleted, unless a file is in the way of
listing them. -/
theorem deleteHanging_of_named (hready : v.storage.initialized = true)
    (hnamed : v.storage.HangingNamed w.disk documentId) (kind : Kind) :
    (w.disk.isFile (v.storage.layout.kindDirectory kind) = true ∧
        ∃ e, v.deleteHanging kind documentId w = (.error e, w)) ∨
      ∃ ids t, v.deleteHanging kind documentId w = (.ok ids, t) ∧ ids.Pairwise (· < ·) := by
  rw [deleteHanging]
  cases hlist : v.storage.listByDocument kind documentId w.disk with
  | error e =>
    exact Or.inl ⟨Storage.isFile_kindDirectory_of_listRecords_eq_error hready hlist,
      _, run_bind_of_error (ask_of_error hlist)⟩
  | ok records =>
    rw [run_bind_of_ok (ask_of_ok hlist)]
    have hascending : (records.map (·.id)).Pairwise (· < ·) :=
      Storage.pairwise_ids_listRecords hready hlist fun id r hr hparent =>
        hnamed kind id r hr (by simpa using hparent)
    have hdelete : (v.deleteEach kind (records.map (·.id)) w).1 = .ok () := by
      apply deleteEach_eq_ok hready (nodup_of_ascending hascending)
      intro id hid
      rw [mem_ids_listByDocument_iff hready hlist, hnamed.hangingId_iff] at hid
      obtain ⟨r, hr, -⟩ := hid
      exact Storage.isFile_of_getRecord hr
    exact Or.inr ⟨_, _, run_bind_of_ok (Prod.ext hdelete rfl), hascending⟩

/-! ## Deletions that fail -/

/-- What a deletion of a document that failed has done. It took away the files of the records that
`gone` tells, and changed no other file of a record. Each of these had the id that a record hanging
on the document holds, so it was a photo or an attachment, and no attachment is gone before all the
photos are. Where such records are found under the ids that they hold, either nothing is gone, or a
file in the place of their directory is in the way of the attachments, and just the photos are
gone. -/
structure CutShort (s : Storage) (documentId : String) (gone : Kind → String → Prop)
    (d d' : Disk) : Prop where
  loses : s.layout.LosesFiles gone d d'
  hanging {kind : Kind} {id : String} : gone kind id → s.HangingId d documentId kind id
  photos_first {id photoId : String} :
    gone .attachment id → s.HangingId d documentId .photo photoId → gone .photo photoId
  named : s.HangingNamed d documentId →
    (∀ kind id, ¬gone kind id) ∨
      d.isFile (s.layout.kindDirectory .attachment) = true ∧
        ∀ kind id, gone kind id ↔ kind = .photo ∧ s.HangingId d documentId kind id

theorem cutShort_of_keepsFiles (h : s.layout.KeepsFiles d d') :
    CutShort s documentId (fun _ _ => False) d d' where
  loses := (takesAway_nothing (fun _ _ => id) d).losesFiles h
  hanging := False.elim
  photos_first := False.elim
  named _ := Or.inl fun _ _ => id

theorem exists_cutShort_of_photos (hready : v.storage.initialized = true) {e : VaultError}
    (hrun : v.deleteHanging .photo documentId w = (.error e, t)) :
    ∃ gone, CutShort v.storage documentId gone w.disk t.disk := by
  obtain ⟨gone, honly, htakes⟩ := takesAway_deleteHanging hready .photo documentId w
  rw [hrun] at htakes
  refine ⟨gone, htakes.losesFiles (.refl _ _), fun h => (honly _ _ h).2, ?_, fun hnamed => ?_⟩
  · intro id photoId hgone
    cases (honly _ _ hgone).1
  · rcases deleteHanging_of_named hready hnamed .photo with ⟨-, e', hfails⟩ | ⟨ids, t', hok, -⟩
    · rw [hrun] at hfails
      cases hfails
      exact Or.inl htakes.not_of_same_disk
    · rw [hrun] at hok
      cases hok

theorem exists_cutShort_of_attachments (hready : v.storage.initialized = true)
    {photoIds : List String} {e : VaultError}
    (hphotos : v.deleteHanging .photo documentId w = (.ok photoIds, t))
    (hrun : v.deleteHanging .attachment documentId t = (.error e, u)) :
    ∃ gone, CutShort v.storage documentId gone w.disk u.disk := by
  obtain ⟨hfirst, -⟩ := takesAway_of_deleteHanging hready hphotos
  obtain ⟨more, honly, hsecond⟩ := takesAway_deleteHanging hready .attachment documentId t
  rw [hrun] at hsecond
  refine ⟨_, (hfirst.trans hsecond).losesFiles (.refl _ _), ?_, ?_, fun hnamed => Or.inr ?_⟩
  · rintro kind id (⟨-, hhangs⟩ | hmore)
    · exact hhangs
    · exact hfirst.hangingId (honly kind id hmore).2
  · intro id photoId _ hhangs
    exact Or.inl ⟨rfl, hhangs⟩
  · rcases deleteHanging_of_named hready (hfirst.hangingNamed hnamed) .attachment with
      ⟨hblocked, e', hfails⟩ | ⟨ids, t', hok, -⟩
    · rw [hrun] at hfails
      cases hfails
      refine ⟨hfirst.isFile_before hblocked, fun kind id => ?_⟩
      exact or_iff_left (hsecond.not_of_same_disk kind id)
    · rw [hrun] at hok
      cases hok

/-! ## The document and what hangs on it -/

/-- The file with the name of the id belongs to the tree of a document. -/
def InTree (s : Storage) (d : Disk) (documentId : String) (kind : Kind) (id : String) : Prop :=
  (kind = .document ∧ id = documentId) ∨
    ∃ r : Record kind, s.getRecord kind id d = .ok r ∧ r.parent? = some documentId

/-- After what hangs on a document was deleted, the document is still there and can be deleted. -/
theorem exists_deleteRecord_of_deleteHanging {document : Record .document}
    {photoIds attachmentIds : List String}
    (hget : v.storage.getRecord .document documentId w.disk = .ok document)
    (hphotos : v.deleteHanging .photo documentId w = (.ok photoIds, t))
    (hattachments : v.deleteHanging .attachment documentId t = (.ok attachmentIds, u)) :
    ∃ d, v.storage.deleteRecord .document documentId u.disk = (.ok (), d) ∧
      v.storage.layout.TakesAway
        (fun kind id => (kind = .document ∧ id = documentId) ∨
          v.storage.HangingId w.disk documentId kind id) w.disk d ∧
      (∀ id, id ∈ photoIds ↔ v.storage.HangingId w.disk documentId .photo id) ∧
      ∀ id, id ∈ attachmentIds ↔ v.storage.HangingId w.disk documentId .attachment id := by
  have hready := (Storage.getRecord_eq_ok_iff.mp hget).1
  obtain ⟨hfirst, hmemPhotos⟩ := takesAway_of_deleteHanging hready hphotos
  obtain ⟨hsecond, hmemAttachments⟩ := takesAway_of_deleteHanging hready hattachments
  -- the photos are gone, and the attachments that hang on the document are what they were
  have hattachment (id : String) : v.storage.HangingId t.disk documentId .attachment id ↔
      v.storage.HangingId w.disk documentId .attachment id :=
    hfirst.hangingId_iff (by simp)
  have hboth := (hfirst.trans hsecond).congr
    (Q := fun kind id => v.storage.HangingId w.disk documentId kind id) ?_
  · have hstill : v.storage.getRecord .document documentId u.disk = .ok document :=
      hboth.getRecord_eq_ok_iff.mpr ⟨hget, fun hhangs => by simpa using hhangs.kind_cases⟩
    obtain ⟨hid, hfile⟩ := Storage.isFile_of_getRecord hstill
    obtain ⟨d, hdelete, -⟩ := Storage.exists_deleteRecord_of_isFile hready hid hfile
    refine ⟨d, hdelete, ?_, hmemPhotos, fun id => (hmemAttachments id).trans (hattachment id)⟩
    exact (hboth.trans (Storage.takesAway_deleteRecord hdelete)).congr fun kind id => or_comm
  · intro kind id
    constructor
    · rintro (⟨-, hhangs⟩ | ⟨rfl, hhangs⟩)
      · exact hhangs
      · exact (hattachment id).mp hhangs
    · intro hhangs
      rcases hhangs.kind_cases with rfl | rfl
      · exact Or.inl ⟨rfl, hhangs⟩
      · exact Or.inr ⟨rfl, (hattachment id).mpr hhangs⟩

/-- A deletion of a document that fails leaves the document as it is, and of what hangs on it takes
away photos and then attachments up to the first that cannot be listed or deleted. -/
theorem exists_cutShort (v : Vault) (w : World) (caller : Caller) (id : String) (e : VaultError)
    (hfails : (v.perform (.deleteDocument caller id) w).1 = .error e) :
    ∃ gone, CutShort v.storage id gone w.disk
      (v.perform (.deleteDocument caller id) w).2.disk := by
  rw [perform, run_map] at hfails ⊢
  rcases hrun : v.deleteDocument caller id w with ⟨e' | _, w'⟩
  swap
  · rw [hrun] at hfails
    cases hfails
  simp only
  rw [deleteDocument, run_bind_eq_error_iff] at hrun
  rcases hrun with hrefused | ⟨document, t, hfound, hrun⟩
  · have hspares := spares_authorized (v := v) .document caller id w
    rw [hrefused] at hspares
    exact ⟨_, cutShort_of_keepsFiles hspares⟩
  obtain ⟨rfl, hget, -⟩ := getRecord_of_authorized hfound
  have hready := (Storage.getRecord_eq_ok_iff.mp hget).1
  rw [run_bind_eq_error_iff] at hrun
  rcases hrun with hphotos | ⟨photoIds, u, hphotos, hrun⟩
  · exact exists_cutShort_of_photos hready hphotos
  rw [run_bind_eq_error_iff] at hrun
  rcases hrun with hattachments | ⟨attachmentIds, x, hattachments, hrun⟩
  · exact exists_cutShort_of_attachments hready hphotos hattachments
  -- nothing can fail from here on
  obtain ⟨d, hdelete, -⟩ := exists_deleteRecord_of_deleteHanging hget hphotos hattachments
  rw [run_bind_of_ok (onDisk_of_ok hdelete), note_eq] at hrun
  cases hrun

/-- The disk with the travel document and its photo, and with a file in the place of the directory
for attachments. -/
def blockedTravels : Disk :=
  ((photoDisk.removeTree ["data", "attachments"]).put? ["data"] "attachments" (.file [])).getD
    photoDisk

/-- The world of the travel session with that disk. -/
def blockedTravelsWorld : World := { travelSession.world with disk := blockedTravels }

theorem deleteDocument_blockedTravels :
    (travelSession.vault.deleteDocument ⟨"alice", .user⟩ "d-1" blockedTravelsWorld).1 =
        .error (.ofStorage (.ofFault .notDirectory)) ∧
      travelSession.vault.storage.hasRecord .photo "p-1"
        (travelSession.vault.deleteDocument ⟨"alice", .user⟩ "d-1"
          blockedTravelsWorld).2.disk = false := by
  decide +kernel

theorem perform_deleteDocument_blockedTravels :
    (travelSession.vault.perform (.deleteDocument ⟨"alice", .user⟩ "d-1")
      blockedTravelsWorld).1 = .error (.ofStorage (.ofFault .notDirectory)) := by
  rw [perform, run_map, deleteDocument_blockedTravels.1]
  rfl

/-- The deletion of the travel document fails there, and its photo is lost. -/
theorem photo_lost_beside_blocked_attachments :
    (travelSession.vault.perform (.deleteDocument ⟨"alice", .user⟩ "d-1")
        blockedTravelsWorld).1 = .error (.ofStorage (.ofFault .notDirectory)) ∧
      travelSession.vault.storage.hasRecord .photo "p-1" blockedTravelsWorld.disk = true ∧
      travelSession.vault.storage.hasRecord .photo "p-1"
        (travelSession.vault.perform (.deleteDocument ⟨"alice", .user⟩ "d-1")
          blockedTravelsWorld).2.disk = false := by
  refine ⟨perform_deleteDocument_blockedTravels, ?_, ?_⟩
  · decide +kernel
  · rw [perform, perform_map, deleteDocument_blockedTravels.2]

/-- Nothing but that was done. -/
theorem cutShort_blockedTravels :
    ∃ gone, CutShort travelSession.vault.storage "d-1" gone blockedTravelsWorld.disk
      (travelSession.vault.perform (.deleteDocument ⟨"alice", .user⟩ "d-1")
        blockedTravelsWorld).2.disk :=
  exists_cutShort travelSession.vault blockedTravelsWorld ⟨"alice", .user⟩ "d-1" _
    perform_deleteDocument_blockedTravels

/-! ## Deletions that succeed -/

/-- The event that tells of the deletion of a document. -/
def reportDeletion (caller : Caller) (documentId : String) (photoIds attachmentIds : List String)
    (e : Event) : Event :=
  ((e.withUser caller.userId).withResource Kind.document.name documentId).withDetails
    (deletionDetails photoIds attachmentIds)

/-- What a deletion of a document that succeeds does. The files of its tree were taken away, and
then one event was noted, which tells the ids of the photos and attachments among them. -/
structure Cascades (v : Vault) (caller : Caller) (documentId : String)
    (photoIds attachmentIds : List String) (event : Event) (w w' : World) : Prop where
  loses : v.storage.layout.LosesFiles (InTree v.storage w.disk documentId) w.disk w'.disk
  nothing_hangs (kind : Kind) : v.storage.listByDocument kind documentId w'.disk = .ok []
  photos_ascending : photoIds.Pairwise (· < ·)
  mem_photos (id : String) : id ∈ photoIds ↔ InTree v.storage w.disk documentId .photo id
  attachments_ascending : attachmentIds.Pairwise (· < ·)
  mem_attachments (id : String) :
    id ∈ attachmentIds ↔ InTree v.storage w.disk documentId .attachment id
  reports : event.Reports .recordDeleted true caller Kind.document.name documentId
  details : event.details = some (deletionDetails photoIds attachmentIds)
  logged : ∃ d, v.storage.layout.TakesAway (InTree v.storage w.disk documentId) w.disk d ∧
    w'.disk = (Audit.log v.storage event d).2
  notes : v.AuditWritable w → v.Notes [event] w w'

/-- Where the files of the kinds have directories and the records that hang on a document are found
under their own ids, these are all deleted. -/
theorem exists_deleteHanging_both (hready : v.storage.initialized = true)
    (hkinds : ∀ kind, w.disk.find (v.storage.layout.kindDirectory kind) = .ok .directory)
    (hnamed : v.storage.HangingNamed w.disk documentId) :
    ∃ photoIds attachmentIds t u,
      v.deleteHanging .photo documentId w = (.ok photoIds, t) ∧
        v.deleteHanging .attachment documentId t = (.ok attachmentIds, u) ∧
        photoIds.Pairwise (· < ·) ∧ attachmentIds.Pairwise (· < ·) := by
  have hfree (kind : Kind) : w.disk.isFile (v.storage.layout.kindDirectory kind) = false := by
    rw [Disk.isFile, hkinds]
  rcases deleteHanging_of_named hready hnamed .photo with
    ⟨hblocked, -⟩ | ⟨photoIds, t, hphotos, hphotosAscend⟩
  · rw [hfree] at hblocked
    cases hblocked
  obtain ⟨htakes, -⟩ := takesAway_of_deleteHanging hready hphotos
  rcases deleteHanging_of_named hready (htakes.hangingNamed hnamed) .attachment with
    ⟨hblocked, -⟩ | ⟨attachmentIds, u, hattachments, hattachmentsAscend⟩
  · have hbefore := htakes.isFile_before hblocked
    rw [hfree] at hbefore
    cases hbefore
  exact ⟨photoIds, attachmentIds, t, u, hphotos, hattachments, hphotosAscend, hattachmentsAscend⟩

/-- Nothing hangs on a document after its tree was taken away and an event was noted. -/
theorem listByDocument_of_takesAway (hready : s.initialized = true)
    (hkinds : ∀ kind, d.find (s.layout.kindDirectory kind) = .ok .directory)
    (htree : s.layout.TakesAway (InTree s d documentId) d d') (event : Event) (kind : Kind) :
    s.listByDocument kind documentId (Audit.log s event d').2 = .ok [] := by
  have hfind := Disk.find_directory_of_keepsDirectories htree.keepsDirectories (hkinds kind)
  have hrooted := (Layout.rooted_of_find_kindDirectory hfind).1
  have hkeeps := (Audit.auditOnly_log hrooted event).keeps
  apply Storage.listByDocument_eq_nil hready (Disk.find_directory_of_keepsDirectories hkeeps hfind)
  intro name r hr hparent
  rw [Storage.getRecord_log_eq hrooted, htree.getRecord_eq_ok_iff] at hr
  exact hr.2 (Or.inr ⟨r, hr.1, hparent⟩)

/-- Nothing is noted before the document is gone. -/
theorem notes_deletions (h : v.AuditWritable w) {photoIds attachmentIds : List String}
    (hphotos : v.deleteHanging .photo documentId w = (.ok photoIds, t))
    (hattachments : v.deleteHanging .attachment documentId t = (.ok attachmentIds, u))
    (hdelete : v.storage.deleteRecord .document documentId u.disk = (.ok (), d)) :
    v.Notes [] w { u with disk := d } := by
  have hfirst := (quiet_deleteHanging .photo documentId).notes w h
  rw [hphotos] at hfirst
  have hsecond := (quiet_deleteHanging .attachment documentId).notes t hfirst.auditWritable
  rw [hattachments] at hsecond
  have hthird := (quiet_deleteRecord .document documentId).notes u hsecond.auditWritable
  rw [onDisk_of_ok hdelete] at hthird
  exact (hfirst.trans hsecond).trans hthird

/-- Where the files of the kinds have directories and records are found under their own ids, whoever
may access a document can delete it. Just its tree is gone then, and that is noted. -/
theorem exists_cascades (v : Vault) (w : World) (caller : Caller) (id : String)
    (document : Record .document)
    (hkinds : ∀ kind, w.disk.find (v.storage.layout.kindDirectory kind) = .ok .directory)
    (hnamed : ∀ kind name (r : Record kind),
      v.storage.getRecord kind name w.disk = .ok r → r.id = name)
    (hdocument : v.storage.getRecord .document id w.disk = .ok document)
    (hcaller : document.owner = caller.userId ∨ caller.role = .admin) :
    ∃ photoIds attachmentIds event w',
      v.perform (.deleteDocument caller id) w = (.ok .done, w') ∧
        v.Cascades caller id photoIds attachmentIds event w w' := by
  have hready := (Storage.getRecord_eq_ok_iff.mp hdocument).1
  have hhanging : v.storage.HangingNamed w.disk id := fun kind name r hr _ => hnamed kind name r hr
  obtain ⟨photoIds, attachmentIds, t, u, hphotos, hattachments, hphotosAscend,
    hattachmentsAscend⟩ := exists_deleteHanging_both hready hkinds hhanging
  obtain ⟨d, hdelete, htakes, hmemPhotos, hmemAttachments⟩ :=
    exists_deleteRecord_of_deleteHanging hdocument hphotos hattachments
  have htree : v.storage.layout.TakesAway (InTree v.storage w.disk id) w.disk d :=
    htakes.congr fun kind id' => or_congr_right hhanging.hangingId_iff
  have hinTree {kind : Kind} (hkind : kind ≠ .document) (id' : String) :
      v.storage.HangingId w.disk id kind id' ↔ InTree v.storage w.disk id kind id' := by
    rw [hhanging.hangingId_iff, InTree]
    simp [hkind]
  have hrun : v.deleteDocument caller id w =
      v.note .recordDeleted (reportDeletion caller document.id photoIds attachmentIds)
        { u with disk := d } := by
    rw [deleteDocument,
      run_bind_of_ok (authorized_of_grants hdocument (Record.grants_iff.mpr hcaller)),
      run_bind_of_ok hphotos, run_bind_of_ok hattachments, run_bind_of_ok (onDisk_of_ok hdelete)]
    rfl
  rw [hnamed .document id document hdocument] at hrun
  refine ⟨photoIds, attachmentIds, nextEvent { u with disk := d } .recordDeleted
    (reportDeletion caller id photoIds attachmentIds), (v.deleteDocument caller id w).2, ?_, ?_⟩
  · rw [perform, run_map, hrun, note_eq]
    rfl
  rw [hrun]
  exact {
    loses := htree.losesFiles (spares_note _ _ _)
    nothing_hangs := listByDocument_of_takesAway hready hkinds htree _
    photos_ascending := hphotosAscend
    mem_photos := fun id' => (hmemPhotos id').trans (hinTree (by decide) id')
    attachments_ascending := hattachmentsAscend
    mem_attachments := fun id' => (hmemAttachments id').trans (hinTree (by decide) id')
    reports := ⟨rfl, rfl, rfl, rfl, rfl⟩
    details := rfl
    logged := ⟨d, htree, rfl⟩
    notes := fun hw => by
      have hnotes := notes_deletions hw hphotos hattachments hdelete
      exact hnotes.trans (notes_note hnotes.auditWritable .recordDeleted _ rfl) }

/-- The travel document is deleted with its photo. -/
theorem travels_deleted :
    ∃ photoIds attachmentIds event w',
      travelSession.vault.perform (.deleteDocument ⟨"alice", .user⟩ "d-1") photoWorld =
          (.ok .done, w') ∧
        travelSession.vault.Cascades ⟨"alice", .user⟩ "d-1" photoIds attachmentIds event
          photoWorld w' := by
  obtain ⟨base, hd⟩ := exists_named_of_filled filled_photoWorld
  obtain ⟨-, -, -, hdocument⟩ := exists_shelves_photoWorld
  have hkinds : ∀ kind, photoWorld.disk.find
      (travelSession.vault.storage.layout.kindDirectory kind) = .ok .directory := by
    intro kind
    cases kind <;> decide +kernel
  exact exists_cascades travelSession.vault photoWorld ⟨"alice", .user⟩ "d-1" travelDocument hkinds
    (fun kind name r hr => hd.named (Storage.shelf_eq_some_iff_getRecord.mpr hr))
    (Storage.shelf_eq_some_iff_getRecord.mp hdocument) (Or.inl rfl)

end Vault

end SealedVault
