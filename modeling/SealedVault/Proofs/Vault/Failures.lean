import SealedVault.Proofs.Store.WorkingFiles
import SealedVault.Proofs.Vault.Authority

/-!
# Failed requests

A request that stores, replaces or deletes one record does so in its last step that can fail: what
comes before looks, draws and notes, and what comes after notes. So where it fails no file has
changed outside the audit directory. A new record gets a file only where no record has one.
-/

namespace SealedVault

open Disk (KeepsDirectories SameFiles)
open Layout (auditPlace recordPlace recordPlace_injective recordPlace_ne_auditPlace)

/-- The requests that store a new record. -/
def Request.creates : Request → Bool
  | storeClaims .. => true
  | storeDocument .. => true
  | addPhoto .. => true
  | addAttachment .. => true
  | _ => false

/-! ## Directories -/

namespace Storage

variable {s : Storage} {kind : Kind} {d d' : Disk}

/-- Changing a file keeps the directories where writing it does. -/
theorem keepsDirectories_make_change {p : Path} {f : Disk → Except Disk.Fault Disk}
    {a : DiskAction Unit}
    (ha : a = do
      DiskAction.ask fun _ => s.checkReady
      DiskAction.make (Disk.makeParent p)
      DiskAction.change f)
    (hf : ∀ m d', f m = .ok d' → KeepsDirectories m d') (d : Disk) :
    KeepsDirectories d (a d).2 := by
  have hmade : KeepsDirectories d (Disk.makeParent p d).2 :=
    (Disk.onlyMakesDirectories_makeDirectory p.parent d).keeps
  rcases make_change_cases ha d with ⟨e, m, hfails, rfl | rfl⟩ | ⟨d', hok, hchange⟩
  · rw [hfails]
    exact .refl _
  · rw [hfails]
    exact hmade
  · rw [hok]
    exact hmade.trans (hf _ d' hchange)

theorem keepsDirectories_createRecord (s : Storage) (r : Record kind) (d : Disk) :
    KeepsDirectories d (s.createRecord r d).2 := by
  rcases ask_cases (a := s.createRecord r) rfl d with ⟨e, hfails⟩ | ⟨p, -, hrun⟩
  · rw [hfails]
    exact .refl d
  · rw [hrun]
    refine keepsDirectories_make_change rfl (fun m d' hreplace => ?_) d
    obtain ⟨front, name, -, hput⟩ := Disk.put?_of_replaceFile hreplace
    exact Disk.keepsDirectories_of_put? hput

/-- Whatever is done to records or noted, directories stay. -/
theorem keeps_directories (s : Storage) (before : Disk) : s.Keeps (KeepsDirectories before) where
  create r d h := h.trans (s.keepsDirectories_createRecord r d)
  update r d h := by
    rcases s.updateRecord_footprint r d with ⟨e, hfails⟩ | ⟨d', hok, hputs⟩
    · rwa [hfails]
    · rw [hok]
      exact h.trans hputs.keepsDirectories
  delete kind id d h := by
    rcases s.deleteRecord_footprint kind id d with ⟨e, hfails⟩ | ⟨d', hok, hremoves⟩
    · rwa [hfails]
    · rw [hok]
      exact h.trans hremoves.keepsDirectories
  log e d h := by
    refine h.trans (keepsDirectories_make_change rfl (fun m d' happend => ?_) d)
    obtain ⟨front, name, content, -, hput⟩ := Disk.put?_of_appendFile happend
    exact Disk.keepsDirectories_of_put? hput

end Storage

/-! ## Files of records -/

namespace Layout

variable {l : Layout} {d d' d'' : Disk}

/-- Every record that has a file has the same file afterwards. -/
def KeepsRecords (l : Layout) (d d' : Disk) : Prop :=
  ∀ kind id bytes, isValidId id = true → d.readFile (l.record kind id) = .ok bytes →
    d'.readFile (l.record kind id) = .ok bytes

theorem KeepsRecords.refl (l : Layout) (d : Disk) : l.KeepsRecords d d := fun _ _ _ _ h => h

theorem KeepsRecords.trans (h : l.KeepsRecords d d') (h' : l.KeepsRecords d' d'') :
    l.KeepsRecords d d'' :=
  fun kind id bytes hid hread => h' kind id bytes hid (h kind id bytes hid hread)

theorem KeepsFiles.keepsRecords (h : l.KeepsFiles d d') (hkeeps : KeepsDirectories d d') :
    l.KeepsRecords d d' := by
  intro kind id bytes hid hread
  refine Disk.readFile_of_keepsDirectories hkeeps (h _ fun rest => ?_) hread
  rw [place_record hid]
  exact recordPlace_ne_auditPlace kind id rest

end Layout

namespace Storage

variable {kind : Kind} {id : String} {d d' : Disk}

theorem isFile_of_absentPath {s : Storage} {p : Path} (h : s.absentPath kind id d = .ok p) :
    d.isFile p = false := by
  rw [absentPath, bind_eq_ok_iff] at h
  obtain ⟨q, -, hp⟩ := h
  split at hp
  · cases hp
  next hfile =>
    cases hp
    exact Bool.eq_false_iff.mpr hfile

/-- A new record changes no file of a record. -/
theorem keepsRecords_createRecord (s : Storage) (r : Record kind) (d : Disk) :
    s.layout.KeepsRecords d (s.createRecord r d).2 := by
  intro kind' id bytes hid hread
  refine Disk.readFile_of_keepsDirectories (s.keepsDirectories_createRecord r d) ?_ hread
  rw [Layout.place_record hid]
  rcases ask_cases (a := s.createRecord r) rfl d with ⟨e, hfails⟩ | ⟨p, hpath, -⟩
  · rw [hfails]
  rcases s.createRecord_footprint r d with ⟨e, m, hfails, hsame⟩ | ⟨d', hok, hsets⟩
  · rw [hfails]
    exact hsame _
  · rw [hok, hsets, if_neg]
    intro hplace
    obtain ⟨rfl, rfl⟩ := recordPlace_injective hplace
    have habsent := isFile_of_absentPath hpath
    obtain ⟨-, rfl⟩ := eq_record_of_absentPath hpath
    rw [Disk.isFile_eq_true_iff.mpr ⟨bytes, hread⟩] at habsent
    cases habsent

theorem getRecord_of_keepsRecords {s : Storage} {r : Record kind}
    (h : s.layout.KeepsRecords d d') (hr : s.getRecord kind id d = .ok r) :
    s.getRecord kind id d' = .ok r := by
  obtain ⟨hready, hid, bytes, hread, hdecode⟩ := getRecord_eq_ok_iff.mp hr
  exact getRecord_eq_ok_iff.mpr ⟨hready, hid, bytes, h kind id bytes hid hread, hdecode⟩

/-- A record that was stored is found. -/
theorem getRecord_of_createRecord {s : Storage} (hready : s.initialized = true) {r : Record kind}
    (h : s.createRecord r d = (.ok (), d')) : s.getRecord kind r.id d' = .ok r := by
  rcases ask_cases (a := s.createRecord r) rfl d with ⟨e, hfails⟩ | ⟨p, hpath, hrun⟩
  · rw [h] at hfails
    cases hfails
  obtain ⟨hid, rfl⟩ := eq_record_of_absentPath hpath
  rw [h] at hrun
  rcases make_change_cases (a := s.replace (s.layout.record kind r.id) r.toBytes) rfl d with
    ⟨e, m, hfails, -⟩ | ⟨m, hok, hreplace⟩
  · rw [← hrun] at hfails
    cases hfails
  · rw [← hrun] at hok
    cases hok
    exact getRecord_eq_ok_iff.mpr
      ⟨hready, hid, _, Disk.readFile_of_replaceFile hreplace, r.ofBytes?_toBytes⟩

end Storage

namespace Vault

variable {v : Vault} {w : World} {kind : Kind} {α β : Type}

/-! ## Actions that keep the files of records -/

/-- Every record that has a file has the same file after the action. -/
def KeepsRecords (v : Vault) (a : Action α) : Prop :=
  ∀ w, v.storage.layout.KeepsRecords w.disk (a w).2.disk

theorem KeepsRecords.bind {a : Action α} {f : α → Action β} (h : v.KeepsRecords a)
    (hnext : ∀ x, v.KeepsRecords (f x)) : v.KeepsRecords (a >>= f) := by
  intro w
  apply run_bind_rel (R := fun (s t : World) => v.storage.layout.KeepsRecords s.disk t.disk)
  · intro s t u hfirst hsecond
    exact hfirst.trans hsecond
  · exact h w
  · intro x t _
    exact hnext x t

theorem KeepsRecords.map {a : Action α} (h : v.KeepsRecords a) (f : α → β) :
    v.KeepsRecords (f <$> a) := by
  intro w
  rw [run_map]
  exact h w

theorem keepsRecords_of_same_disk {a : Action α} (h : ∀ w, (a w).2.disk = w.disk) :
    v.KeepsRecords a := by
  intro w
  rw [h w]
  exact .refl _ _

theorem keepsRecords_note (eventType : Audit.EventType) (complete : Audit.Event → Audit.Event) :
    v.KeepsRecords (v.note eventType complete) := by
  intro w
  rw [note_eq]
  exact (Audit.keepsFiles_log v.storage _ w.disk).keepsRecords
    ((v.storage.keeps_directories w.disk).log _ _ (.refl _))

theorem keepsRecords_noteSuccess (eventType : Audit.EventType) (caller : Caller)
    (r : Record kind) : v.KeepsRecords (v.noteSuccess eventType caller r) :=
  keepsRecords_note eventType _

theorem keepsRecords_authorized (kind : Kind) (caller : Caller) (id : String) :
    v.KeepsRecords (v.authorized kind caller id) := by
  rw [authorized]
  apply (keepsRecords_of_same_disk fun _ => rfl).bind
  intro r
  have hauthorize : v.KeepsRecords (v.authorize caller r) := by
    rw [authorize]
    cases r.checkAccess caller with
    | ok => exact keepsRecords_of_same_disk fun _ => rfl
    | error e =>
      exact (keepsRecords_note _ _).bind fun _ => keepsRecords_of_same_disk fun _ => rfl
  exact hauthorize.bind fun _ => keepsRecords_of_same_disk fun _ => rfl

theorem keepsRecords_store (caller : Caller) (owner plaintext : String)
    (fields : Calendar.Timestamp → kind.Fields) :
    v.KeepsRecords (v.store caller owner plaintext fields) := by
  rw [store]
  apply (keepsRecords_of_same_disk fun w => by rw [sealFor_eq]).bind
  intro payload
  apply (keepsRecords_of_same_disk fun _ => rfl).bind
  intro id
  apply (keepsRecords_of_same_disk fun _ => rfl).bind
  intro now
  have hcreate (r : Record kind) :
      v.KeepsRecords (Action.onDisk (v.storage.createRecord r)) :=
    fun w => v.storage.keepsRecords_createRecord r w.disk
  apply (hcreate _).bind
  intro _
  exact (keepsRecords_note _ _).bind fun _ => keepsRecords_of_same_disk fun _ => rfl

/-- A request that stores a new record changes no file of a record, whatever comes of it. -/
theorem keepsRecords_perform {request : Request} (hcreates : request.creates = true) :
    v.KeepsRecords (v.perform request) := by
  have hadds {kind : Kind} (caller : Caller) (documentId plaintext : String)
      (fields : Record .document → kind.Fields) :
      v.KeepsRecords (v.addHanging kind caller documentId plaintext fields) :=
    (keepsRecords_authorized .document caller documentId).bind fun document =>
      keepsRecords_store caller document.owner plaintext _
  cases request with
  | storeClaims caller claims => exact (keepsRecords_store caller caller.userId claims _).map _
  | storeDocument caller title contentType data =>
    exact (keepsRecords_store caller caller.userId data _).map _
  | addPhoto caller documentId contentType data => exact (hadds caller documentId data _).map _
  | addAttachment caller documentId fileName contentType data =>
    exact (hadds caller documentId data _).map _
  | _ => cases hcreates

/-! ## Actions that fail -/

/-- An action that fails has changed no file outside the audit directory. -/
def SparesOnError (v : Vault) (a : Action α) : Prop :=
  ∀ w e t, a w = (.error e, t) → v.storage.layout.KeepsFiles w.disk t.disk

theorem Spares.onError {a : Action α} (h : v.Spares a) : v.SparesOnError a := by
  intro w e t hrun
  have hkeeps := h w
  rwa [hrun] at hkeeps

/-- What comes first must change nothing for what fails after it. -/
theorem Spares.bind_onError {a : Action α} {f : α → Action β} (h : v.Spares a)
    (hnext : ∀ x, v.SparesOnError (f x)) : v.SparesOnError (a >>= f) := by
  intro w e t hrun
  have hfirst := h w
  rw [run_bind_eq_error_iff] at hrun
  rcases hrun with hfails | ⟨x, u, hok, hfails⟩
  · rwa [hfails] at hfirst
  · rw [hok] at hfirst
    exact hfirst.trans (hnext x u e t hfails)

/-- What comes after something that changes files must not fail. -/
theorem SparesOnError.bind {a : Action α} {f : α → Action β} (h : v.SparesOnError a)
    (hnext : ∀ x u, ∃ y t, f x u = (.ok y, t)) : v.SparesOnError (a >>= f) := by
  intro w e t hrun
  rw [run_bind_eq_error_iff] at hrun
  rcases hrun with hfails | ⟨x, u, -, hfails⟩
  · exact h w e t hfails
  · obtain ⟨y, t', hok⟩ := hnext x u
    rw [hok] at hfails
    cases hfails

theorem SparesOnError.map {a : Action α} (h : v.SparesOnError a) (f : α → β) :
    v.SparesOnError (f <$> a) := by
  intro w e t hrun
  rw [run_map] at hrun
  rcases ha : a w with ⟨e' | x, u⟩
  · rw [ha] at hrun
    cases hrun
    exact h w _ _ ha
  · rw [ha] at hrun
    cases hrun

theorem exists_note_ok (eventType : Audit.EventType) (complete : Audit.Event → Audit.Event)
    (w : World) : ∃ t, v.note eventType complete w = (.ok (), t) :=
  ⟨_, note_eq v eventType complete w⟩

theorem exists_note_return (eventType : Audit.EventType) (complete : Audit.Event → Audit.Event)
    (x : α) (w : World) :
    ∃ y t, (do
      v.note eventType complete
      return x : Action α) w = (.ok y, t) := by
  rw [run_bind_of_ok (note_eq v eventType complete w)]
  exact ⟨x, _, rfl⟩

/-- What is done to the disk alone spares it on an error if no file is changed then. -/
theorem sparesOnError_onDisk {a : DiskAction Unit}
    (h : ∀ d, (∃ e d', a d = (.error e, d') ∧ SameFiles d d') ∨ ∃ d', a d = (.ok (), d')) :
    v.SparesOnError (Action.onDisk a) := by
  intro w e t hrun
  rcases h w.disk with ⟨e', d', hfails, hsame⟩ | ⟨d', hok⟩
  · rw [onDisk_of_error hfails] at hrun
    cases hrun
    exact Layout.keepsFiles_of_sameFiles hsame
  · rw [onDisk_of_ok hok] at hrun
    cases hrun

theorem sparesOnError_createRecord (r : Record kind) :
    v.SparesOnError (Action.onDisk (v.storage.createRecord r)) :=
  sparesOnError_onDisk fun d =>
    (v.storage.createRecord_footprint r d).imp_right fun ⟨d', hok, _⟩ => ⟨d', hok⟩

theorem sparesOnError_updateRecord (r : Record kind) :
    v.SparesOnError (Action.onDisk (v.storage.updateRecord r)) :=
  sparesOnError_onDisk fun d =>
    (v.storage.updateRecord_footprint r d).imp (fun ⟨e, hfails⟩ => ⟨e, d, hfails, .refl d⟩)
      fun ⟨d', hok, _⟩ => ⟨d', hok⟩

theorem sparesOnError_deleteRecord (kind : Kind) (id : String) :
    v.SparesOnError (Action.onDisk (v.storage.deleteRecord kind id)) :=
  sparesOnError_onDisk fun d =>
    (v.storage.deleteRecord_footprint kind id d).imp (fun ⟨e, hfails⟩ => ⟨e, d, hfails, .refl d⟩)
      fun ⟨d', hok, _⟩ => ⟨d', hok⟩

theorem sparesOnError_store (caller : Caller) (owner plaintext : String)
    (fields : Calendar.Timestamp → kind.Fields) :
    v.SparesOnError (v.store caller owner plaintext fields) := by
  rw [store]
  apply (spares_sealFor kind owner plaintext).bind_onError
  intro payload
  apply spares_newRecordId.bind_onError
  intro id
  apply spares_now.bind_onError
  intro now
  apply (sparesOnError_createRecord _).bind
  intro _ u
  exact exists_note_return _ _ _ u

theorem sparesOnError_addHanging (kind : Kind) (caller : Caller) (documentId plaintext : String)
    (fields : Record .document → kind.Fields) :
    v.SparesOnError (v.addHanging kind caller documentId plaintext fields) :=
  (spares_authorized .document caller documentId).bind_onError fun document =>
    sparesOnError_store caller document.owner plaintext _

theorem sparesOnError_updateClaims (caller : Caller) (id claims : String) :
    v.SparesOnError (v.updateClaims caller id claims) := by
  rw [updateClaims]
  apply (spares_authorized .claims caller id).bind_onError
  intro r
  apply (spares_sealFor .claims r.owner claims).bind_onError
  intro payload
  apply spares_now.bind_onError
  intro now
  apply (sparesOnError_updateRecord _).bind
  intro _ u
  exact exists_note_return _ _ _ u

theorem sparesOnError_deleteClaims (caller : Caller) (id : String) :
    v.SparesOnError (v.deleteClaims caller id) := by
  rw [deleteClaims]
  apply (spares_authorized .claims caller id).bind_onError
  intro r
  apply (sparesOnError_deleteRecord .claims id).bind
  intro _ u
  obtain ⟨t, ht⟩ := exists_note_ok (v := v) .recordDeleted _ u
  exact ⟨(), t, ht⟩

/-- A request that changes one record at most and fails has changed no file outside the audit
directory. -/
theorem sparesOnError_perform {request : Request} (hreseal : request ≠ .reseal)
    (hdelete : ∀ caller id, request ≠ .deleteDocument caller id) :
    v.SparesOnError (v.perform request) := by
  by_cases hreads : request.onlyReads = true
  · exact (spares_perform hreads).onError
  cases request with
  | storeClaims caller claims => exact (sparesOnError_store caller caller.userId claims _).map _
  | updateClaims caller id claims => exact (sparesOnError_updateClaims caller id claims).map _
  | deleteClaims caller id => exact (sparesOnError_deleteClaims caller id).map _
  | storeDocument caller title contentType data =>
    exact (sparesOnError_store caller caller.userId data _).map _
  | addPhoto caller documentId contentType data =>
    exact (sparesOnError_addHanging .photo caller documentId data _).map _
  | addAttachment caller documentId fileName contentType data =>
    exact (sparesOnError_addHanging .attachment caller documentId data _).map _
  | deleteDocument caller id => exact absurd rfl (hdelete caller id)
  | reseal => exact absurd rfl hreseal
  | _ => exact absurd rfl hreads

/-- Where a request other than a deletion of a document or a pass over all records fails, every
record has the file that it had, and no file is new outside the audit directory. Where a new record
is to be stored, no record loses its file, or gets another, in any case. That files are replaced by
way of working files makes no difference, as long as nothing has their names. -/
theorem failed_requests_keep_records (v : Vault) (w : World) (request : Request) :
    (request ≠ .reseal → (∀ caller id, request ≠ .deleteDocument caller id) →
      ∀ e, (v.perform request w).1 = .error e →
        v.storage.layout.KeepsRecords w.disk (v.perform request w).2.disk ∧
          v.storage.layout.KeepsFiles w.disk (v.perform request w).2.disk) ∧
      (request.creates = true →
        v.storage.layout.KeepsRecords w.disk (v.perform request w).2.disk) ∧
      ∀ (kind : Kind) (r : Record kind) (working : String) (d : Disk), IsWorkingName working →
        v.storage.IsFree kind working d →
          v.storage.createThrough working r d = v.storage.createRecord r d ∧
            v.storage.updateThrough working r d = v.storage.updateRecord r d := by
  refine ⟨fun hreseal hdelete e hfails => ?_, fun hcreates => keepsRecords_perform hcreates w,
    fun kind r working d hworking hfree => ?_⟩
  · have hfiles := sparesOnError_perform hreseal hdelete w e _ (Prod.ext hfails rfl)
    exact ⟨hfiles.keepsRecords
      (keeps_perform (v.storage.keeps_directories w.disk) request (.refl _)), hfiles⟩
  · exact ⟨Storage.createThrough_eq hworking hfree, Storage.updateThrough_eq hworking hfree⟩

/-- The world of the claims session, in which the ids are counted from the beginning again. -/
def recountedWorld : World :=
  { claimsSession.world with recordIds := .ofFunction fun n => "record-" ++ Nat.repr n }

/-- Bob cannot store claims under the id of the claims of alice, which stay. -/
theorem claims_kept_from_collision :
    ∃ e bytes,
      (claimsSession.vault.perform (.storeClaims ⟨"bob", .user⟩ "two") recountedWorld).1 =
          .error e ∧
        claimsSession.vault.storage.layout.KeepsFiles recountedWorld.disk
          (claimsSession.vault.perform (.storeClaims ⟨"bob", .user⟩ "two") recountedWorld).2.disk ∧
        (claimsSession.vault.perform (.storeClaims ⟨"bob", .user⟩ "two")
          recountedWorld).2.disk.readFile
            (claimsSession.vault.storage.layout.record .claims "record-0") = .ok bytes := by
  have hfile : recountedWorld.disk.isFile
      (claimsSession.vault.storage.layout.record .claims "record-0") = true := by
    decide +kernel
  obtain ⟨bytes, hread⟩ := Disk.isFile_eq_true_iff.mp hfile
  have hfails : (claimsSession.vault.storeClaims ⟨"bob", .user⟩ "two"
      recountedWorld).1.toOption.isSome = false := by
    decide +kernel
  obtain ⟨e, he⟩ : ∃ e, (claimsSession.vault.perform (.storeClaims ⟨"bob", .user⟩ "two")
      recountedWorld).1 = .error e := by
    rcases hrun : claimsSession.vault.storeClaims ⟨"bob", .user⟩ "two" recountedWorld with
      ⟨e | r, t⟩
    · exact ⟨e, by rw [perform, run_map, hrun]; rfl⟩
    · rw [hrun] at hfails
      cases hfails
  obtain ⟨hrecords, hfiles⟩ := (failed_requests_keep_records claimsSession.vault recountedWorld
    (.storeClaims ⟨"bob", .user⟩ "two")).1 (by simp) (by simp) e he
  exact ⟨e, bytes, he, hfiles, hrecords .claims "record-0" bytes (by decide) hread⟩

end Vault

end SealedVault
