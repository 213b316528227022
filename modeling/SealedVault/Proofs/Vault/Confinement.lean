import SealedVault.Proofs.Store.Cabinet
import SealedVault.Proofs.Store.OwnFiles
import SealedVault.Proofs.Vault.AuditTrouble
import SealedVault.Proofs.Vault.Recovery

/-!
# Operations stay in their files

Ids and dates are arbitrary texts, and ids are also found in records that were stored. Whatever they
are, an operation of the vault, of the records or of the audit logs changes no file but those of
records with valid ids and the logs of days. What it is answered depends on no other file either,
except that a file in the place of the directory of a day is in the way of the log of that day.
-/

namespace SealedVault

open Layout (OfRecords auditPlace decidesRecords_ofRecords)
open Sealing (Service)

variable {s : Storage} {R : Disk → Disk → Prop} {I : Disk → Prop} {v : Vault} {w w' : World}
  {d : Disk} {kind : Kind} {id : String}

/-! ## Operations -/

/-- What can be asked of the audit logs. -/
inductive AuditRequest where
  | log (e : Audit.Event)
  | ofDay (date : String)
  | ofDays (start finish : String)
  | ofUser (user date : String)
  | ofResource (resourceType resourceId date : String)

/-- Carries out a request on the logs. Noting an event tells of none. -/
def Storage.serveAudit (s : Storage) : AuditRequest → DiskAction (List Audit.Event)
  | .log e => (fun _ => []) <$> Audit.log s e
  | .ofDay date => DiskAction.ask (Audit.readEvents s date)
  | .ofDays start finish => DiskAction.ask (Audit.readRange s start finish)
  | .ofUser user date => DiskAction.ask (Audit.readByUser s user date)
  | .ofResource resourceType resourceId date =>
    DiskAction.ask (Audit.readByResource s resourceType resourceId date)

/-- What can be done in a data directory. -/
inductive Operation where
  | vault (request : Request)
  | records (request : RecordRequest)
  /-- The records of a kind that satisfy a condition are asked for. -/
  | listing {kind : Kind} (keep : Record kind → Bool)
  | audit (request : AuditRequest)

/-- What an operation is answered with. -/
inductive Reply where
  | vault (result : Except VaultError Answer)
  | records (result : Except StorageError RecordAnswer)
  | audit (result : Except StorageError (List Audit.Event))

/-- Carries out an operation. Requests to the vault are made to one over the storage. -/
def Storage.operate (s : Storage) (service : Service) (w : World) : Operation → Reply × World
  | .vault request =>
    match Vault.ofStorage s service with
    | .ok v => (.vault (v.perform request w).1, (v.perform request w).2)
    | .error e => (.vault (.error e), w)
  | .records request =>
    (.records (s.serve request w.disk).1, { w with disk := (s.serve request w.disk).2 })
  | .listing keep => (.records ((s.listRecords _ keep w.disk).map .listed), w)
  | .audit request =>
    (.audit (s.serveAudit request w.disk).1, { w with disk := (s.serveAudit request w.disk).2 })

/-- The operation adds to an audit log on its own account or reads one. -/
def Operation.isAboutLogs : Operation → Bool
  | .vault (.auditEvents _ _) => true
  | .audit _ => true
  | _ => false

/-! ## What operations change -/

theorem Storage.Keeps.serve (h : s.Keeps I) (request : RecordRequest) (hd : I d) :
    I (s.serve request d).2 := by
  cases request with
  | create kind r =>
    rw [Storage.serve, run_map]
    exact h.create r d hd
  | update kind r =>
    rw [Storage.serve, run_map]
    exact h.update r d hd
  | delete kind id =>
    rw [Storage.serve, run_map]
    exact h.delete kind id d hd
  | _ =>
    rw [Storage.serve, run_map]
    exact hd

theorem Storage.Keeps.serveAudit (h : s.Keeps I) (request : AuditRequest) (hd : I d) :
    I (s.serveAudit request d).2 := by
  cases request with
  | log e =>
    rw [Storage.serveAudit, run_map]
    exact h.log e d hd
  | _ => exact hd

theorem Storage.Keeps.operate (h : s.Keeps I) (service : Service) (o : Operation)
    (hw : I w.disk) : I (s.operate service w o).2.disk := by
  cases o with
  | vault request =>
    rw [Storage.operate, Vault.ofStorage]
    by_cases hready : s.initialized = true
    · simp only [dif_pos hready]
      exact Vault.keeps_perform (v := ⟨s, service, hready⟩) h request hw
    · simp only [dif_neg hready]
      exact hw
  | records request => exact h.serve request hw
  | listing keep => exact hw
  | audit request => exact h.serveAudit request hw

theorem Storage.keeps_changesOwn (s : Storage) (d : Disk) : s.Keeps (s.layout.ChangesOwn d) where
  create r m h := h.trans (s.changesOwn_createRecord r m)
  update r m h := h.trans (s.changesOwn_updateRecord r m)
  delete kind id m h := h.trans (s.changesOwn_deleteRecord kind id m)
  log e m h := h.trans (s.changesOwn_log e m)

/-! ## What answers depend on -/

theorem Storage.SameRecords.coupled_serve (h : s.SameRecords R) (request : RecordRequest) :
    Coupled R (s.serve request) := by
  cases request with
  | create kind r => exact (h.create r).map _
  | get kind id => exact (DiskAction.coupled_ask (h.getRecord_eq kind id)).map _
  | update kind r => exact (h.update r).map _
  | delete kind id => exact (h.delete kind id).map _
  | has kind id =>
    refine (DiskAction.coupled_ask fun d d' hd => ?_).map _
    rw [h.hasRecord_eq kind id d d' hd]
  | listAll kind => exact (DiskAction.coupled_ask (h.listRecords_eq _)).map _
  | listByOwner kind owner => exact (DiskAction.coupled_ask (h.listRecords_eq _)).map _
  | listByDocument kind document => exact (DiskAction.coupled_ask (h.listRecords_eq _)).map _

theorem Storage.coupled_serveAudit (s : Storage) (request : AuditRequest) :
    Coupled s.layout.AgreesOnOwn (s.serveAudit request) := by
  cases request with
  | log e => exact (s.coupled_log e).map _
  | ofDay date =>
    exact DiskAction.coupled_ask fun d d' h => Audit.readEvents_congr (Audit.readDay_eq h) date
  | ofDays start finish =>
    exact DiskAction.coupled_ask fun d d' h =>
      Audit.readRange_congr (Audit.readDay_eq h) start finish
  | ofUser user date =>
    exact DiskAction.coupled_ask fun d d' h =>
      Audit.readByUser_congr (Audit.readDay_eq h) user date
  | ofResource resourceType resourceId date =>
    exact DiskAction.coupled_ask fun d d' h =>
      Audit.readByResource_congr (Audit.readDay_eq h) resourceType resourceId date

/-- An operation has the same answer in both worlds if it can be carried out on disks that are
related, and the worlds stay related. -/
theorem Storage.SameRecords.operate_eq (h : s.SameRecords R) (service : Service) (o : Operation)
    (hlogs : o.isAboutLogs = true → (∀ request, Coupled R (s.serveAudit request)) ∧
      ∀ day d d', R d d' → Audit.readDay s day d' = Audit.readDay s day d)
    (hw : World.Related R w w') :
    (s.operate service w' o).1 = (s.operate service w o).1 ∧
      World.Related R (s.operate service w o).2 (s.operate service w' o).2 := by
  cases o with
  | vault request =>
    rw [Storage.operate, Storage.operate, Vault.ofStorage]
    by_cases hready : s.initialized = true
    · have hcoupled : Coupled (World.Related R)
          ((⟨s, service, hready⟩ : Vault).perform request) := by
        by_cases hrequest : ∀ caller date, request ≠ .auditEvents caller date
        · exact Storage.SameRecords.coupled_perform (v := ⟨s, service, hready⟩) h hrequest
        · push Not at hrequest
          obtain ⟨caller, date, rfl⟩ := hrequest
          apply Storage.SameRecords.coupled_perform_of_sameDays (v := ⟨s, service, hready⟩) h
          intro day d d' hd
          rw [Vault.dayEvents, Vault.dayEvents, (hlogs rfl).2 day d d' hd]
      obtain ⟨hresult, hrel⟩ := hcoupled w w' hw
      simp only [dif_pos hready]
      exact ⟨congrArg Reply.vault hresult, hrel⟩
    · simp only [dif_neg hready, true_and]
      exact hw
  | records request =>
    obtain ⟨d', rfl, hd⟩ := hw
    obtain ⟨hresult, hrel⟩ := h.coupled_serve request w.disk d' hd
    exact ⟨congrArg Reply.records hresult, _, rfl, hrel⟩
  | listing keep =>
    obtain ⟨d', rfl, hd⟩ := hw
    refine ⟨?_, d', rfl, hd⟩
    rw [Storage.operate, Storage.operate, h.listRecords_eq keep w.disk d' hd]
  | audit request =>
    obtain ⟨d', rfl, hd⟩ := hw
    obtain ⟨hresult, hrel⟩ := (hlogs rfl).1 request w.disk d' hd
    exact ⟨congrArg Reply.audit hresult, _, rfl, hrel⟩

/-! ## Ids that are not valid -/

/-- The id of a record that a request of the vault names. -/
def Request.id? : Request → Option String
  | readClaims _ id => some id
  | updateClaims _ id _ => some id
  | deleteClaims _ id => some id
  | readDocument _ id => some id
  | deleteDocument _ id => some id
  | addPhoto _ documentId _ _ => some documentId
  | readPhoto _ id => some id
  | listPhotos _ documentId => some documentId
  | addAttachment _ documentId _ _ _ => some documentId
  | readAttachment _ id => some id
  | listAttachments _ documentId => some documentId
  | _ => none

/-- The id of a record that a request to the records names, with the answer if it is not valid. -/
def RecordRequest.refusal? : RecordRequest → Option (String × Except StorageError RecordAnswer)
  | create _ r => some (r.id, .error (.invalidId r.id))
  | get _ id => some (id, .error (.invalidId id))
  | update _ r => some (r.id, .error (.invalidId r.id))
  | delete _ id => some (id, .error (.invalidId id))
  | has _ id => some (id, .ok (.told false))
  | _ => none

/-- How the vault refuses an id that is not valid. -/
def VaultError.ofInvalidId (id : String) : VaultError :=
  invalidArgument ("invalid record id: " ++ Text.quoted id)

theorem Storage.serve_of_invalid {request : RecordRequest}
    {answer : Except StorageError RecordAnswer} (hrequest : request.refusal? = some (id, answer))
    (hid : isValidId id = false) (d : Disk) : s.serve request d = (answer, d) := by
  cases request with
  | create kind r =>
    cases hrequest
    rw [serve, run_map, createRecord_of_invalid hid]
    rfl
  | get kind id =>
    cases hrequest
    rw [serve, run_map, DiskAction.ask, getRecord_of_invalid hid]
    rfl
  | update kind r =>
    cases hrequest
    rw [serve, run_map, updateRecord_of_invalid hid]
    rfl
  | delete kind id =>
    cases hrequest
    rw [serve, run_map, deleteRecord_of_invalid hid]
    rfl
  | has kind id =>
    cases hrequest
    rw [serve, run_map, DiskAction.ask, hasRecord_of_invalid hid]
    rfl
  | _ => cases hrequest

namespace Vault

/-- The vault refuses an id that is not valid where it uses it, and then no file changes. It uses
ids that requests name, and ids that it finds in records. -/
structure RefusesInvalidIds (v : Vault) : Prop where
  /-- Nothing is done for a request that names the id. -/
  request (request : Request) (id : String) (w : World) :
    request.id? = some id → isValidId id = false →
      v.perform request w = (.error (.ofInvalidId id), w)
  /-- Nor is anything done to read a photo of a document with the id. -/
  photo (caller : Caller) (id : String) (r : Record .photo) (w : World) :
    v.storage.getRecord .photo id w.disk = .ok r → isValidId r.fields.documentId = false →
      v.perform (.readPhoto caller id) w = (.error (.ofInvalidId r.fields.documentId), w)
  /-- The same for an attachment. -/
  attachment (caller : Caller) (id : String) (r : Record .attachment) (w : World) :
    v.storage.getRecord .attachment id w.disk = .ok r → isValidId r.fields.documentId = false →
      v.perform (.readAttachment caller id) w = (.error (.ofInvalidId r.fields.documentId), w)
  /-- Claims that hold the id are not replaced. -/
  claims (caller : Caller) (id claims : String) (r : Record .claims) (payload : Sealing.Payload)
    (w : World) :
    v.storage.getRecord .claims id w.disk = .ok r → isValidId r.id = false →
      r.grants caller = true → v.service.protect w.initials.next r.owner claims = .ok payload →
      ∃ w', v.perform (.updateClaims caller id claims) w = (.error (.ofInvalidId r.id), w') ∧
        w'.disk = w.disk
  /-- A pass counts a record that holds the id as one that could not be sealed, and goes on. -/
  pass (kind : Kind) (r : Record kind) (rest : List (Record kind)) (plaintext : String)
    (w : World) :
    r.payload = .plain plaintext → isValidId r.id = false →
      ∃ w', v.resealEach (r :: rest) w = ((.notSealed + ·) <$> v.resealEach rest) w' ∧
        w'.disk = w.disk
  /-- What hangs on a document is deleted up to the first record that holds the id. -/
  cascade (kind : Kind) (id : String) (rest : List String) (w : World) :
    isValidId id = false → v.deleteEach kind (id :: rest) w = (.error (.ofInvalidId id), w)

theorem authorized_of_invalid (hid : isValidId id = false) (kind : Kind) (caller : Caller) :
    v.authorized kind caller id w = (.error (.ofInvalidId id), w) :=
  authorized_of_error (Storage.getRecord_of_invalid hid)

theorem map_of_error {α β : Type} {a : Action α} {e : VaultError} (h : a w = (.error e, w'))
    (f : α → β) : (f <$> a) w = (.error e, w') := by
  rw [run_map, h]
  rfl

theorem readHanging_of_invalid_parent {r : Record kind}
    (hr : v.storage.getRecord kind id w.disk = .ok r) (documentOf : kind.Fields → String)
    (hid : isValidId (documentOf r.fields) = false) (caller : Caller) :
    v.readHanging kind caller id documentOf w =
      (.error (.ofInvalidId (documentOf r.fields)), w) := by
  rw [readHanging, run_bind_of_ok (ask_of_ok hr)]
  exact run_bind_of_error (authorized_of_invalid hid .document caller)

theorem onDisk_updateRecord_of_invalid {r : Record kind} (hid : isValidId r.id = false) :
    Action.onDisk (v.storage.updateRecord r) w = (.error (.ofInvalidId r.id), w) :=
  onDisk_of_error (Storage.updateRecord_of_invalid hid)

theorem perform_of_invalid {request : Request} (hrequest : request.id? = some id)
    (hid : isValidId id = false) : v.perform request w = (.error (.ofInvalidId id), w) := by
  have hauthorized (kind : Kind) (caller : Caller) :
      v.authorized kind caller id w = (.error (.ofInvalidId id), w) :=
    authorized_of_invalid hid kind caller
  have hread (kind : Kind) (caller : Caller) :
      v.readOwn kind caller id w = (.error (.ofInvalidId id), w) :=
    run_bind_of_error (hauthorized kind caller)
  have hreadHanging (kind : Kind) (caller : Caller) (documentOf : kind.Fields → String) :
      v.readHanging kind caller id documentOf w = (.error (.ofInvalidId id), w) :=
    run_bind_of_error (ask_of_error (Storage.getRecord_of_invalid hid))
  have hlistHanging (kind : Kind) (caller : Caller) :
      v.listHanging kind caller id w = (.error (.ofInvalidId id), w) :=
    run_bind_of_error (hauthorized .document caller)
  have haddHanging (kind : Kind) (caller : Caller) (plaintext : String)
      (fields : Record .document → kind.Fields) :
      v.addHanging kind caller id plaintext fields w = (.error (.ofInvalidId id), w) :=
    run_bind_of_error (hauthorized .document caller)
  cases request with
  | readClaims caller id =>
    cases hrequest
    exact map_of_error (hread .claims caller) _
  | updateClaims caller id claims =>
    cases hrequest
    exact map_of_error (run_bind_of_error (hauthorized .claims caller)) _
  | deleteClaims caller id =>
    cases hrequest
    exact map_of_error (run_bind_of_error (hauthorized .claims caller)) _
  | readDocument caller id =>
    cases hrequest
    exact map_of_error (hread .document caller) _
  | deleteDocument caller id =>
    cases hrequest
    exact map_of_error (run_bind_of_error (hauthorized .document caller)) _
  | addPhoto caller documentId contentType data =>
    cases hrequest
    exact map_of_error (haddHanging .photo caller data _) _
  | readPhoto caller id =>
    cases hrequest
    exact map_of_error (hreadHanging .photo caller _) _
  | listPhotos caller documentId =>
    cases hrequest
    exact map_of_error (hlistHanging .photo caller) _
  | addAttachment caller documentId fileName contentType data =>
    cases hrequest
    exact map_of_error (haddHanging .attachment caller data _) _
  | readAttachment caller id =>
    cases hrequest
    exact map_of_error (hreadHanging .attachment caller _) _
  | listAttachments caller documentId =>
    cases hrequest
    exact map_of_error (hlistHanging .attachment caller) _
  | _ => cases hrequest

/-- Claims with an id that is not valid are not replaced, though their new payload was sealed. -/
theorem updateClaims_of_invalid {caller : Caller} {claims : String} {r : Record .claims}
    {payload : Sealing.Payload} (hr : v.storage.getRecord .claims id w.disk = .ok r)
    (hid : isValidId r.id = false) (hgrants : r.grants caller = true)
    (hseals : v.service.protect w.initials.next r.owner claims = .ok payload) :
    ∃ w', v.updateClaims caller id claims w = (.error (.ofInvalidId r.id), w') ∧
      w'.disk = w.disk := by
  have hsealed : v.sealFor .claims r.owner claims w =
      (.ok payload, { w with initials := w.initials.rest }) := by
    rw [sealFor_eq, hseals]
    rfl
  obtain ⟨t, ht⟩ : ∃ t : World, { w with initials := w.initials.rest } = t := ⟨_, rfl⟩
  have hnow : Action.now t = (.ok t.clock.next, { t with clock := t.clock.rest }) := rfl
  have hdisk : t.disk = w.disk := by rw [← ht]
  rw [updateClaims, run_bind_of_ok (authorized_of_grants hr hgrants), run_bind_of_ok hsealed, ht,
    run_bind_of_ok hnow]
  exact ⟨_, run_bind_of_error (onDisk_updateRecord_of_invalid hid), hdisk⟩

/-- A record that holds an id that is not valid is not sealed. -/
theorem resealRecord_of_invalid {r : Record kind} (hid : isValidId r.id = false)
    (plaintext : String) :
    ∃ e w', v.resealRecord r plaintext w = (.error e, w') ∧ w'.disk = w.disk := by
  rw [resealRecord]
  rcases sealFor_cases v kind r.owner plaintext w with
    ⟨e, t, hfails, hdisk⟩ | ⟨payload, t, hsealed, hdisk, -⟩
  · exact ⟨e, t, run_bind_of_error hfails, hdisk⟩
  · have hnow : Action.now t = (.ok t.clock.next, { t with clock := t.clock.rest }) := rfl
    rw [run_bind_of_ok hsealed, run_bind_of_ok hnow]
    exact ⟨_, _, onDisk_updateRecord_of_invalid hid, hdisk⟩

theorem resealEach_of_invalid {r : Record kind} {plaintext : String}
    (hplain : r.payload = .plain plaintext) (hid : isValidId r.id = false)
    (rest : List (Record kind)) :
    ∃ w', v.resealEach (r :: rest) w = ((.notSealed + ·) <$> v.resealEach rest) w' ∧
      w'.disk = w.disk := by
  obtain ⟨e, w', hfails, hdisk⟩ := resealRecord_of_invalid (v := v) (w := w) hid plaintext
  have hattempt := attempt_of_error hfails
  have hpure : (pure .notSealed : Action ResealSummary) w' = (.ok .notSealed, w') := rfl
  refine ⟨w', ?_, hdisk⟩
  simp only [resealEach, hplain]
  rw [run_bind_of_ok hattempt]
  simp only
  rw [run_bind_of_ok hpure, run_bind, run_map]
  rcases v.resealEach rest w' with ⟨e | more, t⟩ <;> rfl

theorem refusesInvalidIds (v : Vault) : v.RefusesInvalidIds where
  request _ _ _ hrequest hid := perform_of_invalid hrequest hid
  photo caller _ _ _ hr hid := map_of_error (readHanging_of_invalid_parent hr _ hid caller) _
  attachment caller _ _ _ hr hid := map_of_error (readHanging_of_invalid_parent hr _ hid caller) _
  claims _ _ _ _ _ _ hr hid hgrants hseals := by
    obtain ⟨w', hfails, hdisk⟩ := updateClaims_of_invalid hr hid hgrants hseals
    exact ⟨w', map_of_error hfails _, hdisk⟩
  pass _ _ rest _ _ hplain hid := resealEach_of_invalid hplain hid rest
  cascade _ _ _ _ hid := run_bind_of_error (onDisk_of_error (Storage.deleteRecord_of_invalid hid))

end Vault

/-! ## Confinement -/

/-- The operations in a data directory stay in the files of its records and logs. -/
structure Storage.Confined (s : Storage) : Prop where
  /-- No operation changes a file but those of records with valid ids and the logs of days. -/
  changes (service : Service) (w : World) (o : Operation) (place : Place) :
    (s.operate service w o).2.disk.fileAt? place ≠ w.disk.fileAt? place → s.layout.OwnPlace place
  /-- Where the directories of the store are there, an operation has the same answer, and leaves the
  same files of records, whatever else is on the disk. For an operation that is about logs it also
  makes a difference whether a file is in the place of the directory of a day. -/
  answers (service : Service) (w w' : World) (o : Operation) :
    w' = { w with disk := w'.disk } →
    (∀ p ∈ s.layout.directories, w.disk.find p = .ok .directory) →
    (∀ p ∈ s.layout.directories, w'.disk.find p = .ok .directory) →
    (∀ place, s.layout.OwnPlace place → w'.disk.get? place = w.disk.get? place) →
    (o.isAboutLogs = true →
      ∀ day, s.layout.DayBlocked w'.disk day ↔ s.layout.DayBlocked w.disk day) →
    (s.operate service w' o).1 = (s.operate service w o).1 ∧
      ∀ kind id, isValidId id = true →
        (s.operate service w' o).2.disk.get? (s.layout.record kind id).place =
          (s.operate service w o).2.disk.get? (s.layout.record kind id).place
  /-- A request that names an id that is not valid changes nothing. It is told that there is no such
  record if it asks for that, and fails otherwise. -/
  refuses (request : RecordRequest) (id : String) (answer : Except StorageError RecordAnswer)
    (d : Disk) :
    request.refusal? = some (id, answer) → isValidId id = false → s.serve request d = (answer, d)
  /-- So it is with the vault, which also finds ids in records. -/
  vault (v : Vault) : v.storage = s → v.RefusesInvalidIds
  /-- No two records with valid ids have their files at the same place. -/
  injective (kind kind' : Kind) (id id' : String) :
    isValidId id = true → isValidId id' = true →
    (s.layout.record kind id).place = (s.layout.record kind' id').place → kind = kind' ∧ id = id'
  /-- The file of a record with a valid id is directly in the directory of the kind. -/
  directory (kind : Kind) (id : String) :
    isValidId id = true →
      (s.layout.record kind id).place = (s.layout.kindDirectory kind).place ++ [id ++ ".json"]
  /-- A listing that finds the file takes exactly the id from its name. -/
  stem (id : String) :
    isValidId id = true →
      Disk.stemOf? Layout.recordExtension (id ++ ".json") = some id

theorem Storage.confined (s : Storage) : s.Confined where
  changes service w o place hne :=
    (s.keeps_changesOwn w.disk).operate service o (Layout.ChangesOwn.refl _ w.disk) place hne
  answers service w w' o hsources hfound hfound' hown hblocked := by
    cases ho : o.isAboutLogs with
    | false =>
      have hrecords := decidesRecords_ofRecords s.layout
      have hagrees := Layout.agreesOn_of_find hfound hfound' fun kind id hid =>
        hown _ (Or.inl ⟨kind, id, hid, rfl⟩)
      obtain ⟨hreply, d', hdisk, hafter⟩ := (sameRecords_agreesOn hrecords).operate_eq service o
        (by simp [ho]) ⟨w'.disk, hsources, hagrees⟩
      refine ⟨hreply, fun kind id hid => ?_⟩
      rw [hdisk, Layout.place_record hid]
      exact hafter.get?_eq _ (hrecords.record kind hid)
    | true =>
      have hagrees := Layout.AgreesOnOwn.of_find hfound hfound' hown (hblocked ho)
      obtain ⟨hreply, d', hdisk, hafter⟩ := s.sameRecords_agreesOnOwn.operate_eq service o
        (fun _ => ⟨s.coupled_serveAudit, fun day d d' h => Audit.readDay_eq h day⟩)
        ⟨w'.disk, hsources, hagrees⟩
      refine ⟨hreply, fun kind id hid => ?_⟩
      rw [hdisk]
      exact hafter.get?_eq_of_ownPlace (Or.inl ⟨kind, id, hid, rfl⟩)
  refuses _ _ _ d hrequest hid := serve_of_invalid hrequest hid d
  vault v _ := v.refusesInvalidIds
  injective kind kind' id id' hid hid' hplace := by
    rw [Layout.place_record hid, Layout.place_record hid'] at hplace
    exact Layout.recordPlace_injective hplace
  directory kind id hid := Path.place_join (isName_recordFile hid) _
  stem id hid := Disk.stemOf?_recordFile hid

namespace Session

/-- The sample disk with a file beside the claims that is named by no valid id. -/
def litteredDisk : Disk :=
  (sampleDisk.put? ["data", "claims"] "no id.json" (.file [])).getD sampleDisk

/-- The sample world with that disk. -/
def litteredWorld : World := { (sample .disabled).world with disk := litteredDisk }

theorem put?_litteredDisk :
    sampleDisk.put? ["data", "claims"] "no id.json" (.file []) = some litteredDisk :=
  Disk.put?_eq_some_getD (by decide +kernel)

theorem get?_litteredDisk {place : Place}
    (hplace : (sample .disabled).vault.storage.layout.OwnPlace place) :
    litteredWorld.disk.get? place = (sample .disabled).world.disk.get? place := by
  simp only [litteredWorld, sample]
  rw [Disk.get?_of_put? put?_litteredDisk, if_neg]
  rintro rfl
  rcases hplace with ⟨kind, id, hid, heq⟩ | ⟨day, heq⟩
  · rw [Layout.place_record hid] at heq
    change Layout.recordPlace
      (sample .disabled).vault.storage.layout.base .claims "no id" = _ at heq
    rw [← (Layout.recordPlace_injective heq).2] at hid
    exact absurd hid (by decide)
  · rw [Layout.place_auditLog day.isName_text] at heq
    change Layout.recordPlace
      (sample .disabled).vault.storage.layout.base .claims "no id" = _ at heq
    exact Layout.recordPlace_ne_auditPlace _ _ _ heq

/-- The claims of alice are listed as if that file were not there. -/
theorem claims_listed_beside_litter :
    ((sample .disabled).vault.storage.operate .disabled litteredWorld
        (.vault (.listClaims ⟨"alice", .user⟩))).1 =
      ((sample .disabled).vault.storage.operate .disabled (sample .disabled).world
        (.vault (.listClaims ⟨"alice", .user⟩))).1 := by
  have hsources : litteredWorld =
      { (sample .disabled).world with disk := litteredWorld.disk } := by
    simp only [litteredWorld]
  have hfound : ∀ p ∈ (sample .disabled).vault.storage.layout.directories,
      (sample .disabled).world.disk.find p = .ok .directory := by
    decide +kernel
  have hfound' : ∀ p ∈ (sample .disabled).vault.storage.layout.directories,
      litteredWorld.disk.find p = .ok .directory := by
    decide +kernel
  exact ((sample .disabled).vault.storage.confined.answers .disabled (sample .disabled).world
    litteredWorld (.vault (.listClaims ⟨"alice", .user⟩)) hsources hfound hfound'
    (fun place hplace => get?_litteredDisk hplace) nofun).1

end Session

namespace Vault

/-- An attachment that hangs on the travel document and holds an id that is not valid. -/
def strayAttachment : Record .attachment :=
  ⟨"../x", "alice", .plain "ticket", Session.sampleInstant,
    ({ documentId := "d-1", fileName := "ticket.txt", contentType := "text/plain" } :
      AttachmentFields)⟩

/-- The disk with the travel document and its photo after the attachment was put into a file. -/
def strayDisk : Disk :=
  (photoDisk.put? ["data", "attachments"] "a-1.json" (.file strayAttachment.toBytes)).getD photoDisk

/-- The world of the travel session with that disk. -/
def strayWorld : World := { travelSession.world with disk := strayDisk }

/-- What is beside the files of the store can make a difference, and an id that is not valid is not
always refused at once. A file in the place of the directory of a day is in the way of those who
read the log of the day. A listing compares the id of a document without a look at it. Where a
record that hangs on a document holds such an id, other records were deleted before it is refused.
-/
theorem others_make_a_difference :
    ((Session.sample .disabled).answer
        (.auditEvents ⟨"carol", .auditor⟩ "1970-01-01")).toOption.isSome = true ∧
      ((⟨(Session.sample .disabled).vault, Session.blockedWorld⟩ : Session).answer
        (.auditEvents ⟨"carol", .auditor⟩ "1970-01-01")).toOption.isSome = false ∧
      (∀ place, (Session.sample .disabled).vault.storage.layout.OwnPlace place →
        Session.blockedWorld.disk.get? place = (Session.sample .disabled).world.disk.get? place) ∧
      isValidId "../claims/x" = false ∧
      ((Session.sample .disabled).vault.storage.serve (.listByDocument .photo "../claims/x")
        (Session.sample .disabled).world.disk).1 = .ok (.listed ([] : List (Record .photo))) ∧
      (travelSession.vault.deleteDocument ⟨"alice", .user⟩ "d-1" strayWorld).1 =
        .error (.ofInvalidId "../x") ∧
      travelSession.vault.storage.hasRecord .photo "p-1" strayWorld.disk = true ∧
      travelSession.vault.storage.hasRecord .photo "p-1"
        (travelSession.vault.deleteDocument ⟨"alice", .user⟩ "d-1" strayWorld).2.disk = false := by
  refine ⟨?_, ?_, fun place hplace => ?_, ?_, ?_, ?_⟩
  · decide +kernel
  · decide +kernel
  · simp only [Session.blockedWorld, Session.sample]
    rw [Disk.get?_of_put? Session.put?_blockedDisk, if_neg]
    rintro rfl
    rcases hplace with ⟨kind, id, hid, heq⟩ | ⟨day, heq⟩
    · rw [Layout.place_record hid] at heq
      exact Layout.recordPlace_ne_auditPlace kind id ["1970-01-01"] heq.symm
    · rw [Layout.place_auditLog day.isName_text] at heq
      change auditPlace
        (Session.sample .disabled).vault.storage.layout.base ["1970-01-01"] = _ at heq
      simp [Layout.auditPlace_inj] at heq
  · decide
  · decide +kernel
  · decide +kernel

end Vault

end SealedVault
