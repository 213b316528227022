import SealedVault.Proofs.Vault.Lifetime

/-!
# Reading after a pass

A pass that seals what is not sealed seals each record under the key of its own owner, and a record
of the owner's is then read as before. What hangs on a document is read with the key of the owner of
the document. So it is read as before if it was sealed already, or belongs to that owner; otherwise
the pass seals it under a key that no reader uses.
-/

namespace SealedVault

open Layout (AuditOnly)
open Sealing (Payload Service)
open Storage (PutsRecord)

namespace Storage

/-- A prepared data directory in which any records were stored and replaced, by anyone. -/
inductive Filled (s : Storage) : Disk → Prop
  | prepared {layout : Layout} {before d : Disk}
    (prepared : (fresh layout).prepare before = (.ok s, d))
    (empty : ∀ kind place, d.locate (s.layout.kindDirectory kind) = .ok place →
      d.fileNames place = []) : Filled s d
  | created {d : Disk} {kind : Kind} (filled : Filled s d) (r : Record kind) :
    Filled s (s.createRecord r d).2
  | updated {d : Disk} {kind : Kind} (filled : Filled s d) (r : Record kind) :
    Filled s (s.updateRecord r d).2

end Storage

namespace Vault

variable {v : Vault} {base : Place} {d : Disk} {w t : World} {kind : Kind} {caller : Caller}
  {id : String}

/-- In such a directory every record is found under its own id. -/
theorem exists_named_of_filled (h : v.storage.Filled d) : ∃ base, Named v.storage base d := by
  induction h with
  | @prepared layout before d hprepare hempty =>
    obtain ⟨-, -, base, hready⟩ := Storage.readyAt_of_prepare hprepare
    have hnone := Session.shelf_eq_none_of_no_files hready fun kind =>
      hempty kind _ (Layout.find_kindDirectory hready.stands kind).1
    refine ⟨base, hready, fun hr => ?_⟩
    rw [hnone] at hr
    cases hr
  | @created d kind filled r ih =>
    obtain ⟨base, hnamed⟩ := ih
    rcases Storage.createRecord_cases hnamed.ready r with
      ⟨e, hfails⟩ | ⟨d', hok, hvalid, -, hfits, -, hputs⟩
    · rw [hfails]
      exact ⟨base, hnamed⟩
    · rw [hok]
      exact ⟨base, named_of_puts hnamed hvalid hfits hputs⟩
  | @updated d kind filled r ih =>
    obtain ⟨base, hnamed⟩ := ih
    rcases Storage.updateRecord_cases hnamed.ready r with
      ⟨e, hfails⟩ | ⟨d', hok, hvalid, -, hfits, hputs⟩
    · rw [hfails]
      exact ⟨base, hnamed⟩
    · rw [hok]
      exact ⟨base, named_of_puts hnamed hvalid hfits hputs⟩

/-! ## Records after a pass -/

theorem Resealed.cases {old new : Record kind} (h : v.Resealed old new) :
    new = old ∨ ∃ initial plaintext payload now, old.payload = .plain plaintext ∧
      v.service.protect initial old.owner plaintext = .ok payload ∧
      new = old.setPayload payload now := by
  rw [Resealed] at h
  cases hpayload : old.payload with
  | «sealed» stored =>
    rw [hpayload] at h
    exact Or.inl h
  | plain plaintext =>
    rw [hpayload] at h
    rcases h with ⟨initial, payload, now, hprotect, hnew⟩ | ⟨hsame, -⟩
    · exact Or.inr ⟨initial, plaintext, payload, now, rfl, hprotect, hnew⟩
    · exact Or.inl hsame

theorem Resealed.owner_eq {old new : Record kind} (h : v.Resealed old new) :
    new.owner = old.owner := by
  rcases h.cases with rfl | ⟨initial, plaintext, payload, now, -, -, rfl⟩
  · rfl
  · rfl

theorem Resealed.parent?_eq {old new : Record kind} (h : v.Resealed old new) :
    new.parent? = old.parent? := by
  rcases h.cases with rfl | ⟨initial, plaintext, payload, now, -, -, rfl⟩
  · rfl
  · exact Record.setPayload_parent? payload now

theorem Resealed.grants_eq {old new : Record kind} (h : v.Resealed old new) :
    new.grants caller = old.grants caller := by
  rw [Record.grants, Record.grants, h.owner_eq]

/-- What the service protects for an owner it opens for that owner. -/
theorem reveal_of_protect {service : Service} {initial : Cipher.Block} {owner plaintext : String}
    {payload : Payload} (h : service.protect initial owner plaintext = .ok payload) :
    service.reveal owner payload = .ok plaintext := by
  obtain ⟨howner, hpayload⟩ := protect_eq_ok h
  obtain ⟨masterKey⟩ := service
  cases masterKey with
  | none =>
    obtain rfl : payload = .plain plaintext := hpayload
    exact Service.reveal_plain _ howner plaintext
  | some key =>
    obtain ⟨stored, rfl, hsealing⟩ := hpayload
    rw [Service.reveal_sealed key howner]
    exact Service.unsealText_of_isSealing howner hsealing

theorem eq_of_reveal_plain {service : Service} {owner text plaintext : String}
    (h : service.reveal owner (.plain text) = .ok plaintext) : plaintext = text := by
  rw [Service.reveal, bind_eq_ok_iff] at h
  obtain ⟨_, -, htext⟩ := h
  cases htext
  rfl

/-- A record that a key opened is opened by it after a pass, if the record was sealed already or the
key is that of the owner of the record. -/
theorem Resealed.reveal_eq_ok {old new : Record kind} {keyOwner plaintext : String}
    (h : v.Resealed old new) (hopens : v.service.reveal keyOwner old.payload = .ok plaintext)
    (hkey : (∃ stored, old.payload = .sealed stored) ∨ keyOwner = old.owner) :
    v.service.reveal keyOwner new.payload = .ok plaintext := by
  rcases h.cases with rfl | ⟨initial, text, payload, now, hplain, hprotect, rfl⟩
  · exact hopens
  · rw [hplain] at hopens hkey
    obtain rfl := eq_of_reveal_plain hopens
    rcases hkey with ⟨stored, hsealed⟩ | rfl
    · cases hsealed
    · exact reveal_of_protect hprotect

theorem openedBy_of_reveal {r : Record kind} {keyOwner plaintext : String}
    (h : v.service.reveal keyOwner r.payload = .ok plaintext) :
    v.openedBy keyOwner r = .ok ⟨r, plaintext⟩ := by
  rw [openedBy, h]
  rfl

/-- After a pass every record that was found is found, as the pass has left it. -/
theorem resealed_of_reseal (hd : Named v.storage base w.disk) (hkey : v.service.isEnabled = true) :
    v.storage.ReadyAt base (v.reseal w).2.disk ∧
      ∀ (kind : Kind) (id : String) (r : Record kind), v.storage.shelf w.disk kind id = some r →
        ∃ new, v.storage.shelf (v.reseal w).2.disk kind id = some new ∧ v.Resealed r new := by
  obtain ⟨summary, w', hw', heffects, hreseals⟩ := exists_reseal hd hkey
  rw [hw']
  refine ⟨heffects.readyAt hd.ready, fun kind id r hr => ?_⟩
  have hall : kind ∈ Kind.all := by cases kind <;> decide
  exact hreseals.resealed hall hr

/-! ## Reading -/

theorem exists_of_map_opened {a : Action (Opened kind)} {o : Opened kind}
    (h : ((Answer.opened <$> a) w).1 = .ok (.opened o)) : ∃ t, a w = (.ok o, t) := by
  obtain ⟨o', hrun, ho⟩ := of_map_eq_ok (Prod.ext h rfl)
  cases ho
  exact ⟨_, hrun⟩

theorem map_opened_of_run {a : Action (Opened kind)} {o : Opened kind}
    (h : a w = (.ok o, t)) : ((Answer.opened <$> a) w).1 = .ok (.opened o) := by
  rw [run_map, h]
  rfl

theorem perform_read_own_after_reseal (hd : Named v.storage base w.disk)
    (hkey : v.service.isEnabled = true)
    (hperform : v.perform (.read kind caller id) = Answer.opened <$> v.readOwn kind caller id)
    {o : Opened kind} (hread : (v.perform (.read kind caller id) w).1 = .ok (.opened o)) :
    ∃ r : Record kind, (v.perform (.read kind caller id) (v.reseal w).2).1 =
      .ok (.opened ⟨r, o.plaintext⟩) := by
  rw [hperform] at hread ⊢
  obtain ⟨t, hrun⟩ := exists_of_map_opened hread
  obtain ⟨hget, hgrants, hreveal, -⟩ := of_readOwn_eq_ok hrun
  obtain ⟨hready, hshelves⟩ := resealed_of_reseal hd hkey
  obtain ⟨new, hnew, hresealed⟩ :=
    hshelves kind id o.record (Storage.shelf_eq_some_iff_getRecord.mpr hget)
  rw [← hresealed.grants_eq] at hgrants
  have hopens := hresealed.reveal_eq_ok hreveal (Or.inr rfl)
  rw [← hresealed.owner_eq] at hopens
  obtain ⟨u, hafter, -⟩ := exists_readOwn hready hnew hgrants
  rw [openedBy_of_reveal hopens] at hafter
  exact ⟨new, map_opened_of_run hafter⟩

theorem perform_read_hanging_after_reseal (hd : Named v.storage base w.disk)
    (hkey : v.service.isEnabled = true)
    {o : Opened kind} (hread : (v.perform (.read kind caller id) w).1 = .ok (.opened o))
    (documentOf : kind.Fields → String)
    (hparent : ∀ r : Record kind, r.parent? = some (documentOf r.fields))
    (hperform : v.perform (.read kind caller id) =
      Answer.opened <$> v.readHanging kind caller id documentOf)
    (howner : (∃ stored, o.record.payload = .sealed stored) ∨ ∀ documentId document,
      o.record.parent? = some documentId →
        v.storage.getRecord .document documentId w.disk = .ok document →
          document.owner = o.record.owner) :
    ∃ r : Record kind, (v.perform (.read kind caller id) (v.reseal w).2).1 =
      .ok (.opened ⟨r, o.plaintext⟩) := by
  rw [hperform] at hread ⊢
  obtain ⟨t, hrun⟩ := exists_of_map_opened hread
  obtain ⟨hget, document, hdocument, hgrants, hreveal, -⟩ := of_readHanging_eq_ok hrun
  obtain ⟨hready, hshelves⟩ := resealed_of_reseal hd hkey
  obtain ⟨new, hnew, hresealed⟩ :=
    hshelves kind id o.record (Storage.shelf_eq_some_iff_getRecord.mpr hget)
  obtain ⟨newDocument, hnewDocument, hresealedDocument⟩ :=
    hshelves .document _ document (Storage.shelf_eq_some_iff_getRecord.mpr hdocument)
  -- the record still names the same document, and that has the same owner
  have hfields : documentOf new.fields = documentOf o.record.fields := by
    apply Option.some.inj
    rw [← hparent, ← hparent, hresealed.parent?_eq]
  rw [← hresealedDocument.grants_eq] at hgrants
  rw [← hfields] at hnewDocument
  have hopens := hresealed.reveal_eq_ok hreveal
    (howner.imp_right fun hsame => hsame _ document (hparent o.record) hdocument)
  rw [← hresealedDocument.owner_eq] at hopens
  obtain ⟨u, hafter, -⟩ := exists_readHanging hready hnew hnewDocument hgrants
  rw [openedBy_of_reveal hopens] at hafter
  exact ⟨new, map_opened_of_run hafter⟩

/-- Whatever records a data directory was filled with, a record that can be read can be read after
a pass, and has the same text, if it was sealed already or does not hang on a document of someone
other than its owner. -/
theorem read_after_reseal (v : Vault) (w : World) (hfilled : v.storage.Filled w.disk)
    (kind : Kind) (caller : Caller) (id : String) (o : Opened kind)
    (hread : (v.perform (.read kind caller id) w).1 = .ok (.opened o))
    (howner : (∃ stored, o.record.payload = .sealed stored) ∨ ∀ documentId document,
      o.record.parent? = some documentId →
        v.storage.getRecord .document documentId w.disk = .ok document →
          document.owner = o.record.owner) :
    ∃ r : Record kind, (v.perform (.read kind caller id) (v.reseal w).2).1 =
      .ok (.opened ⟨r, o.plaintext⟩) := by
  by_cases hkey : v.service.isEnabled = true
  · obtain ⟨base, hd⟩ := exists_named_of_filled hfilled
    cases kind with
    | claims => exact perform_read_own_after_reseal hd hkey rfl hread
    | document => exact perform_read_own_after_reseal hd hkey rfl hread
    | photo =>
      exact perform_read_hanging_after_reseal hd hkey hread PhotoFields.documentId (fun _ => rfl)
        rfl howner
    | attachment =>
      exact perform_read_hanging_after_reseal hd hkey hread AttachmentFields.documentId
        (fun _ => rfl) rfl howner
  · rw [reseal_of_disabled (eq_false_of_ne_true hkey)]
    exact ⟨o.record, hread⟩

/-- A record that was stored is found. -/
theorem shelf_of_createRecord (hd : Named v.storage base d) {r : Record kind}
    (hok : (v.storage.createRecord r d).1 = .ok ()) :
    Named v.storage base (v.storage.createRecord r d).2 ∧
      PutsRecord base r d (v.storage.createRecord r d).2 ∧
      v.storage.shelf (v.storage.createRecord r d).2 kind r.id = some r := by
  rcases Storage.createRecord_cases hd.ready r with
    ⟨e, hfails⟩ | ⟨d', hstored, hvalid, -, hfits, -, hputs⟩
  · rw [hfails] at hok
    cases hok
  · rw [hstored]
    exact ⟨named_of_puts hd hvalid hfits hputs, hputs, hputs.shelf_self hd.ready hvalid hfits⟩

theorem perform_read_photo (hready : v.storage.ReadyAt base w.disk) {r : Record .photo}
    {document : Record .document} {plaintext : String}
    (hphoto : v.storage.shelf w.disk .photo id = some r)
    (hdocument : v.storage.shelf w.disk .document r.fields.documentId = some document)
    (hgrants : document.grants caller = true)
    (hopens : v.service.reveal document.owner r.payload = .ok plaintext) :
    (v.perform (.read .photo caller id) w).1 = .ok (.opened ⟨r, plaintext⟩) := by
  obtain ⟨t, hrun, -⟩ : ∃ t, v.readHanging .photo caller id PhotoFields.documentId w =
      (v.openedBy document.owner r, t) ∧ AuditOnly base w.disk t.disk :=
    exists_readHanging hready hphoto hdocument hgrants
  rw [openedBy_of_reveal hopens] at hrun
  exact map_opened_of_run hrun

/-- A document of a user who is called alice. -/
def travelDocument : Record .document :=
  ⟨"d-1", "alice", .plain "report", Session.sampleInstant,
    ({ title := "Travels", contentType := "text/plain", updatedAt := Session.sampleInstant } :
      DocumentFields)⟩

/-- A photo of hers that hangs on it. -/
def travelPhoto : Record .photo :=
  ⟨"p-1", "alice", .plain "holiday", Session.sampleInstant,
    ({ documentId := "d-1", contentType := "image/png" } : PhotoFields)⟩

/-- The sample session with a key. -/
def travelSession : Session := Session.sample ⟨some ⟨List.replicate 16 7, by decide⟩⟩

/-- Its disk after the document was stored, which is not sealed. -/
def documentDisk : Disk :=
  (travelSession.vault.storage.createRecord travelDocument travelSession.world.disk).2

/-- The same disk after the photo was stored, which is not sealed either. -/
def photoDisk : Disk :=
  (travelSession.vault.storage.createRecord travelPhoto documentDisk).2

/-- The world of the session with that disk. -/
def photoWorld : World := { travelSession.world with disk := photoDisk }

theorem photoWorld_disk : photoWorld.disk = photoDisk := by
  rw [photoWorld]

theorem filled_photoWorld : travelSession.vault.storage.Filled photoWorld.disk := by
  have hbegins : travelSession.Begins := Session.sample_begins _
  obtain ⟨layout, before, hprepare⟩ := hbegins.prepared
  have hdocument := (Storage.Filled.prepared hprepare hbegins.empty).created travelDocument
  rw [← documentDisk] at hdocument
  have hphoto := hdocument.created travelPhoto
  rw [← photoDisk] at hphoto
  rw [photoWorld_disk]
  exact hphoto

theorem exists_shelves_photoWorld :
    ∃ base, travelSession.vault.storage.ReadyAt base photoWorld.disk ∧
      travelSession.vault.storage.shelf photoWorld.disk .photo "p-1" = some travelPhoto ∧
      travelSession.vault.storage.shelf photoWorld.disk .document travelPhoto.fields.documentId =
        some travelDocument := by
  have hdocumentStored : (travelSession.vault.storage.createRecord travelDocument
      travelSession.world.disk).1 = .ok () := by
    decide +kernel
  have hphotoStored :
      (travelSession.vault.storage.createRecord travelPhoto documentDisk).1 = .ok () := by
    decide +kernel
  have hbegins : travelSession.Begins := Session.sample_begins _
  obtain ⟨base, hsound, -⟩ := hbegins.exists_sound
  obtain ⟨hdocumentNamed, -, hdocument⟩ :=
    shelf_of_createRecord hsound.kept.consistent.toNamed hdocumentStored
  rw [← documentDisk] at hdocumentNamed hdocument
  obtain ⟨hnamed, hputs, hphoto⟩ := shelf_of_createRecord hdocumentNamed hphotoStored
  rw [← photoDisk] at hnamed hputs hphoto
  rw [photoWorld_disk]
  refine ⟨base, hnamed.ready, hphoto, ?_⟩
  have hother : ¬(Kind.document = Kind.photo ∧ travelDocument.id = travelPhoto.id) := by decide
  exact (hputs.shelf_of_ne hdocumentNamed.ready hother).trans hdocument

theorem authorized_travelDocument :
    travelSession.vault.authorized .document ⟨"alice", .user⟩ "d-1" photoWorld =
      (.ok travelDocument, photoWorld) := by
  obtain ⟨-, -, -, hdocument⟩ := exists_shelves_photoWorld
  exact authorized_of_grants (Storage.shelf_eq_some_iff_getRecord.mp hdocument) (by decide)

theorem reveal_travelPhoto :
    travelSession.vault.service.reveal travelDocument.owner travelPhoto.payload = .ok "holiday" :=
  Service.reveal_plain _ (by decide) "holiday"

/-- The photo is still read after a pass. -/
theorem read_photo_after_reseal :
    ∃ r : Record .photo,
      (travelSession.vault.perform (.read .photo ⟨"alice", .user⟩ "p-1")
        (travelSession.vault.reseal photoWorld).2).1 = .ok (.opened ⟨r, "holiday"⟩) := by
  obtain ⟨base, hready, hphoto, hdocument⟩ := exists_shelves_photoWorld
  refine read_after_reseal travelSession.vault photoWorld filled_photoWorld .photo
    ⟨"alice", .user⟩ "p-1" ⟨travelPhoto, "holiday"⟩
    (perform_read_photo hready hphoto hdocument (by decide) reveal_travelPhoto) (Or.inr ?_)
  intro documentId document hparent hfound
  obtain rfl : travelPhoto.fields.documentId = documentId := Option.some.inj hparent
  obtain rfl : travelDocument = document :=
    Option.some.inj (hdocument.symm.trans (Storage.shelf_eq_some_iff_getRecord.mpr hfound))
  rfl

end Vault

end SealedVault
