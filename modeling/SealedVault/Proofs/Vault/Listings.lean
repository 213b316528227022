import SealedVault.Proofs.Store.Cabinet
import SealedVault.Proofs.Store.Contents
import SealedVault.Proofs.Vault.Recovery

/-!
# Listings and single reads

A listing selects records and opens each with the key that it chooses, passing over those that do
not open. A read finds one record, sees to access, and chooses the key by itself. Both agree on any
disk on which records are found under their own ids: what a listing selects its caller may access,
and the key is the same. A listing fails where a file stands in the place of the directory that it
goes through.
-/

namespace SealedVault

/-- A listing of records fails where a file stands in the place of their directory, and only
there. -/
theorem Storage.listRecords_cases {s : Storage} {kind : Kind} {d : Disk} (h : s.initialized = true)
    (keep : Record kind → Bool) :
    (d.isFile (s.layout.kindDirectory kind) = true ∧
        s.listRecords kind keep d = .error (.ofFault .notDirectory)) ∨
      (d.isFile (s.layout.kindDirectory kind) = false ∧
        ∃ records, s.listRecords kind keep d = .ok records) := by
  rcases listStems_cases h kind d with
    ⟨bytes, hblocked, heq⟩ | ⟨⟨fault, hmissing⟩, heq⟩ | ⟨hfound, heq⟩
  · refine Or.inl ⟨by rw [Disk.isFile, hblocked], ?_⟩
    rw [listRecords, heq]
    rfl
  · exact Or.inr ⟨by rw [Disk.isFile, hmissing], _, listRecords_eq heq keep⟩
  · exact Or.inr ⟨by rw [Disk.isFile, hfound], _, listRecords_eq heq keep⟩

namespace Vault

variable {v : Vault} {w t : World} {kind : Kind} {caller : Caller} {id : String}

/-! ## What is listed -/

theorem mem_toOption_openedBy_iff {keyOwner : String} {r : Record kind} {o : Opened kind} :
    (v.openedBy keyOwner r).toOption = some o ↔
      o.record = r ∧ v.service.reveal keyOwner r.payload = .ok o.plaintext := by
  obtain ⟨found, plaintext⟩ := o
  rw [openedBy]
  cases v.service.reveal keyOwner r.payload with
  | error e => simp [Except.map, Except.mapError, Except.toOption]
  | ok text => simp [Except.map, Except.mapError, Except.toOption, eq_comm]

/-- Opening several records never fails. It gives those that open. -/
theorem exists_revealEach (v : Vault) (caller : Caller) (keyOwner : Record kind → String)
    (records : List (Record kind)) (w : World) :
    ∃ t, v.revealEach caller keyOwner records w =
      (.ok (records.filterMap fun r => (v.openedBy (keyOwner r) r).toOption), t) := by
  induction records generalizing w with
  | nil => exact ⟨w, rfl⟩
  | cons r rest ih =>
    have hattempt : (v.reveal caller r (keyOwner r)).attempt w =
        (.ok (v.service.reveal (keyOwner r) r.payload).toOption,
          (v.reveal caller r (keyOwner r) w).2) := by
      cases hreveal : v.service.reveal (keyOwner r) r.payload with
      | ok plaintext =>
        rw [attempt_of_ok (reveal_of_ok hreveal), reveal_of_ok hreveal]
        rfl
      | error e =>
        rw [attempt_of_error (reveal_of_error hreveal), reveal_of_error hreveal]
        rfl
    obtain ⟨t, hrest⟩ := ih (v.reveal caller r (keyOwner r) w).2
    refine ⟨t, ?_⟩
    rw [revealEach, run_bind_of_ok hattempt, run_bind_of_ok hrest, List.filterMap_cons, openedBy]
    cases v.service.reveal (keyOwner r) r.payload with
    | ok plaintext => rfl
    | error e => rfl

/-- Lists the records that satisfy a condition and opens each with its key. -/
def listOpened (v : Vault) (caller : Caller) (keep : Record kind → Bool)
    (keyOwner : Record kind → String) : Action (List (Opened kind)) := do
  let records ← Action.ask (v.storage.listRecords kind keep)
  v.revealEach caller keyOwner records

theorem listOwn_eq (v : Vault) (kind : Kind) (caller : Caller) :
    v.listOwn kind caller = v.listOpened caller (fun r => r.owner = caller.userId) (·.owner) :=
  rfl

/-- What hangs on a document is listed and opened once access to the document is granted. -/
theorem listHanging_of_authorized {documentId : String} {document : Record .document}
    (h : v.authorized .document caller documentId w = (.ok document, t)) :
    v.listHanging kind caller documentId w =
      v.listOpened caller (fun r => r.parent? = some documentId) (fun _ => document.owner) t := by
  rw [listHanging, run_bind_of_ok h]
  rfl

/-! ## What is read -/

theorem revealAndNote_eq_ok_iff {r : Record kind} {keyOwner : String} {o : Opened kind} :
    (∃ t, (do
      let plaintext ← v.reveal caller r keyOwner
      v.noteSuccess .recordRead caller r
      return (⟨r, plaintext⟩ : Opened kind) : Action (Opened kind)) w = (.ok o, t)) ↔
      o.record = r ∧ v.service.reveal keyOwner r.payload = .ok o.plaintext := by
  constructor
  · rintro ⟨t, h⟩
    obtain ⟨hrecord, hreveal, -⟩ := of_revealAndNote_eq_ok h
    exact ⟨hrecord, hreveal⟩
  · rintro ⟨rfl, hreveal⟩
    have hnoted : v.noteSuccess .recordRead caller o.record w =
        (.ok (), (v.noteSuccess .recordRead caller o.record w).2) := by
      rw [noteSuccess, note_eq]
    rw [run_bind_of_ok (reveal_of_ok hreveal), run_bind_of_ok hnoted]
    exact ⟨_, rfl⟩

/-- A record is read where it is found for a caller with access and its owner's key opens it. -/
theorem readOwn_eq_ok_iff {o : Opened kind} :
    (∃ t, v.readOwn kind caller id w = (.ok o, t)) ↔
      v.storage.getRecord kind id w.disk = .ok o.record ∧ o.record.grants caller = true ∧
        v.service.reveal o.record.owner o.record.payload = .ok o.plaintext := by
  constructor
  · rintro ⟨t, h⟩
    obtain ⟨hget, hgrants, hreveal, -⟩ := of_readOwn_eq_ok h
    exact ⟨hget, hgrants, hreveal⟩
  · rintro ⟨hget, hgrants, hreveal⟩
    rw [readOwn, run_bind_of_ok (authorized_of_grants hget hgrants)]
    exact revealAndNote_eq_ok_iff.mpr ⟨rfl, hreveal⟩

/-- What hangs on a document is read where the caller has access to the document and the key of its
owner opens what was found. -/
theorem readHanging_eq_ok_iff {documentOf : kind.Fields → String} {o : Opened kind} :
    (∃ t, v.readHanging kind caller id documentOf w = (.ok o, t)) ↔
      v.storage.getRecord kind id w.disk = .ok o.record ∧
        ∃ document, v.storage.getRecord .document (documentOf o.record.fields) w.disk =
            .ok document ∧ document.grants caller = true ∧
          v.service.reveal document.owner o.record.payload = .ok o.plaintext := by
  constructor
  · rintro ⟨t, h⟩
    obtain ⟨hget, document, hdocument, hgrants, hreveal, -⟩ := of_readHanging_eq_ok h
    exact ⟨hget, document, hdocument, hgrants, hreveal⟩
  · rintro ⟨hget, document, hdocument, hgrants, hreveal⟩
    rw [readHanging, run_bind_of_ok (ask_of_ok hget),
      run_bind_of_ok (authorized_of_grants hdocument hgrants)]
    exact revealAndNote_eq_ok_iff.mpr ⟨rfl, hreveal⟩

theorem map_opened_eq_ok_iff {a : Action (Opened kind)} {o : Opened kind} :
    ((Answer.opened <$> a) w).1 = .ok (.opened o) ↔ ∃ t, a w = (.ok o, t) :=
  ⟨exists_of_map_opened, fun ⟨_, h⟩ => map_opened_of_run h⟩

/-! ## Agreement -/

/-- The entries of a listing are the records that satisfy a condition and that a read opens, each as
the read opens it, once, in ascending byte order of ids. -/
structure AgreesWithReads (v : Vault) (w : World) (caller : Caller) (selects : Record kind → Prop)
    (entries : List (Opened kind)) : Prop where
  mem_iff (o : Opened kind) :
    o ∈ entries ↔ selects o.record ∧
      (v.perform (.read kind caller o.record.id) w).1 = .ok (.opened o)
  ascending : (entries.map fun o => Text.utf8Bytes o.record.id).Pairwise (· < ·)

/-- A listing of a kind ends with such entries, unless a file stands in the place of the directory
of the kind. -/
structure EndsAsListing (v : Vault) (w : World) (caller : Caller) (selects : Record kind → Prop)
    (result : Except VaultError Answer) : Prop where
  blocked : w.disk.isFile (v.storage.layout.kindDirectory kind) = true →
    result = .error (.storage (.ofFault .notDirectory))
  listed : w.disk.isFile (v.storage.layout.kindDirectory kind) = false →
    ∃ entries, result = .ok (.listed entries) ∧ v.AgreesWithReads w caller selects entries

theorem agreesWithReads_of_listRecords {keep : Record kind → Bool}
    {keyOwner : Record kind → String} {records : List (Record kind)}
    (hnamed : ∀ name (r : Record kind), v.storage.getRecord kind name w.disk = .ok r → r.id = name)
    (hlist : v.storage.listRecords kind keep w.disk = .ok records)
    (hread : ∀ o : Opened kind, keep o.record = true →
      ((v.perform (.read kind caller o.record.id) w).1 = .ok (.opened o) ↔
        v.storage.getRecord kind o.record.id w.disk = .ok o.record ∧
          v.service.reveal (keyOwner o.record) o.record.payload = .ok o.plaintext)) :
    v.AgreesWithReads w caller (fun r => keep r = true)
      (records.filterMap fun r => (v.openedBy (keyOwner r) r).toOption) := by
  have hmem := Storage.mem_listRecords_iff v.ready hlist
  refine ⟨fun o => ?_, ?_⟩
  · rw [List.mem_filterMap]
    constructor
    · rintro ⟨_, hr, hopened⟩
      obtain ⟨rfl, hreveal⟩ := mem_toOption_openedBy_iff.mp hopened
      obtain ⟨hkeep, name, hget⟩ := (hmem _).mp hr
      obtain rfl := hnamed name _ hget
      exact ⟨hkeep, (hread o hkeep).mpr ⟨hget, hreveal⟩⟩
    · rintro ⟨hkeep, hopened⟩
      obtain ⟨hget, hreveal⟩ := (hread o hkeep).mp hopened
      exact ⟨o.record, (hmem _).mpr ⟨hkeep, _, hget⟩, mem_toOption_openedBy_iff.mpr ⟨rfl, hreveal⟩⟩
  · have hids := Storage.pairwise_ids_listRecords v.ready hlist fun name r hr _ => hnamed name r hr
    have hvalid {r : Record kind} (hr : r ∈ records) : isValidId r.id = true := by
      obtain ⟨-, name, hget⟩ := (hmem r).mp hr
      rw [hnamed name r hget]
      exact (Storage.isFile_of_getRecord hget).1
    rw [List.pairwise_map] at hids
    rw [List.pairwise_map, List.pairwise_filterMap]
    apply hids.imp_of_mem
    intro r r' hr hr' hlt o ho o' ho'
    rw [(mem_toOption_openedBy_iff.mp ho).1, (mem_toOption_openedBy_iff.mp ho').1]
    rw [← List.not_le, Storage.utf8Bytes_le_iff (hvalid hr') (hvalid hr), String.not_le]
    exact hlt

/-- So a listing agrees with reads that choose the same keys and let the caller have what it
selects. -/
theorem endsAsListing_of_reads {keep : Record kind → Bool} {keyOwner : Record kind → String}
    {a : Action (List (Opened kind))} (ha : a w = v.listOpened caller keep keyOwner w)
    (hnamed : ∀ name (r : Record kind), v.storage.getRecord kind name w.disk = .ok r → r.id = name)
    (hread : ∀ o : Opened kind, keep o.record = true →
      ((v.perform (.read kind caller o.record.id) w).1 = .ok (.opened o) ↔
        v.storage.getRecord kind o.record.id w.disk = .ok o.record ∧
          v.service.reveal (keyOwner o.record) o.record.payload = .ok o.plaintext)) :
    v.EndsAsListing w caller (fun r : Record kind => keep r = true)
      ((Answer.listed <$> a) w).1 := by
  rw [run_map, ha]
  rcases Storage.listRecords_cases v.ready keep with
    ⟨hblocked, hlist⟩ | ⟨hfree, records, hlist⟩
  · rw [listOpened, run_bind_of_error (ask_of_error hlist)]
    exact ⟨fun _ => rfl, fun hfree => absurd (hblocked.symm.trans hfree) (by decide)⟩
  · obtain ⟨t, hopened⟩ := v.exists_revealEach caller keyOwner records w
    rw [listOpened, run_bind_of_ok (ask_of_ok hlist), hopened]
    exact ⟨fun hblocked => absurd (hblocked.symm.trans hfree) (by decide),
      fun _ => ⟨_, rfl, agreesWithReads_of_listRecords hnamed hlist hread⟩⟩

/-- Own records are read and listed alike, with the keys of their owners. -/
theorem endsAsListing_listOwn
    (hnamed : ∀ name (r : Record kind), v.storage.getRecord kind name w.disk = .ok r → r.id = name)
    (hperform : ∀ id,
      v.perform (.read kind caller id) = Answer.opened <$> v.readOwn kind caller id) :
    v.EndsAsListing w caller (fun r : Record kind => r.owner = caller.userId)
      ((Answer.listed <$> v.listOwn kind caller) w).1 := by
  have hrun := congrFun (v.listOwn_eq kind caller) w
  have hends := endsAsListing_of_reads hrun hnamed fun o howner => by
    rw [decide_eq_true_eq] at howner
    rw [hperform, map_opened_eq_ok_iff, readOwn_eq_ok_iff, Record.grants_iff]
    simp only [howner, true_or, true_and]
  simpa only [decide_eq_true_eq] using hends

/-- What hangs on a document that the caller may access is read and listed alike, with the key of
the owner of the document. -/
theorem endsAsListing_listHanging {documentOf : kind.Fields → String} {documentId : String}
    {document : Record .document}
    (hnamed : ∀ name (r : Record kind), v.storage.getRecord kind name w.disk = .ok r → r.id = name)
    (hperform : ∀ id, v.perform (.read kind caller id) =
      Answer.opened <$> v.readHanging kind caller id documentOf)
    (hparent : ∀ r : Record kind, r.parent? = some (documentOf r.fields))
    (hfound : v.authorized .document caller documentId w = (.ok document, t)) :
    v.EndsAsListing w caller (fun r : Record kind => r.parent? = some documentId)
      ((Answer.listed <$> v.listHanging kind caller documentId) w).1 := by
  obtain ⟨rfl, hdocument, hgrants⟩ := getRecord_of_authorized hfound
  have hends := endsAsListing_of_reads (listHanging_of_authorized hfound) hnamed
    fun o hhangs => by
      rw [decide_eq_true_eq, hparent, Option.some.injEq] at hhangs
      rw [hperform, map_opened_eq_ok_iff, readHanging_eq_ok_iff, hhangs]
      apply and_congr_right
      intro _
      constructor
      · rintro ⟨document', hdocument', -, hreveal⟩
        obtain rfl : document = document' := Except.ok.inj (hdocument.symm.trans hdocument')
        exact hreveal
      · intro hreveal
        exact ⟨document, hdocument, hgrants, hreveal⟩
  simpa only [decide_eq_true_eq] using hends

/-- Where records are found under their own ids, a caller is listed just those own claims and
documents that reading them one by one shows. What hangs on a document is listed to a caller who may
access the document, and again it is just what reading shows; otherwise the listing fails as reading
the document does. -/
theorem listings_agree_with_reads (v : Vault) (w : World) (caller : Caller)
    (hnamed : ∀ kind name (r : Record kind),
      v.storage.getRecord kind name w.disk = .ok r → r.id = name) :
    v.EndsAsListing w caller (fun r : Record .claims => r.owner = caller.userId)
        (v.perform (.listClaims caller) w).1 ∧
      v.EndsAsListing w caller (fun r : Record .document => r.owner = caller.userId)
        (v.perform (.listDocuments caller) w).1 ∧
      ∀ documentId,
        (∀ e, (v.authorized .document caller documentId w).1 = .error e →
          (v.perform (.readDocument caller documentId) w).1 = .error e ∧
            (v.perform (.listPhotos caller documentId) w).1 = .error e ∧
            (v.perform (.listAttachments caller documentId) w).1 = .error e) ∧
        ∀ document, (v.authorized .document caller documentId w).1 = .ok document →
          v.EndsAsListing w caller (fun r : Record .photo => r.parent? = some documentId)
              (v.perform (.listPhotos caller documentId) w).1 ∧
            v.EndsAsListing w caller (fun r : Record .attachment => r.parent? = some documentId)
              (v.perform (.listAttachments caller documentId) w).1 := by
  refine ⟨endsAsListing_listOwn (hnamed .claims) fun _ => rfl,
    endsAsListing_listOwn (hnamed .document) fun _ => rfl, fun documentId => ⟨?_, ?_⟩⟩
  · intro e hfails
    have hstops {α : Type} (f : α → Answer) (next : Record .document → Action α) :
        ((f <$> (v.authorized .document caller documentId >>= next)) w).1 = .error e := by
      rw [run_map, run_bind_of_error (Prod.ext hfails rfl)]
      rfl
    exact ⟨hstops .opened _, hstops .listed _, hstops .listed _⟩
  · intro document hfound
    exact ⟨endsAsListing_listHanging (hnamed .photo) (fun _ => rfl) (fun _ => rfl)
        (Prod.ext hfound rfl),
      endsAsListing_listHanging (hnamed .attachment) (fun _ => rfl) (fun _ => rfl)
        (Prod.ext hfound rfl)⟩

/-- The photo of the travel document is listed. -/
theorem travel_photo_listed :
    ∃ entries, (travelSession.vault.perform (.listPhotos ⟨"alice", .user⟩ "d-1") photoWorld).1 =
        .ok (.listed entries) ∧
      travelSession.vault.AgreesWithReads photoWorld ⟨"alice", .user⟩
        (fun r : Record .photo => r.parent? = some "d-1") entries ∧
      ⟨travelPhoto, "holiday"⟩ ∈ entries := by
  obtain ⟨base, hd⟩ := exists_named_of_filled filled_photoWorld
  obtain ⟨_, hready, hphoto, hdocument⟩ := exists_shelves_photoWorld
  have hnamed : ∀ kind name (r : Record kind),
      travelSession.vault.storage.getRecord kind name photoWorld.disk = .ok r → r.id = name :=
    fun kind name r hr => hd.named (Storage.shelf_eq_some_iff_getRecord.mpr hr)
  obtain ⟨-, -, hhanging⟩ :=
    listings_agree_with_reads travelSession.vault photoWorld ⟨"alice", .user⟩ hnamed
  obtain ⟨-, hlisted⟩ := hhanging "d-1"
  obtain ⟨hphotos, -⟩ := hlisted travelDocument (congrArg Prod.fst authorized_travelDocument)
  obtain ⟨entries, hentries, hagrees⟩ := hphotos.listed (by decide +kernel)
  exact ⟨entries, hentries, hagrees, (hagrees.mem_iff _).mpr
    ⟨rfl, perform_read_photo hready hphoto hdocument (by decide) reveal_travelPhoto⟩⟩

/-- A disk with an empty data directory. -/
def dataDisk : Disk := (Disk.empty.put? [] "data" .directory).getD .empty

/-- The same disk with a file in the place of the directory for claims. -/
def fileForClaims : Disk := (dataDisk.put? ["data"] "claims" (.file [])).getD dataDisk

/-- The world of the travel session with that disk. -/
def fileForClaimsWorld : World := { travelSession.world with disk := fileForClaims }

theorem eq_of_file_fileForClaims {place : Place} {bytes : List UInt8}
    (h : fileForClaims.get? place = some (.file bytes)) : place = ["data", "claims"] := by
  have hdata : Disk.empty.put? [] "data" .directory = some dataDisk :=
    Disk.put?_eq_some_getD (by decide +kernel)
  have hclaims : dataDisk.put? ["data"] "claims" (.file []) = some fileForClaims :=
    Disk.put?_eq_some_getD (by decide +kernel)
  rw [Disk.get?_of_put? hclaims] at h
  split at h
  next heq => exact heq
  · rw [Disk.get?_of_put? hdata] at h
    split at h
    · cases h
    · exact absurd h (Disk.get?_empty_ne_file place bytes)

theorem perform_listClaims_fileForClaims :
    (travelSession.vault.perform (.listClaims ⟨"alice", .user⟩) fileForClaimsWorld).1 =
      .error (.storage (.ofFault .notDirectory)) := by
  have hblocked : fileForClaimsWorld.disk.isFile
      (travelSession.vault.storage.layout.kindDirectory .claims) = true := by
    decide +kernel
  rcases Storage.listRecords_cases (d := fileForClaimsWorld.disk) travelSession.vault.ready
      fun r : Record .claims => r.owner = "alice" with ⟨-, hlist⟩ | ⟨hfree, -⟩
  · have hfails : travelSession.vault.listClaims ⟨"alice", .user⟩ fileForClaimsWorld =
        (.error (.storage (.ofFault .notDirectory)), fileForClaimsWorld) :=
      run_bind_of_error (ask_of_error hlist)
    rw [perform, run_map, hfails]
    rfl
  · rw [hblocked] at hfree
    cases hfree

/-- Alice can be shown no own claims there, but the listing fails. -/
theorem listing_fails_at_file :
    (∀ kind name (r : Record kind),
        travelSession.vault.storage.getRecord kind name fileForClaimsWorld.disk = .ok r →
          r.id = name) ∧
      ¬∃ entries, (travelSession.vault.perform (.listClaims ⟨"alice", .user⟩)
          fileForClaimsWorld).1 = .ok (.listed entries) ∧
        travelSession.vault.AgreesWithReads fileForClaimsWorld ⟨"alice", .user⟩
          (fun r : Record .claims => r.owner = "alice") entries := by
  constructor
  · intro kind name r hr
    obtain ⟨-, hid, bytes, hread, -⟩ := Storage.getRecord_eq_ok_iff.mp hr
    have hplace := eq_of_file_fileForClaims (Disk.readFile_eq_ok_iff.mp hread).2.2
    rw [Layout.place_record hid] at hplace
    have hlength : 3 = 2 := congrArg List.length hplace
    cases hlength
  · rintro ⟨entries, hlisted, -⟩
    rw [perform_listClaims_fileForClaims] at hlisted
    cases hlisted

end Vault

end SealedVault
