import SealedVault.Proofs.Store.FileByFile
import SealedVault.Proofs.Vault.Listings

/-!
# One bad file hides no other

Every listing opens, one by one, what a listing of records selects. What a file adds is therefore
decided by the file, and whatever may be wrong with one file makes no difference to what the others
add. The document on which photos or attachments hang is in another directory.
-/

namespace SealedVault

open Layout (recordPlace)

namespace Vault

variable {v : Vault} {w w' : World} {kind : Kind} {caller : Caller} {id name documentId : String}

/-! ## One listing -/

/-- The listing of each kind. The document matters only to the kinds that hang on one. -/
def listing (v : Vault) (caller : Caller) (documentId : String) :
    (kind : Kind) → Action (List (Opened kind))
  | .claims => v.listClaims caller
  | .document => v.listDocuments caller
  | .photo => v.listPhotos caller documentId
  | .attachment => v.listAttachments caller documentId

/-- What is shown of a record: if it satisfies the condition, what it opens to with its key. -/
def shows (v : Vault) (keep : Record kind → Bool) (keyOwner : Record kind → String)
    (r : Record kind) : Option (Opened kind) :=
  (Option.guard keep r).bind fun r => (v.openedBy (keyOwner r) r).toOption

/-- What is shown of a record that a user may own: the caller's own are opened with the key of their
owner. -/
def showsOwn (v : Vault) (caller : Caller) : Record kind → Option (Opened kind) :=
  v.shows (fun r => r.owner = caller.userId) (·.owner)

/-- What is shown of a record that may hang on the document: those that do are opened with the key
of the owner of the document that is on the disk. -/
def showsHanging (v : Vault) (d : Disk) (documentId : String) (r : Record kind) :
    Option (Opened kind) :=
  (v.storage.shelf d .document documentId).bind fun document =>
    v.shows (fun r => r.parent? = some documentId) (fun _ => document.owner) r

/-- What the listing of each kind shows of a record. -/
def listingShows (v : Vault) (d : Disk) (caller : Caller) (documentId : String) :
    (kind : Kind) → Record kind → Option (Opened kind)
  | .claims => v.showsOwn caller
  | .document => v.showsOwn caller
  | .photo => v.showsHanging d documentId
  | .attachment => v.showsHanging d documentId

/-- Records are listed and opened file by file. -/
theorem exists_listOpened
    (hfound : w.disk.find (v.storage.layout.kindDirectory kind) = .ok .directory)
    (caller : Caller) (keep : Record kind → Bool) (keyOwner : Record kind → String) :
    ∃ t, v.listOpened caller keep keyOwner w =
      (.ok ((v.storage.layout.stemsOf kind w.disk).filterMap
        (v.storage.layout.entryOf (v.shows keep keyOwner) w.disk)), t) := by
  have hlist := Storage.listRecords_eq_entries v.ready hfound keep
  obtain ⟨t, hopened⟩ := v.exists_revealEach caller keyOwner
    ((v.storage.layout.stemsOf kind w.disk).filterMap
      (v.storage.layout.entryOf (Option.guard keep) w.disk)) w
  refine ⟨t, ?_⟩
  rw [listOpened, run_bind_of_ok (ask_of_ok hlist), hopened, Layout.filterMap_entryOf]
  rfl

/-! ## Two listings -/

theorem listsAlike_listOpened (h : v.storage.layout.DiffersInFile kind name w.disk w'.disk)
    (caller : Caller) (keep : Record kind → Bool) (keyOwner : Record kind → String) :
    v.storage.layout.ListsAlike kind name (v.shows keep keyOwner) w.disk w'.disk
      (v.listOpened caller keep keyOwner w).1 (v.listOpened caller keep keyOwner w').1 := by
  obtain ⟨t, hlisted⟩ := exists_listOpened h.found caller keep keyOwner
  obtain ⟨t', hlisted'⟩ := exists_listOpened h.found' caller keep keyOwner
  rw [hlisted, hlisted']
  exact Storage.listsAlike_stemsOf v.ready h (v.shows keep keyOwner)

theorem listsAlike_listOwn (h : v.storage.layout.DiffersInFile kind name w.disk w'.disk)
    (caller : Caller) :
    v.storage.layout.ListsAlike kind name (v.showsOwn caller) w.disk w'.disk
      (v.listOwn kind caller w).1 (v.listOwn kind caller w').1 := by
  rw [listOwn_eq]
  exact listsAlike_listOpened h caller _ _

/-- Access to a record is granted or denied by what is found. -/
theorem authorized_eq_of_getRecord
    (h : v.storage.getRecord kind id w'.disk = v.storage.getRecord kind id w.disk)
    (caller : Caller) :
    (v.authorized kind caller id w').1 = (v.authorized kind caller id w).1 := by
  cases hget : v.storage.getRecord kind id w.disk with
  | error e => rw [authorized_of_error hget, authorized_of_error (h.trans hget)]
  | ok r =>
    cases hgrants : r.grants caller with
    | true => rw [authorized_of_grants hget hgrants, authorized_of_grants (h.trans hget) hgrants]
    | false =>
      rw [authorized_of_not_grants hget hgrants, authorized_of_not_grants (h.trans hget) hgrants]

/-- Where access is granted, nothing is noted. -/
theorem authorized_of_fst {r : Record kind} (h : (v.authorized kind caller id w).1 = .ok r) :
    v.authorized kind caller id w = (.ok r, w) := by
  have hrun : v.authorized kind caller id w = (.ok r, (v.authorized kind caller id w).2) :=
    Prod.ext h rfl
  obtain ⟨hworld, -, -⟩ := getRecord_of_authorized hrun
  rwa [hworld] at hrun

theorem listsAlike_listHanging (h : v.storage.layout.DiffersInFile kind name w.disk w'.disk)
    (hkind : Kind.document ≠ kind) (caller : Caller) (documentId : String) :
    v.storage.layout.ListsAlike kind name (v.showsHanging w.disk documentId) w.disk w'.disk
      (v.listHanging kind caller documentId w).1 (v.listHanging kind caller documentId w').1 := by
  have hplace : recordPlace v.storage.layout.base .document documentId ≠
      v.storage.layout.filePlace kind name := by
    intro heq
    apply hkind
    apply directory_injective
    simp only [recordPlace, Layout.filePlace, List.append_assoc, List.append_cancel_left_eq,
      List.cons_append, List.cons.injEq] at heq
    exact heq.1
  have hsame := authorized_eq_of_getRecord (h.getRecord_eq hplace) caller
  cases hresult : (v.authorized .document caller documentId w).1 with
  | error e =>
    rw [listHanging, run_bind_of_error (Prod.ext hresult rfl),
      run_bind_of_error (Prod.ext (hsame.trans hresult) rfl)]
    exact .failed e
  | ok document =>
    obtain ⟨-, hdocument, -⟩ := shelf_of_authorized (authorized_of_fst hresult)
    have hshows : v.showsHanging w.disk documentId =
        v.shows (fun r : Record kind => r.parent? = some documentId) fun _ => document.owner := by
      funext r
      rw [showsHanging, hdocument, Option.bind_some]
    rw [listHanging_of_authorized (authorized_of_fst hresult),
      listHanging_of_authorized (authorized_of_fst (hsame.trans hresult)), hshows]
    exact listsAlike_listOpened h caller _ _

/-! ## One bad file -/

/-- Where two disks differ in one file of the directory of a kind, whatever is in it, every listing
of the kind succeeds on both or on neither. Each file adds what the listing shows of the record in
it, and all other files add the same on both, in the same order. The file adds at most one entry to
each. -/
theorem one_file_hides_no_other (s : Storage) (d d' : Disk) (kind : Kind) (name : String)
    (h : s.layout.DiffersInFile kind name d d') :
    s.layout.ListsAlike kind name some d d' (s.listAll kind d) (s.listAll kind d') ∧
      (∀ owner, s.layout.ListsAlike kind name (Option.guard fun r => r.owner = owner) d d'
        (s.listByOwner kind owner d) (s.listByOwner kind owner d')) ∧
      (∀ documentId, s.layout.ListsAlike kind name
        (Option.guard fun r => r.parent? = some documentId) d d'
        (s.listByDocument kind documentId d) (s.listByDocument kind documentId d')) ∧
      ∀ (v : Vault) (w w' : World) (caller : Caller) (documentId : String),
        v.storage = s → w.disk = d → w'.disk = d' →
          s.layout.ListsAlike kind name (v.listingShows d caller documentId kind) d d'
            (v.listing caller documentId kind w).1 (v.listing caller documentId kind w').1 := by
  refine ⟨Storage.listsAlike_listAll h, fun _ => Storage.listsAlike_listRecords h _,
    fun _ => Storage.listsAlike_listRecords h _, ?_⟩
  rintro v w w' caller documentId rfl rfl rfl
  cases kind with
  | claims => exact listsAlike_listOwn h caller
  | document => exact listsAlike_listOwn h caller
  | photo => exact listsAlike_listHanging h (by decide) caller documentId
  | attachment => exact listsAlike_listHanging h (by decide) caller documentId

/-- The disk with the travel document and its photo after a file that holds no record was put beside
the photo. -/
def spoiledDisk : Disk :=
  (photoDisk.put? ["data", "photos"] "p-0.json" (.file [0xff])).getD photoDisk

/-- The world of the travel session with that disk. -/
def spoiledWorld : World := { travelSession.world with disk := spoiledDisk }

theorem spoiledWorld_disk : spoiledWorld.disk = spoiledDisk := by
  rw [spoiledWorld]

theorem put?_spoiledDisk :
    photoDisk.put? ["data", "photos"] "p-0.json" (.file [0xff]) = some spoiledDisk :=
  Disk.put?_eq_some_getD (by decide +kernel)

/-- No record is in that file, on either disk. -/
theorem recordIn_bad_file {stem : String} (h : stem ++ ".json" = "p-0.json") :
    travelSession.vault.storage.layout.recordIn .photo photoDisk stem = none ∧
      travelSession.vault.storage.layout.recordIn .photo spoiledDisk stem = none := by
  obtain rfl : stem = "p-0" := (String.append_left_inj ".json").mp h
  constructor
  · exact Option.isNone_iff_eq_none.mp (by decide +kernel)
  · exact Option.isNone_iff_eq_none.mp (by decide +kernel)

theorem listing_photoWorld :
    (travelSession.vault.listing ⟨"alice", .user⟩ "d-1" .photo photoWorld).1 =
      .ok [⟨travelPhoto, "holiday"⟩] := by
  have hlist : travelSession.vault.storage.listRecords .photo
      (fun r => r.parent? = some "d-1") photoWorld.disk = .ok [travelPhoto] := by
    decide +kernel
  obtain ⟨t, hopened⟩ := travelSession.vault.exists_revealEach ⟨"alice", .user⟩
    (fun _ => travelDocument.owner) [travelPhoto] photoWorld
  rw [listing, listPhotos, listHanging_of_authorized authorized_travelDocument, listOpened,
    run_bind_of_ok (ask_of_ok hlist), hopened, List.filterMap_cons,
    openedBy_of_reveal reveal_travelPhoto]
  rfl

/-- The photo of the travel document is listed with that file as it is without it. -/
theorem photos_listed_beside_bad_file :
    travelSession.vault.storage.layout.DiffersInFile .photo "p-0.json" photoWorld.disk
        spoiledWorld.disk ∧
      (travelSession.vault.listing ⟨"alice", .user⟩ "d-1" .photo photoWorld).1 =
        .ok [⟨travelPhoto, "holiday"⟩] ∧
      (travelSession.vault.listing ⟨"alice", .user⟩ "d-1" .photo spoiledWorld).1 =
        .ok [⟨travelPhoto, "holiday"⟩] := by
  have hdiffers : travelSession.vault.storage.layout.DiffersInFile .photo "p-0.json"
      photoWorld.disk spoiledWorld.disk := by
    obtain ⟨base, hready, -, -⟩ := exists_shelves_photoWorld
    obtain ⟨-, hfound⟩ := Layout.find_kindDirectory hready.stands .photo
    have hbase : travelSession.vault.storage.layout.base ++ [Kind.photo.directory] =
        ["data", "photos"] := by
      decide +kernel
    rw [photoWorld_disk] at hfound
    rw [photoWorld_disk, spoiledWorld_disk]
    apply Layout.differsInFile_of_put? hfound
    rw [hbase]
    exact put?_spoiledDisk
  obtain ⟨-, -, -, hlisted⟩ := one_file_hides_no_other travelSession.vault.storage photoWorld.disk
    spoiledWorld.disk .photo "p-0.json" hdiffers
  have halike := hlisted travelSession.vault photoWorld spoiledWorld ⟨"alice", .user⟩ "d-1" rfl rfl
    rfl
  rw [photoWorld_disk, spoiledWorld_disk] at halike
  have hsame := halike.eq_of_no_record (fun _ h => (recordIn_bad_file h).1)
    fun _ h => (recordIn_bad_file h).2
  exact ⟨hdiffers, listing_photoWorld, hsame.trans listing_photoWorld⟩

end Vault

end SealedVault
