import SealedVault.Proofs.Disk.Files
import SealedVault.Proofs.Store.Listing
import SealedVault.Proofs.Store.Preparation
import SealedVault.Proofs.Vault.Sessions

/-!
# Records as maps

Seen through its requests, a data directory is a cabinet: one map from ids to records for every
kind. Every request on files is answered as the same request on the maps, with one exception that
has to do with files: a new record whose path is too long for the file system is refused.
-/

namespace SealedVault

open Disk (Fault KeepsDirectories checkPath nameLimit)
open Layout (recordPlace recordPlace_injective)
open SealedVault.Path (IsName)
open Storage (PutsRecord RemovesRecord)

/-! ## Requests on records -/

/-- What can be asked of the records in storage. -/
inductive RecordRequest where
  | create (kind : Kind) (r : Record kind)
  | get (kind : Kind) (id : String)
  | update (kind : Kind) (r : Record kind)
  | delete (kind : Kind) (id : String)
  | has (kind : Kind) (id : String)
  | listAll (kind : Kind)
  | listByOwner (kind : Kind) (owner : String)
  | listByDocument (kind : Kind) (document : String)

/-- What such a request is answered with. -/
inductive RecordAnswer where
  | done
  | told (present : Bool)
  | found {kind : Kind} (r : Record kind)
  | listed {kind : Kind} (records : List (Record kind))
deriving DecidableEq

/-- Carries out a request on the files. -/
def Storage.serve (s : Storage) : RecordRequest → DiskAction RecordAnswer
  | .create _ r => (fun _ => .done) <$> s.createRecord r
  | .get kind id => .found <$> DiskAction.ask (s.getRecord kind id)
  | .update _ r => (fun _ => .done) <$> s.updateRecord r
  | .delete kind id => (fun _ => .done) <$> s.deleteRecord kind id
  | .has kind id => .told <$> DiskAction.ask fun d => .ok (s.hasRecord kind id d)
  | .listAll kind => .listed <$> DiskAction.ask (s.listAll kind)
  | .listByOwner kind owner => .listed <$> DiskAction.ask (s.listByOwner kind owner)
  | .listByDocument kind document => .listed <$> DiskAction.ask (s.listByDocument kind document)

/-- The answers to requests that are carried out one after the other. -/
def Storage.serveAll (s : Storage) :
    List RecordRequest → Disk → List (Except StorageError RecordAnswer)
  | [], _ => []
  | request :: rest, d => (s.serve request d).1 :: s.serveAll rest (s.serve request d).2

/-- The file system takes a file for the record: neither its path nor that of the working file
beside it is too long. -/
def Layout.Accepts (l : Layout) (kind : Kind) (id : String) : Prop :=
  l.Writable kind ∧ l.Fits kind id

instance (l : Layout) (kind : Kind) (id : String) : Decidable (l.Accepts kind id) :=
  inferInstanceAs (Decidable (checkPath _ = .ok () ∧ checkPath _ = .ok () ∧ ¬nameLimit < _))

/-! ## Maps -/

/-- One map from ids to records for every kind. -/
def Cabinet : Type := (kind : Kind) → Std.ExtTreeMap String (Record kind)

namespace Cabinet

variable {c : Cabinet} {kind kind' : Kind} {id : String} {l : Layout}

/-- The cabinet without records. -/
def empty : Cabinet := fun _ => ∅

/-- The cabinet with a record under its id, in place of the one that may be there. -/
def put (c : Cabinet) {kind : Kind} (r : Record kind) : Cabinet :=
  Function.update c kind ((c kind).insert r.id r)

/-- The cabinet without the record under an id. -/
def remove (c : Cabinet) (kind : Kind) (id : String) : Cabinet :=
  Function.update c kind ((c kind).erase id)

/-- The records of a kind that satisfy a condition, in ascending order of the bytes of their ids. -/
def listing (c : Cabinet) (kind : Kind) (keep : Record kind → Bool) : List (Record kind) :=
  (((c kind).toList.map (·.2)).filter keep).mergeSort fun r r' =>
    Text.utf8Bytes r.id ≤ Text.utf8Bytes r'.id

/-- Carries out a request on the maps. The layout tells for which new records the file system has a
file. -/
def serve (l : Layout) (c : Cabinet) : RecordRequest → Except StorageError RecordAnswer × Cabinet
  | .create kind r =>
    if isValidId r.id = false then (.error (.invalidId r.id), c)
    else if r.id ∈ c kind then (.error (.alreadyExists (Record.labelOf kind r.id)), c)
    else if l.Accepts kind r.id then (.ok .done, c.put r)
    else (.error (.io Fault.tooLong.message), c)
  | .get kind id =>
    if isValidId id = false then (.error (.invalidId id), c)
    else
      match (c kind)[id]? with
      | some r => (.ok (.found r), c)
      | none => (.error (.notFound (Record.labelOf kind id)), c)
  | .update kind r =>
    if isValidId r.id = false then (.error (.invalidId r.id), c)
    else if r.id ∈ c kind then (.ok .done, c.put r)
    else (.error (.notFound (Record.labelOf kind r.id)), c)
  | .delete kind id =>
    if isValidId id = false then (.error (.invalidId id), c)
    else if id ∈ c kind then (.ok .done, c.remove kind id)
    else (.error (.notFound (Record.labelOf kind id)), c)
  | .has kind id => (.ok (.told (isValidId id && id ∈ c kind)), c)
  | .listAll kind => (.ok (.listed (c.listing kind fun _ => true)), c)
  | .listByOwner kind owner => (.ok (.listed (c.listing kind fun r => r.owner = owner)), c)
  | .listByDocument kind document =>
    (.ok (.listed (c.listing kind fun r => r.parent? = some document)), c)

/-- The answers to requests that are carried out one after the other. -/
def serveAll (l : Layout) (c : Cabinet) :
    List RecordRequest → List (Except StorageError RecordAnswer)
  | [] => []
  | request :: rest => (c.serve l request).1 :: serveAll l (c.serve l request).2 rest

theorem put_self (c : Cabinet) (r : Record kind) : c.put r kind = (c kind).insert r.id r :=
  Function.update_self ..

theorem put_of_ne (c : Cabinet) (r : Record kind) (h : kind' ≠ kind) : c.put r kind' = c kind' :=
  Function.update_of_ne h ..

theorem remove_self (c : Cabinet) (kind : Kind) (id : String) :
    c.remove kind id kind = (c kind).erase id :=
  Function.update_self ..

theorem remove_of_ne (c : Cabinet) (id : String) (h : kind' ≠ kind) :
    c.remove kind id kind' = c kind' :=
  Function.update_of_ne h ..

end Cabinet

/-! ## Files as maps -/

namespace Storage

variable {s : Storage} {base : Place} {d d' : Disk} {c : Cabinet} {kind : Kind} {id : String}

/-- The directories of the kinds hold the files of the records in the cabinet, and nothing else. -/
structure Represents (s : Storage) (base : Place) (c : Cabinet) (d : Disk) : Prop where
  ready : s.ReadyAt base d
  named {kind : Kind} {id : String} {r : Record kind} : (c kind)[id]? = some r →
    r.id = id ∧ isValidId id = true ∧ s.layout.Accepts kind id
  file (kind : Kind) (id : String) :
    d.get? (recordPlace base kind id) = (c kind)[id]?.map fun r => .file r.toBytes
  only {kind : Kind} {name : String} :
    d.get? (base ++ [kind.directory] ++ [name]) ≠ none → ∃ id, name = id ++ ".json"

theorem Represents.exists_file_iff (h : s.Represents base c d) :
    (∃ bytes, d.get? (recordPlace base kind id) = some (.file bytes)) ↔ id ∈ c kind := by
  rw [h.file, ← Std.ExtTreeMap.isSome_getElem?_iff_mem]
  cases (c kind)[id]? with
  | none => simp
  | some r => simp

theorem Represents.isFile_eq (h : s.Represents base c d) (hid : isValidId id = true) :
    d.isFile (s.layout.record kind id) = decide (id ∈ c kind) := by
  rw [Bool.eq_iff_iff, decide_eq_true_iff, Layout.isFile_record_iff h.ready.stands hid,
    h.exists_file_iff]
  refine ⟨And.right, fun hmem => ⟨?_, hmem⟩⟩
  obtain ⟨r, hr⟩ := Option.isSome_iff_exists.mp (Std.ExtTreeMap.isSome_getElem?_iff_mem.mpr hmem)
  exact (h.named hr).2.2.2

/-- What is found under an id is what the map holds. -/
theorem Represents.shelf_eq (h : s.Represents base c d) (kind : Kind) (id : String) :
    s.shelf d kind id = (c kind)[id]? := by
  apply Option.ext
  intro r
  rw [shelf_eq_some_iff h.ready, h.file]
  constructor
  · rintro ⟨-, -, bytes, hbytes, hdecode⟩
    obtain ⟨r', hr', hfile⟩ := Option.map_eq_some_iff.mp hbytes
    cases hfile
    rw [r'.ofBytes?_toBytes] at hdecode
    rwa [← hdecode]
  · intro hr
    obtain ⟨-, hid, -, hfits⟩ := h.named hr
    exact ⟨hid, hfits, r.toBytes, by rw [hr]; rfl, r.ofBytes?_toBytes⟩

theorem Represents.presentPath_eq (h : s.Represents base c d) (kind : Kind) (id : String) :
    s.presentPath kind id d =
      if isValidId id = false then .error (.invalidId id)
      else if id ∈ c kind then .ok (s.layout.record kind id)
      else .error (.notFound (Record.labelOf kind id)) := by
  cases hid : isValidId id with
  | false =>
    rw [presentPath_of_invalid hid]
    rfl
  | true =>
    simp only [presentPath, recordPath, hid, if_true, ok_bind, h.isFile_eq hid, decide_eq_true_eq,
      Bool.true_eq_false, if_false]
    rfl

theorem Represents.absentPath_eq (h : s.Represents base c d) (kind : Kind) (id : String) :
    s.absentPath kind id d =
      if isValidId id = false then .error (.invalidId id)
      else if id ∈ c kind then .error (.alreadyExists (Record.labelOf kind id))
      else .ok (s.layout.record kind id) := by
  cases hid : isValidId id with
  | false =>
    rw [absentPath_of_invalid hid]
    rfl
  | true =>
    simp only [absentPath, recordPath, hid, if_true, ok_bind, h.isFile_eq hid, decide_eq_true_eq,
      Bool.true_eq_false, if_false]
    rfl

theorem Represents.hasRecord_eq (h : s.Represents base c d) (kind : Kind) (id : String) :
    s.hasRecord kind id d = (isValidId id && decide (id ∈ c kind)) := by
  rw [hasRecord]
  cases hid : isValidId id with
  | false => rfl
  | true => rw [h.isFile_eq hid]

theorem Represents.getRecord_eq (h : s.Represents base c d) (kind : Kind) (id : String) :
    s.getRecord kind id d =
      if isValidId id = false then .error (.invalidId id)
      else
        match (c kind)[id]? with
        | some r => .ok r
        | none => .error (.notFound (Record.labelOf kind id)) := by
  by_cases hid : isValidId id = false
  · rw [if_pos hid, getRecord_of_invalid hid]
  rw [if_neg hid]
  cases hr : (c kind)[id]? with
  | some r =>
    rw [← h.shelf_eq] at hr
    exact shelf_eq_some_iff_getRecord.mp hr
  | none =>
    apply getRecord_of_no_file h.ready (eq_true_of_ne_false hid)
    rintro ⟨-, hfile⟩
    rw [h.exists_file_iff, ← Std.ExtTreeMap.isSome_getElem?_iff_mem, hr] at hfile
    cases hfile

/-! ## Changes -/

/-- What is under one id changes in the files and in the map of its kind. -/
theorem Represents.of_change {c' : Cabinet} (h : s.Represents base c d)
    (hkeeps : KeepsDirectories d d') (stored : Option (Record kind))
    (hget : ∀ place, d'.get? place =
      if place = recordPlace base kind id then stored.map fun r => .file r.toBytes
      else d.get? place)
    (hself : ∀ id', (c' kind)[id']? = if id' = id then stored else (c kind)[id']?)
    (hother : ∀ kind', kind' ≠ kind → c' kind' = c kind')
    (hstored : ∀ r, stored = some r → r.id = id ∧ isValidId id = true ∧ s.layout.Accepts kind id) :
    s.Represents base c' d' where
  ready := h.ready.of_keepsDirectories hkeeps
  named := by
    intro kind' id' r hr
    by_cases hkind : kind' = kind
    · subst hkind
      rw [hself] at hr
      split at hr
      next heq =>
        rw [heq]
        exact hstored r hr
      · exact h.named hr
    · rw [hother kind' hkind] at hr
      exact h.named hr
  file := by
    intro kind' id'
    rw [hget, h.file]
    by_cases hkind : kind' = kind
    · subst hkind
      rw [hself]
      by_cases hid : id' = id
      · rw [if_pos hid, if_pos (by rw [hid])]
      · rw [if_neg hid, if_neg fun heq => hid (recordPlace_injective heq).2]
    · rw [hother kind' hkind, if_neg fun heq => hkind (recordPlace_injective heq).1]
  only := by
    intro kind' name hname
    rw [hget] at hname
    split at hname
    next hplace =>
      have hnames := List.append_inj_right' hplace rfl
      exact ⟨id, (List.cons.inj hnames).1⟩
    · exact h.only hname

theorem Represents.put {r : Record kind} (h : s.Represents base c d)
    (hid : isValidId r.id = true) (haccepts : s.layout.Accepts kind r.id)
    (hputs : PutsRecord base r d d') : s.Represents base (c.put r) d' := by
  refine h.of_change hputs.keepsDirectories (some r) hputs.get?_eq (fun id' => ?_)
    (fun kind' hkind => c.put_of_ne r hkind) ?_
  · rw [Cabinet.put_self, Std.ExtTreeMap.getElem?_insert]
    exact if_congr (Std.LawfulEqCmp.compare_eq_iff_eq.trans eq_comm) rfl rfl
  · rintro _ ⟨rfl⟩
    exact ⟨rfl, hid, haccepts⟩

theorem Represents.remove (h : s.Represents base c d)
    (hremoves : RemovesRecord base kind id d d') : s.Represents base (c.remove kind id) d' := by
  refine h.of_change hremoves.keepsDirectories none hremoves.get?_eq (fun id' => ?_)
    (fun kind' hkind => c.remove_of_ne id hkind) ?_
  · rw [Cabinet.remove_self, Std.ExtTreeMap.getElem?_erase]
    exact if_congr (Std.LawfulEqCmp.compare_eq_iff_eq.trans eq_comm) rfl rfl
  · intro r hr
    cases hr

/-! ## Paths that are too long -/

/-- A path that has no unusable character cannot be followed for no other reason than its size. -/
theorem eq_tooLong_of_checkPath {p : Path} {fault : Fault} (husable : p.isUnusable = false)
    (h : checkPath p = .error fault) : fault = .tooLong := by
  rw [checkPath, husable, if_neg Bool.false_ne_true] at h
  split at h
  · cases h
    rfl
  · cases h

theorem isUnusable_of_checkPath {p : Path} (h : checkPath p = .ok ()) : p.isUnusable = false := by
  rw [checkPath] at h
  split at h
  · cases h
  next husable => exact eq_false_of_ne_true husable

theorem locate_eq_tooLong (h : s.ReadyAt base d) (kind : Kind) {name : String}
    (hname : IsName name) (husable : '\x00' ∉ name.toList)
    (hlong : ¬(checkPath ((s.layout.kindDirectory kind).join name) = .ok () ∧
      ¬nameLimit < name.utf8ByteSize)) :
    d.locate ((s.layout.kindDirectory kind).join name) = .error .tooLong := by
  have hdirectory := isUnusable_of_checkPath (h.stands.checkKind kind)
  rw [Layout.locate_join_kindDirectory h.stands.root (h.stands.kindDirectory kind) hname]
  cases hcheck : checkPath ((s.layout.kindDirectory kind).join name) with
  | error fault =>
    rw [eq_tooLong_of_checkPath (Path.isUnusable_join hname hdirectory husable) hcheck]
    rfl
  | ok =>
    have hsize : nameLimit < name.utf8ByteSize :=
      Classical.byContradiction fun hshort => hlong ⟨hcheck, hshort⟩
    exact if_pos hsize

theorem mem_of_isValidId {c : Char} (hid : isValidId id = true) (hc : c ∈ id.toList) :
    c.isAlphanum = true ∨ c = '-' ∨ c = '_' ∨ c = '.' := by
  simp only [isValidId, Bool.and_eq_true, List.all_eq_true, Bool.or_eq_true,
    decide_eq_true_eq] at hid
  have h := hid.2 c hc
  tauto

/-- A record for which the file system has no file is refused, and nothing is changed. -/
theorem replace_record_of_not_accepts (h : s.ReadyAt base d) (hid : isValidId id = true)
    (hlong : ¬s.layout.Accepts kind id) (bytes : List UInt8) :
    s.replace (s.layout.record kind id) bytes d = (.error (.io Fault.tooLong.message), d) := by
  have hparent : (s.layout.record kind id).parent = s.layout.kindDirectory kind :=
    Path.parent_join_join (isName_directory kind) (isName_recordFile hid) s.layout.root
  have husable : '\x00' ∉ (id ++ ".json").toList := by
    intro hzero
    rw [String.toList_append, List.mem_append] at hzero
    rcases hzero with hzero | hzero
    · exact absurd (mem_of_isValidId hid hzero) (by decide)
    · exact absurd hzero (by decide)
  have hreplace : d.replaceFile (s.layout.record kind id) bytes = .error .tooLong := by
    rw [Disk.replaceFile, hparent]
    by_cases hwritable : s.layout.Writable kind
    · have hworking := Layout.locate_join_kindDirectory h.stands.root
        (h.stands.kindDirectory kind) isName_workingName
      have hrecord := locate_eq_tooLong h kind (isName_recordFile hid) husable
        fun hfits => hlong ⟨hwritable, hfits⟩
      rw [if_neg (by decide), hwritable] at hworking
      rw [← Layout.record] at hrecord
      rw [hworking, Except.bind, Except.bind, Layout.nameFile_record hid, hrecord]
      rfl
    · rw [locate_eq_tooLong h kind isName_workingName (by decide) fun hfits => hwritable hfits.1]
      rfl
  rw [replace_record h kind hid, hreplace]
  rfl

/-! ## Listings -/

theorem toNat_lt_of_isAlphanum {c : Char} (h : c.isAlphanum = true) : c.toNat < 128 := by
  delta Char.isAlphanum Char.isAlpha Char.isUpper Char.isLower Char.isDigit at h
  simp only [Bool.or_eq_true, Bool.and_eq_true, decide_eq_true_eq, ge_iff_le,
    UInt32.le_iff_toNat_le] at h
  have hupper : 'Z'.val.toNat = 90 := rfl
  have hlower : 'z'.val.toNat = 122 := rfl
  have hdigit : '9'.val.toNat = 57 := rfl
  have hval : c.toNat = c.val.toNat := rfl
  omega

theorem toNat_lt_of_isValidId {c : Char} (hid : isValidId id = true) (hc : c ∈ id.toList) :
    c.toNat < 128 := by
  rcases mem_of_isValidId hid hc with h | rfl | rfl | rfl
  · exact toNat_lt_of_isAlphanum h
  · decide
  · decide
  · decide

/-- Where all characters have one byte, texts are in the order of their bytes. -/
theorem map_ascii_lt_iff {as bs : List Char} (ha : ∀ c ∈ as, c.toNat < 128)
    (hb : ∀ c ∈ bs, c.toNat < 128) : as.map Json.ascii < bs.map Json.ascii ↔ as < bs := by
  induction as generalizing bs with
  | nil => cases bs <;> simp
  | cons a as ih =>
    cases bs with
    | nil => simp
    | cons b bs =>
      have hfirst := Text.toNat_ascii (ha a (by simp))
      have hsecond := Text.toNat_ascii (hb b (by simp))
      have hlt : Json.ascii a < Json.ascii b ↔ a < b := by
        rw [UInt8.lt_iff_toNat_lt, hfirst, hsecond]
        rfl
      have heq : Json.ascii a = Json.ascii b ↔ a = b := by
        rw [← UInt8.toNat_inj, hfirst, hsecond, Char.toNat_inj]
      rw [List.map_cons, List.map_cons, List.cons_lt_cons_iff, List.cons_lt_cons_iff, hlt, heq,
        ih (fun c hc => ha c (by simp [hc])) fun c hc => hb c (by simp [hc])]

theorem utf8Bytes_le_iff {id' : String} (hid : isValidId id = true) (hid' : isValidId id' = true) :
    Text.utf8Bytes id ≤ Text.utf8Bytes id' ↔ id ≤ id' := by
  have hlt := map_ascii_lt_iff (fun c hc => toNat_lt_of_isValidId hid' hc)
    fun c hc => toNat_lt_of_isValidId hid hc
  rw [← Text.charBytes_of_lt fun c hc => toNat_lt_of_isValidId hid' hc,
    ← Text.charBytes_of_lt fun c hc => toNat_lt_of_isValidId hid hc,
    ← Text.utf8Bytes_eq_charBytes, ← Text.utf8Bytes_eq_charBytes] at hlt
  rw [← List.not_lt, ← String.not_lt, hlt]
  rfl

theorem Represents.mem_listing_iff (h : s.Represents base c d) {keep : Record kind → Bool}
    {r : Record kind} :
    r ∈ c.listing kind keep ↔ keep r = true ∧ (c kind)[r.id]? = some r := by
  rw [Cabinet.listing, List.mem_mergeSort, List.mem_filter, and_comm, List.mem_map]
  apply and_congr_right
  intro _
  constructor
  · rintro ⟨⟨id, r'⟩, hmem, rfl⟩
    have hr := Std.ExtTreeMap.mem_toList_iff_getElem?_eq_some.mp hmem
    rwa [(h.named hr).1]
  · exact fun hr => ⟨(r.id, r), Std.ExtTreeMap.mem_toList_iff_getElem?_eq_some.mpr hr, rfl⟩

theorem Represents.nodup_listing (h : s.Represents base c d) (keep : Record kind → Bool) :
    (c.listing kind keep).Nodup := by
  rw [Cabinet.listing, (List.mergeSort_perm _ _).nodup_iff]
  apply List.Nodup.filter
  rw [List.nodup_iff_pairwise_ne, List.pairwise_map]
  apply (c kind).distinct_keys_toList.imp_of_mem
  rintro ⟨id, r⟩ ⟨id', r'⟩ hmem hmem' hne heq
  apply hne
  rw [Std.LawfulEqCmp.compare_eq_iff_eq,
    ← (h.named (Std.ExtTreeMap.mem_toList_iff_getElem?_eq_some.mp hmem)).1,
    ← (h.named (Std.ExtTreeMap.mem_toList_iff_getElem?_eq_some.mp hmem')).1]
  exact congrArg Record.id heq

theorem pairwise_listing (c : Cabinet) (keep : Record kind → Bool) :
    (c.listing kind keep).Pairwise fun r r' => Text.utf8Bytes r.id ≤ Text.utf8Bytes r'.id := by
  have htrans (a b c : Record kind) : decide (Text.utf8Bytes a.id ≤ Text.utf8Bytes b.id) →
      decide (Text.utf8Bytes b.id ≤ Text.utf8Bytes c.id) →
      decide (Text.utf8Bytes a.id ≤ Text.utf8Bytes c.id) := by
    simpa using List.le_trans
  have htotal (a b : Record kind) : (decide (Text.utf8Bytes a.id ≤ Text.utf8Bytes b.id) ||
      decide (Text.utf8Bytes b.id ≤ Text.utf8Bytes a.id)) = true := by
    simpa using List.le_total _ _
  simpa [Cabinet.listing] using List.pairwise_mergeSort htrans htotal
    (((c kind).toList.map (·.2)).filter keep)

theorem Represents.named_of_shelf (h : s.Represents base c d) {r : Record kind}
    (hr : s.shelf d kind id = some r) : r.id = id ∧ isValidId r.id = true := by
  rw [h.shelf_eq] at hr
  obtain ⟨hid, hvalid, -⟩ := h.named hr
  rw [hid]
  exact ⟨rfl, hvalid⟩

/-- The names of the files are in order, and so are the bytes of the ids. -/
theorem Represents.pairwise_listRecords (h : s.Represents base c d) {keep : Record kind → Bool}
    {rs : List (Record kind)} (hrs : s.listRecords kind keep d = .ok rs) :
    rs.Pairwise fun r r' => Text.utf8Bytes r.id ≤ Text.utf8Bytes r'.id := by
  have hlist := Storage.listRecords_eq (listStems_eq h.ready kind) keep
  rw [hrs] at hlist
  rw [Except.ok.inj hlist]
  apply List.Pairwise.filter
  rw [List.pairwise_filterMap]
  apply (Disk.pairwise_mergeSort_le _).imp
  intro id id' hle r hr r' hr'
  obtain ⟨hid, hvalid⟩ := h.named_of_shelf hr
  obtain ⟨hid', hvalid'⟩ := h.named_of_shelf hr'
  rw [utf8Bytes_le_iff hvalid hvalid', hid, hid']
  exact hle

theorem Represents.perm_listing (h : s.Represents base c d) {keep : Record kind → Bool}
    {rs : List (Record kind)} (hrs : s.listRecords kind keep d = .ok rs) :
    rs.Perm (c.listing kind keep) := by
  obtain ⟨found, hfound, hmem, hnodup⟩ := exists_listRecords h.ready kind keep
  rw [hrs] at hfound
  cases hfound
  have hids := hnodup fun id r hr => (h.named_of_shelf hr).1
  apply (List.perm_ext_iff_of_nodup (hids.of_map _) (h.nodup_listing keep)).mpr
  intro r
  rw [hmem, h.mem_listing_iff]
  apply and_congr_right
  intro _
  constructor
  · rintro ⟨id, hr⟩
    rw [(h.named_of_shelf hr).1, ← h.shelf_eq]
    exact hr
  · exact fun hr => ⟨r.id, by rw [h.shelf_eq, hr]⟩

/-- A listing of the files gives the records of the map in the order of the bytes of their ids. -/
theorem Represents.listRecords_eq (h : s.Represents base c d) (kind : Kind)
    (keep : Record kind → Bool) : s.listRecords kind keep d = .ok (c.listing kind keep) := by
  obtain ⟨rs, hrs, -⟩ := exists_listRecords h.ready kind keep
  have hperm := h.perm_listing hrs
  rw [hrs]
  congr 1
  apply hperm.eq_of_pairwise _ (h.pairwise_listRecords hrs) (pairwise_listing c keep)
  -- two records of the map with the same id are the same
  intro a b ha hb hab hba
  have ha := (h.mem_listing_iff.mp (hperm.mem_iff.mp ha)).2
  have hb := (h.mem_listing_iff.mp hb).2
  have hid : a.id = b.id :=
    String.le_antisymm ((utf8Bytes_le_iff (h.named ha).2.1 (h.named hb).2.1).mp hab)
      ((utf8Bytes_le_iff (h.named hb).2.1 (h.named ha).2.1).mp hba)
  rw [hid, hb] at ha
  exact (Option.some.inj ha).symm

/-! ## Steps and runs -/

/-- A request is answered as on the maps, and then the files hold what the maps hold. -/
def ServesAs (s : Storage) (base : Place) (c : Cabinet) (d : Disk) (request : RecordRequest) :
    Prop :=
  ∃ d', s.serve request d = ((c.serve s.layout request).1, d') ∧
    s.Represents base (c.serve s.layout request).2 d'

/-- A question to the disk is answered without a change. -/
theorem Represents.serve_ask {α : Type} (h : s.Represents base c d)
    {f : Disk → Except StorageError α} {g : α → RecordAnswer}
    {answer : Except StorageError RecordAnswer} (hanswer : (f d).map g = answer) :
    ∃ d', (g <$> DiskAction.ask f) d = (answer, d') ∧ s.Represents base c d' :=
  ⟨d, by rw [run_map, ← hanswer]; rfl, h⟩

/-- What fails at the question where the file is leaves the disk as it was. -/
theorem Represents.serve_of_ask_error (h : s.Represents base c d)
    {f : Disk → Except StorageError Path} {next : Path → DiskAction Unit} {e : StorageError}
    (hask : f d = .error e) :
    ∃ d', ((fun _ => RecordAnswer.done) <$> (DiskAction.ask f >>= next)) d = (.error e, d') ∧
      s.Represents base c d' := by
  have hfails : DiskAction.ask f d = (.error e, d) := by rw [DiskAction.ask, hask]
  exact ⟨d, by rw [run_map, run_bind_of_error hfails]; rfl, h⟩

theorem Represents.exists_replace {r : Record kind} (h : s.Represents base c d)
    (hid : isValidId r.id = true) (haccepts : s.layout.Accepts kind r.id) :
    ∃ d', s.replace (s.layout.record kind r.id) r.toBytes d = (.ok (), d') ∧
      s.Represents base (c.put r) d' := by
  have hdirectory : d.get? (recordPlace base kind r.id) ≠ some .directory := by
    rw [h.file]
    cases (c kind)[r.id]? <;> simp
  obtain ⟨d', hput⟩ :=
    Disk.exists_put? (h.ready.stands.kindDirectory kind) hdirectory (.file r.toBytes)
  have hreplace := (Layout.replaceFile_record_eq_ok_iff h.ready.stands hid r.toBytes).mpr
    ⟨haccepts.1, haccepts.2, hput⟩
  refine ⟨d', ?_, h.put hid haccepts (putsRecord_of_put? hput)⟩
  rw [replace_record h.ready kind hid, hreplace]

theorem Represents.serves_create (h : s.Represents base c d) (r : Record kind) :
    s.ServesAs base c d (.create kind r) := by
  have hpath := h.absentPath_eq kind r.id
  rw [ServesAs, Cabinet.serve]
  by_cases hid : isValidId r.id = false
  · rw [if_pos hid] at hpath ⊢
    exact h.serve_of_ask_error hpath
  rw [if_neg hid] at hpath ⊢
  by_cases hmem : r.id ∈ c kind
  · rw [if_pos hmem] at hpath ⊢
    exact h.serve_of_ask_error hpath
  rw [if_neg hmem] at hpath ⊢
  have hask : DiskAction.ask (s.absentPath kind r.id) d =
      (.ok (s.layout.record kind r.id), d) := by
    rw [DiskAction.ask, hpath]
  rw [serve, run_map, createRecord, run_bind_of_ok hask]
  by_cases haccepts : s.layout.Accepts kind r.id
  · obtain ⟨d', hreplace, hd'⟩ := h.exists_replace (eq_true_of_ne_false hid) haccepts
    rw [if_pos haccepts, hreplace]
    exact ⟨d', rfl, hd'⟩
  · rw [if_neg haccepts, replace_record_of_not_accepts h.ready (eq_true_of_ne_false hid) haccepts]
    exact ⟨d, rfl, h⟩

theorem Represents.serves_get (h : s.Represents base c d) (kind : Kind) (id : String) :
    s.ServesAs base c d (.get kind id) := by
  have hget := h.getRecord_eq kind id
  rw [ServesAs, Cabinet.serve]
  by_cases hid : isValidId id = false
  · rw [if_pos hid] at hget ⊢
    exact h.serve_ask (by rw [hget]; rfl)
  rw [if_neg hid] at hget ⊢
  cases hr : (c kind)[id]? with
  | some r =>
    rw [hr] at hget
    exact h.serve_ask (by rw [hget]; rfl)
  | none =>
    rw [hr] at hget
    exact h.serve_ask (by rw [hget]; rfl)

theorem Represents.serves_update (h : s.Represents base c d) (r : Record kind) :
    s.ServesAs base c d (.update kind r) := by
  have hpath := h.presentPath_eq kind r.id
  rw [ServesAs, Cabinet.serve]
  by_cases hid : isValidId r.id = false
  · rw [if_pos hid] at hpath ⊢
    exact h.serve_of_ask_error hpath
  rw [if_neg hid] at hpath ⊢
  by_cases hmem : r.id ∈ c kind
  · rw [if_pos hmem] at hpath ⊢
    have hask : DiskAction.ask (s.presentPath kind r.id) d =
        (.ok (s.layout.record kind r.id), d) := by
      rw [DiskAction.ask, hpath]
    obtain ⟨old, hold⟩ := Option.isSome_iff_exists.mp
      (Std.ExtTreeMap.isSome_getElem?_iff_mem.mpr hmem)
    obtain ⟨d', hreplace, hd'⟩ :=
      h.exists_replace (eq_true_of_ne_false hid) (h.named hold).2.2
    rw [serve, run_map, updateRecord, run_bind_of_ok hask, hreplace]
    exact ⟨d', rfl, hd'⟩
  · rw [if_neg hmem] at hpath ⊢
    exact h.serve_of_ask_error hpath

theorem Represents.serves_delete (h : s.Represents base c d) (kind : Kind) (id : String) :
    s.ServesAs base c d (.delete kind id) := by
  have hpath := h.presentPath_eq kind id
  rw [ServesAs, Cabinet.serve]
  by_cases hid : isValidId id = false
  · rw [if_pos hid] at hpath ⊢
    exact h.serve_of_ask_error hpath
  rw [if_neg hid] at hpath ⊢
  by_cases hmem : id ∈ c kind
  · rw [if_pos hmem]
    obtain ⟨r, hr⟩ := Option.isSome_iff_exists.mp
      (Std.ExtTreeMap.isSome_getElem?_iff_mem.mpr hmem)
    rw [← h.shelf_eq] at hr
    obtain ⟨d', hdelete, hremoves⟩ := exists_deleteRecord_of_shelf h.ready hr
    rw [serve, run_map, hdelete]
    exact ⟨d', rfl, h.remove hremoves⟩
  · rw [if_neg hmem] at hpath ⊢
    exact h.serve_of_ask_error hpath

/-- Files that hold what the maps hold serve as the maps. -/
theorem Represents.servesAs (h : s.Represents base c d) (request : RecordRequest) :
    s.ServesAs base c d request := by
  cases request with
  | create kind r => exact h.serves_create r
  | get kind id => exact h.serves_get kind id
  | update kind r => exact h.serves_update r
  | delete kind id => exact h.serves_delete kind id
  | has kind id => exact h.serve_ask (by rw [h.hasRecord_eq]; rfl)
  | listAll kind => exact h.serve_ask (by rw [listAll, h.listRecords_eq]; rfl)
  | listByOwner kind owner => exact h.serve_ask (by rw [listByOwner, h.listRecords_eq]; rfl)
  | listByDocument kind document =>
    exact h.serve_ask (by rw [listByDocument, h.listRecords_eq]; rfl)

/-- So are all requests of a run. -/
theorem Represents.serveAll_eq (h : s.Represents base c d) (requests : List RecordRequest) :
    s.serveAll requests d = c.serveAll s.layout requests := by
  induction requests generalizing c d with
  | nil => rfl
  | cons request rest ih =>
    obtain ⟨d', hserve, hd'⟩ := h.servesAs request
    rw [serveAll, Cabinet.serveAll, hserve, ih hd']

theorem represents_empty (h : s.ReadyAt base d)
    (hempty : ∀ kind name place, d.locate (s.layout.kindDirectory kind) = .ok place →
      d.get? (place ++ [name]) = none) :
    s.Represents base .empty d := by
  have hnone (kind : Kind) (name : String) :
      d.get? (base ++ [kind.directory] ++ [name]) = none :=
    hempty kind name _ (Layout.find_kindDirectory h.stands kind).1
  refine ⟨h, ?_, ?_, fun hget => absurd (hnone _ _) hget⟩
  · intro kind id r hr
    simp [Cabinet.empty] at hr
  · intro kind id
    rw [recordPlace, hnone]
    simp [Cabinet.empty]

/-- Records in storage are maps from ids to records. From storage that was just prepared and in
which nothing is in the directories of the kinds, all requests are answered as on empty maps,
whatever is asked in which order. Only a record for which the file system has no file, because its
path is too long, is not created; that changes nothing. -/
theorem records_serve_as_maps (l : Layout) (before d : Disk) (s : Storage)
    (requests : List RecordRequest) (hprepare : (fresh l).prepare before = (.ok s, d))
    (hempty : ∀ kind name place, d.locate (l.kindDirectory kind) = .ok place →
      d.get? (place ++ [name]) = none) :
    s.serveAll requests d = Cabinet.empty.serveAll l requests := by
  obtain ⟨rfl, -, base, hready⟩ := readyAt_of_prepare hprepare
  exact (represents_empty hready hempty).serveAll_eq requests

/-- Claims of a user with the given id. -/
def sampleRecord (id text : String) : Record .claims :=
  ⟨id, "alice", .plain text, Session.sampleInstant, ⟨Session.sampleInstant⟩⟩

theorem get?_below_kinds_of_sampleDisk {kind : Kind} {name : String} {place : Place}
    (h : Session.sampleDisk.locate (Layout.kindDirectory ⟨⟨"/data"⟩⟩ kind) = .ok place) :
    Session.sampleDisk.get? (place ++ [name]) = none := by
  have hshallow : ∀ entry ∈ Session.sampleDisk.toList, entry.1.length ≤ 2 := by
    decide +kernel
  have hplace : (Layout.kindDirectory ⟨⟨"/data"⟩⟩ kind).place = ["data", kind.directory] := by
    cases kind <;> decide
  rw [Disk.eq_place_of_locate h, hplace]
  by_contra hsome
  obtain ⟨e, he⟩ := Option.ne_none_iff_exists'.mp hsome
  exact absurd (hshallow _ (Disk.mem_toList.mpr ⟨by simp, he⟩)) (by simp)

theorem represents_sampleDisk :
    ∃ base, Represents ⟨⟨⟨"/data"⟩⟩, true⟩ base .empty Session.sampleDisk := by
  obtain ⟨-, -, base, hready⟩ := readyAt_of_prepare Session.prepare_sampleDisk
  exact ⟨base, represents_empty hready fun _ _ _ h => get?_below_kinds_of_sampleDisk h⟩

/-- In a new data directory, a record whose id ends in a dot and an extension is listed once it was
created, and gone once it was deleted. -/
theorem sample_records_serve_as_maps :
    serveAll ⟨⟨⟨"/data"⟩⟩, true⟩
        [.create .claims (sampleRecord "a.json" "one"),
          .create .claims (sampleRecord "a.json" "two"), .listByOwner .claims "alice",
          .delete .claims "a.json", .get .claims "a.json"] Session.sampleDisk =
      [.ok .done, .error (.alreadyExists "claims a.json"),
        .ok (.listed [sampleRecord "a.json" "one"]), .ok .done,
        .error (.notFound "claims a.json")] := by
  rw [records_serve_as_maps ⟨⟨"/data"⟩⟩ .empty Session.sampleDisk _ _ Session.prepare_sampleDisk
    fun _ _ _ h => get?_below_kinds_of_sampleDisk h]
  decide +kernel

/-- A record whose id is valid but, with the extension, longer than a file name can be. -/
def longRecord : Record .claims := sampleRecord (String.ofList (List.replicate 251 'a')) "one"

theorem isValidId_longRecord : isValidId longRecord.id = true := by
  rw [longRecord, sampleRecord, isValidId, String.toList_ofList]
  decide +kernel

theorem not_accepts_longRecord (l : Layout) : ¬l.Accepts .claims longRecord.id := by
  have hsize : longRecord.id.utf8ByteSize = 251 := by
    rw [Text.utf8ByteSize_of_lt fun c hc => toNat_lt_of_isValidId isValidId_longRecord hc,
      longRecord, sampleRecord, String.toList_ofList, List.length_replicate]
  have hextension : ".json".utf8ByteSize = 5 := rfl
  rintro ⟨-, -, hshort⟩
  rw [String.utf8ByteSize_append, hsize, hextension] at hshort
  exact hshort (by decide)

/-- It is not there and has a valid id, and is refused all the same. -/
theorem long_record_refused :
    isValidId longRecord.id = true ∧
      hasRecord ⟨⟨⟨"/data"⟩⟩, true⟩ .claims longRecord.id Session.sampleDisk = false ∧
      (serve ⟨⟨⟨"/data"⟩⟩, true⟩ (.create .claims longRecord) Session.sampleDisk).1 =
        .error (.io Fault.tooLong.message) := by
  have hid := isValidId_longRecord
  have hmem : longRecord.id ∉ Cabinet.empty .claims := by simp [Cabinet.empty]
  obtain ⟨base, hempty⟩ := represents_sampleDisk
  obtain ⟨d', hserve, -⟩ := hempty.servesAs (.create .claims longRecord)
  refine ⟨hid, ?_, ?_⟩
  · rw [hempty.hasRecord_eq, hid]
    simpa using hmem
  · rw [hserve, Cabinet.serve, hid, if_neg (by decide), if_neg hmem,
      if_neg (not_accepts_longRecord _)]

end Storage

end SealedVault
