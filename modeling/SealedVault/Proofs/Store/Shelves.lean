import SealedVault.Proofs.Record.RoundTrip
import SealedVault.Proofs.Results
import SealedVault.Proofs.Store.DataDirectory
import SealedVault.Store.Records

/-!
# Records on their shelves

The records that can be found in a data directory, by kind and id. Storing a record puts it on its
shelf, deleting takes it away, and a listing tells what is there. No step on one record touches the
file of another.
-/

namespace SealedVault

open Disk (KeepsDirectories)
open Layout (StandsAt recordPlace recordPlace_injective)

namespace Storage

variable {s : Storage} {base : Place} {d d' : Disk} {kind : Kind} {id : String}

/-- The storage has been prepared, and its data directory is at the place `base`. -/
structure ReadyAt (s : Storage) (base : Place) (d : Disk) : Prop where
  initialized : s.initialized = true
  stands : s.layout.StandsAt base d

theorem ReadyAt.of_keepsDirectories
    (h : s.ReadyAt base d) (hkeeps : KeepsDirectories d d') : s.ReadyAt base d' :=
  ⟨h.initialized, h.stands.of_keepsDirectories hkeeps⟩

theorem checkReady_eq (h : s.ReadyAt base d) : s.checkReady = .ok () := by
  rw [checkReady, if_pos h.initialized]

/-! ## Paths of records -/

theorem eq_record_of_recordPath {p : Path} (h : s.recordPath kind id = .ok p) :
    isValidId id = true ∧ p = s.layout.record kind id := by
  rw [recordPath] at h
  split at h
  next hid =>
    cases h
    exact ⟨hid, rfl⟩
  · cases h

theorem eq_record_of_presentPath {p : Path} (h : s.presentPath kind id d = .ok p) :
    isValidId id = true ∧ p = s.layout.record kind id := by
  rw [presentPath, bind_eq_ok_iff] at h
  obtain ⟨q, hq, hp⟩ := h
  split at hp
  · cases hp
    exact eq_record_of_recordPath hq
  · cases hp

theorem eq_record_of_absentPath {p : Path} (h : s.absentPath kind id d = .ok p) :
    isValidId id = true ∧ p = s.layout.record kind id := by
  rw [absentPath, bind_eq_ok_iff] at h
  obtain ⟨q, hq, hp⟩ := h
  split at hp
  · cases hp
  · cases hp
    exact eq_record_of_recordPath hq

theorem presentPath_of_invalid (h : isValidId id = false) :
    s.presentPath kind id d = .error (.invalidId id) := by
  rw [presentPath, recordPath, h]
  rfl

theorem absentPath_of_invalid (h : isValidId id = false) :
    s.absentPath kind id d = .error (.invalidId id) := by
  rw [absentPath, recordPath, h]
  rfl

/-! ## Finding a record -/

/-- The record that is found under an id. -/
def shelf (s : Storage) (d : Disk) (kind : Kind) (id : String) : Option (Record kind) :=
  (s.getRecord kind id d).toOption

theorem getRecord_of_invalid (h : isValidId id = false) :
    s.getRecord kind id d = .error (.invalidId id) := by
  rw [getRecord, presentPath_of_invalid h, error_bind]

theorem hasRecord_of_invalid (h : isValidId id = false) : s.hasRecord kind id d = false := by
  rw [hasRecord, h, Bool.false_and]

theorem getRecord_of_file
    (h : s.ReadyAt base d) (hid : isValidId id = true) (hfits : s.layout.Fits kind id)
    {bytes : List UInt8} (hfile : d.get? (recordPlace base kind id) = some (.file bytes)) :
    s.getRecord kind id d =
      match Record.ofBytes? kind bytes with
      | some r => .ok r
      | none => .error .json := by
  have hpresent : d.isFile (s.layout.record kind id) = true :=
    (Layout.isFile_record_iff h.stands hid).mpr ⟨hfits, bytes, hfile⟩
  simp only [getRecord, presentPath, recordPath, hid, if_true, ok_bind, hpresent, readWith,
    checkReady_eq h, Layout.readFile_record h.stands hid hfits hfile, pure, Except.pure]
  cases Record.ofBytes? kind bytes with
  | some r => rfl
  | none => rfl

theorem getRecord_of_no_file
    (h : s.ReadyAt base d) (hid : isValidId id = true)
    (hnone : ¬(s.layout.Fits kind id ∧
      ∃ bytes, d.get? (recordPlace base kind id) = some (.file bytes))) :
    s.getRecord kind id d = .error (.notFound (Record.labelOf kind id)) := by
  have hmissing : d.isFile (s.layout.record kind id) = false := by
    rw [← Bool.not_eq_true, Layout.isFile_record_iff h.stands hid]
    exact hnone
  simp only [getRecord, presentPath, recordPath, hid, if_true, ok_bind, hmissing,
    Bool.false_eq_true, if_false]
  rfl

theorem shelf_eq_some_iff_getRecord {r : Record kind} :
    s.shelf d kind id = some r ↔ s.getRecord kind id d = .ok r := by
  rw [shelf]
  cases s.getRecord kind id d with
  | ok r' => simp [Except.toOption]
  | error e => simp [Except.toOption]

/-- A record is found under an id if and only if the id is valid and its file holds the record. -/
theorem shelf_eq_some_iff (h : s.ReadyAt base d) {r : Record kind} :
    s.shelf d kind id = some r ↔
      isValidId id = true ∧ s.layout.Fits kind id ∧
        ∃ bytes, d.get? (recordPlace base kind id) = some (.file bytes) ∧
          Record.ofBytes? kind bytes = some r := by
  rw [shelf_eq_some_iff_getRecord]
  by_cases hid : isValidId id = true
  · by_cases hfile : s.layout.Fits kind id ∧
        ∃ bytes, d.get? (recordPlace base kind id) = some (.file bytes)
    · obtain ⟨hfits, bytes, hbytes⟩ := hfile
      rw [getRecord_of_file h hid hfits hbytes]
      simp only [hid, hfits, hbytes, true_and, Option.some.injEq, Entry.file.injEq,
        exists_eq_left']
      cases Record.ofBytes? kind bytes with
      | some r' => simp
      | none => simp
    · rw [getRecord_of_no_file h hid hfile]
      constructor
      · intro heq
        cases heq
      · rintro ⟨-, hfits, bytes, hbytes, -⟩
        exact absurd ⟨hfits, bytes, hbytes⟩ hfile
  · rw [getRecord_of_invalid (eq_false_of_ne_true hid)]
    simp [hid]

/-- Looking for a record depends on nothing but its own file. -/
theorem getRecord_congr
    (h : s.ReadyAt base d) (h' : s.ReadyAt base d')
    (hget : d'.get? (recordPlace base kind id) = d.get? (recordPlace base kind id)) :
    s.getRecord kind id d' = s.getRecord kind id d := by
  by_cases hid : isValidId id = true
  · by_cases hfile : s.layout.Fits kind id ∧
        ∃ bytes, d.get? (recordPlace base kind id) = some (.file bytes)
    · obtain ⟨hfits, bytes, hbytes⟩ := hfile
      rw [getRecord_of_file h hid hfits hbytes,
        getRecord_of_file h' hid hfits (hget.trans hbytes)]
    · rw [getRecord_of_no_file h hid hfile, getRecord_of_no_file h' hid (by rwa [hget])]
  · have hinvalid := eq_false_of_ne_true hid
    rw [getRecord_of_invalid hinvalid, getRecord_of_invalid hinvalid]

theorem shelf_congr
    (h : s.ReadyAt base d) (h' : s.ReadyAt base d')
    (hget : d'.get? (recordPlace base kind id) = d.get? (recordPlace base kind id)) :
    s.shelf d' kind id = s.shelf d kind id := by
  rw [shelf, shelf, getRecord_congr h h' hget]

/-! ## Changes of one record -/

/-- The disk after the file of a record was replaced; nothing else has changed. -/
structure PutsRecord (base : Place) (r : Record kind) (d d' : Disk) : Prop where
  get?_eq (q : Place) : d'.get? q =
    if q = recordPlace base kind r.id then some (.file r.toBytes) else d.get? q
  ne_directory : d.get? (recordPlace base kind r.id) ≠ some .directory

/-- The disk after the file of a record was taken away; nothing else has changed. -/
structure RemovesRecord (base : Place) (kind : Kind) (id : String) (d d' : Disk) : Prop where
  get?_eq (q : Place) : d'.get? q = if q = recordPlace base kind id then none else d.get? q
  ne_directory : d.get? (recordPlace base kind id) ≠ some .directory

theorem putsRecord_of_put? {r : Record kind}
    (h : d.put? (base ++ [kind.directory]) (r.id ++ ".json") (.file r.toBytes) = some d') :
    PutsRecord base r d d' :=
  ⟨Disk.get?_of_put? h, Disk.ne_directory_of_put? h⟩

theorem removesRecord_of_removeFile?
    (h : d.removeFile? (recordPlace base kind id) = some d') : RemovesRecord base kind id d d' := by
  refine ⟨Disk.get?_of_removeFile? h, ?_⟩
  obtain ⟨bytes, hfile⟩ := Disk.exists_file_of_removeFile? h
  rw [hfile]
  simp

theorem PutsRecord.keepsDirectories {r : Record kind} (h : PutsRecord base r d d') :
    KeepsDirectories d d' := by
  intro q hq
  have hne : q ≠ recordPlace base kind r.id := by
    rintro rfl
    exact h.ne_directory hq
  rw [h.get?_eq, if_neg hne]
  exact hq

theorem RemovesRecord.keepsDirectories (h : RemovesRecord base kind id d d') :
    KeepsDirectories d d' := by
  intro q hq
  have hne : q ≠ recordPlace base kind id := by
    rintro rfl
    exact h.ne_directory hq
  rw [h.get?_eq, if_neg hne]
  exact hq

theorem PutsRecord.shelf_self {r : Record kind}
    (hready : s.ReadyAt base d) (hid : isValidId r.id = true) (hfits : s.layout.Fits kind r.id)
    (h : PutsRecord base r d d') : s.shelf d' kind r.id = some r := by
  rw [shelf_eq_some_iff (hready.of_keepsDirectories h.keepsDirectories)]
  refine ⟨hid, hfits, r.toBytes, ?_, r.ofBytes?_toBytes⟩
  rw [h.get?_eq, if_pos rfl]

theorem PutsRecord.shelf_of_ne {r : Record kind}
    (hready : s.ReadyAt base d) (h : PutsRecord base r d d')
    {kind' : Kind} {id' : String} (hne : ¬(kind' = kind ∧ id' = r.id)) :
    s.shelf d' kind' id' = s.shelf d kind' id' := by
  apply shelf_congr hready (hready.of_keepsDirectories h.keepsDirectories)
  rw [h.get?_eq, if_neg fun heq => hne (recordPlace_injective heq)]

theorem RemovesRecord.shelf_self
    (hready : s.ReadyAt base d) (h : RemovesRecord base kind id d d') :
    s.shelf d' kind id = none := by
  rw [Option.eq_none_iff_forall_ne_some]
  intro r hr
  rw [shelf_eq_some_iff (hready.of_keepsDirectories h.keepsDirectories)] at hr
  obtain ⟨-, -, bytes, hbytes, -⟩ := hr
  rw [h.get?_eq, if_pos rfl] at hbytes
  cases hbytes

theorem RemovesRecord.shelf_of_ne
    (hready : s.ReadyAt base d) (h : RemovesRecord base kind id d d')
    {kind' : Kind} {id' : String} (hne : ¬(kind' = kind ∧ id' = id)) :
    s.shelf d' kind' id' = s.shelf d kind' id' := by
  apply shelf_congr hready (hready.of_keepsDirectories h.keepsDirectories)
  rw [h.get?_eq, if_neg fun heq => hne (recordPlace_injective heq)]

/-- After a record was taken away, every record that is found was found before. -/
theorem RemovesRecord.shelf_of_shelf
    (hready : s.ReadyAt base d) (h : RemovesRecord base kind id d d')
    {kind' : Kind} {id' : String} {r : Record kind'} (hr : s.shelf d' kind' id' = some r) :
    s.shelf d kind' id' = some r := by
  by_cases hsame : kind' = kind ∧ id' = id
  · obtain ⟨rfl, rfl⟩ := hsame
    rw [h.shelf_self hready] at hr
    cases hr
  · rwa [h.shelf_of_ne hready hsame] at hr

/-! ## Writing and deleting -/

theorem replace_record (h : s.ReadyAt base d) (kind : Kind) (hid : isValidId id = true)
    (bytes : List UInt8) :
    s.replace (s.layout.record kind id) bytes d =
      match d.replaceFile (s.layout.record kind id) bytes with
      | .ok d' => (.ok (), d')
      | .error fault => (.error (.ofFault fault), d) := by
  have hready : DiskAction.ask (fun _ => s.checkReady) d = (.ok (), d) := by
    rw [DiskAction.ask, checkReady_eq h]
  have hmake : DiskAction.make (Disk.makeParent (s.layout.record kind id)) d = (.ok (), d) := by
    rw [DiskAction.make, Layout.makeParent_record h.stands hid]
    rfl
  rw [replace, run_bind_of_ok hready, run_bind_of_ok hmake]
  cases hreplace : d.replaceFile (s.layout.record kind id) bytes with
  | ok d' => simp only [DiskAction.change, hreplace]
  | error fault => simp only [DiskAction.change, hreplace]

/-- Replacing the file of a record fails and changes nothing, or it puts the record there. -/
theorem replace_record_cases
    (h : s.ReadyAt base d) (r : Record kind) (hid : isValidId r.id = true) :
    (∃ e, s.replace (s.layout.record kind r.id) r.toBytes d = (.error e, d)) ∨
      ∃ d', s.replace (s.layout.record kind r.id) r.toBytes d = (.ok (), d') ∧
        s.layout.Writable kind ∧ s.layout.Fits kind r.id ∧ PutsRecord base r d d' := by
  rw [replace_record h kind hid]
  cases hreplace : d.replaceFile (s.layout.record kind r.id) r.toBytes with
  | error fault => exact Or.inl ⟨_, rfl⟩
  | ok d' =>
    obtain ⟨hwritable, hfits, hput⟩ :=
      (Layout.replaceFile_record_eq_ok_iff h.stands hid r.toBytes).mp hreplace
    exact Or.inr ⟨d', rfl, hwritable, hfits, putsRecord_of_put? hput⟩

theorem ask_presentPath_of_invalid (h : isValidId id = false) :
    DiskAction.ask (s.presentPath kind id) d = (.error (.invalidId id), d) := by
  rw [DiskAction.ask, presentPath_of_invalid h]

/-- No record is stored, replaced or deleted under an id that is not valid. -/
theorem createRecord_of_invalid {r : Record kind} (h : isValidId r.id = false) :
    s.createRecord r d = (.error (.invalidId r.id), d) :=
  run_bind_of_error (by rw [DiskAction.ask, absentPath_of_invalid h])

theorem updateRecord_of_invalid {r : Record kind} (h : isValidId r.id = false) :
    s.updateRecord r d = (.error (.invalidId r.id), d) :=
  run_bind_of_error (ask_presentPath_of_invalid h)

theorem deleteRecord_of_invalid (h : isValidId id = false) :
    s.deleteRecord kind id d = (.error (.invalidId id), d) :=
  run_bind_of_error (ask_presentPath_of_invalid h)

theorem createRecord_cases (h : s.ReadyAt base d) (r : Record kind) :
    (∃ e, s.createRecord r d = (.error e, d)) ∨
      ∃ d', s.createRecord r d = (.ok (), d') ∧ isValidId r.id = true ∧
        s.layout.Writable kind ∧ s.layout.Fits kind r.id ∧
        d.get? (recordPlace base kind r.id) = none ∧ PutsRecord base r d d' := by
  by_cases hid : isValidId r.id = true
  · by_cases hfile : d.isFile (s.layout.record kind r.id) = true
    · left
      refine ⟨_, run_bind_of_error (e := .alreadyExists (Record.labelOf kind r.id)) ?_⟩
      simp only [DiskAction.ask, absentPath, recordPath, hid, if_true, ok_bind, hfile]
      rfl
    · have hpath : DiskAction.ask (s.absentPath kind r.id) d =
          (.ok (s.layout.record kind r.id), d) := by
        simp only [DiskAction.ask, absentPath, recordPath, hid, if_true, ok_bind, if_neg hfile]
        rfl
      rw [createRecord, run_bind_of_ok hpath]
      rcases replace_record_cases h r hid with ⟨e, he⟩ | ⟨d', hd', hwritable, hfits, hputs⟩
      · exact Or.inl ⟨e, he⟩
      · refine Or.inr ⟨d', hd', hid, hwritable, hfits, ?_, hputs⟩
        rw [Layout.isFile_record_iff h.stands hid] at hfile
        cases hget : d.get? (recordPlace base kind r.id) with
        | none => rfl
        | some e =>
          cases e with
          | file bytes => exact absurd ⟨hfits, bytes, hget⟩ hfile
          | directory => exact absurd hget hputs.ne_directory
  · exact Or.inl ⟨_, createRecord_of_invalid (eq_false_of_ne_true hid)⟩

theorem ask_presentPath_of_file
    (h : s.ReadyAt base d) (hid : isValidId id = true) (hfits : s.layout.Fits kind id)
    {bytes : List UInt8} (hfile : d.get? (recordPlace base kind id) = some (.file bytes)) :
    DiskAction.ask (s.presentPath kind id) d = (.ok (s.layout.record kind id), d) := by
  have hpresent : d.isFile (s.layout.record kind id) = true :=
    (Layout.isFile_record_iff h.stands hid).mpr ⟨hfits, bytes, hfile⟩
  simp only [DiskAction.ask, presentPath, recordPath, hid, if_true, ok_bind, hpresent]
  rfl

/-- The path of a record that is there is found, or nothing is done. -/
theorem ask_presentPath_cases (h : s.ReadyAt base d) (kind : Kind) (id : String) :
    (∃ e, DiskAction.ask (s.presentPath kind id) d = (.error e, d)) ∨
      (isValidId id = true ∧ s.layout.Fits kind id ∧
        ∃ bytes, d.get? (recordPlace base kind id) = some (.file bytes)) := by
  by_cases hid : isValidId id = true
  · by_cases hfile : s.layout.Fits kind id ∧
        ∃ bytes, d.get? (recordPlace base kind id) = some (.file bytes)
    · exact Or.inr ⟨hid, hfile⟩
    · left
      have hmissing : d.isFile (s.layout.record kind id) = false := by
        rw [← Bool.not_eq_true, Layout.isFile_record_iff h.stands hid]
        exact hfile
      refine ⟨.notFound (Record.labelOf kind id), ?_⟩
      simp only [DiskAction.ask, presentPath, recordPath, hid, if_true, ok_bind, hmissing]
      rfl
  · exact Or.inl ⟨_, ask_presentPath_of_invalid (eq_false_of_ne_true hid)⟩

theorem updateRecord_cases (h : s.ReadyAt base d) (r : Record kind) :
    (∃ e, s.updateRecord r d = (.error e, d)) ∨
      ∃ d', s.updateRecord r d = (.ok (), d') ∧ isValidId r.id = true ∧
        s.layout.Writable kind ∧ s.layout.Fits kind r.id ∧ PutsRecord base r d d' := by
  rcases ask_presentPath_cases h kind r.id with ⟨e, he⟩ | ⟨hid, hfits, bytes, hfile⟩
  · exact Or.inl ⟨e, run_bind_of_error he⟩
  · rw [updateRecord, run_bind_of_ok (ask_presentPath_of_file h hid hfits hfile)]
    rcases replace_record_cases h r hid with ⟨e, he⟩ | ⟨d', hd', hwritable, hfits', hputs⟩
    · exact Or.inl ⟨e, he⟩
    · exact Or.inr ⟨d', hd', hid, hwritable, hfits', hputs⟩

/-- A record that is there can be replaced. -/
theorem exists_updateRecord
    (h : s.ReadyAt base d) (hwritable : s.layout.Writable kind)
    {r old : Record kind} (hold : s.shelf d kind r.id = some old) :
    ∃ d', s.updateRecord r d = (.ok (), d') ∧ PutsRecord base r d d' := by
  obtain ⟨hid, hfits, bytes, hfile, -⟩ := (shelf_eq_some_iff h).mp hold
  have hdirectory : d.get? (recordPlace base kind r.id) ≠ some .directory := by
    rw [hfile]
    simp
  obtain ⟨d', hput⟩ := Disk.exists_put? (h.stands.kindDirectory kind) hdirectory (.file r.toBytes)
  have hreplace := (Layout.replaceFile_record_eq_ok_iff h.stands hid r.toBytes).mpr
    ⟨hwritable, hfits, hput⟩
  refine ⟨d', ?_, putsRecord_of_put? hput⟩
  rw [updateRecord, run_bind_of_ok (ask_presentPath_of_file h hid hfits hfile),
    replace_record h kind hid, hreplace]

theorem delete_record (h : s.ReadyAt base d) (kind : Kind) (id : String) :
    s.delete (s.layout.record kind id) d =
      match d.removeFile (s.layout.record kind id) with
      | .ok d' => (.ok (), d')
      | .error fault => (.error (.ofFault fault), d) := by
  have hready : DiskAction.ask (fun _ => s.checkReady) d = (.ok (), d) := by
    rw [DiskAction.ask, checkReady_eq h]
  rw [delete, run_bind_of_ok hready]
  cases hremove : d.removeFile (s.layout.record kind id) with
  | ok d' => simp only [DiskAction.change, hremove]
  | error fault => simp only [DiskAction.change, hremove]

/-- A record that has a file can be deleted. -/
theorem exists_deleteRecord
    (h : s.ReadyAt base d) (hid : isValidId id = true) (hfits : s.layout.Fits kind id)
    {bytes : List UInt8} (hfile : d.get? (recordPlace base kind id) = some (.file bytes)) :
    ∃ d', s.deleteRecord kind id d = (.ok (), d') ∧ RemovesRecord base kind id d d' := by
  obtain ⟨d', hremove⟩ := Disk.exists_removeFile? hfile
  have hfound := (Layout.removeFile_record_eq_ok_iff h.stands hid).mpr ⟨hfits, hremove⟩
  refine ⟨d', ?_, removesRecord_of_removeFile? hremove⟩
  rw [deleteRecord, run_bind_of_ok (ask_presentPath_of_file h hid hfits hfile),
    delete_record h kind id, hfound]

theorem exists_deleteRecord_of_shelf
    (h : s.ReadyAt base d) {r : Record kind} (hr : s.shelf d kind id = some r) :
    ∃ d', s.deleteRecord kind id d = (.ok (), d') ∧ RemovesRecord base kind id d d' := by
  obtain ⟨hid, hfits, bytes, hfile, -⟩ := (shelf_eq_some_iff h).mp hr
  exact exists_deleteRecord h hid hfits hfile

end Storage

end SealedVault
