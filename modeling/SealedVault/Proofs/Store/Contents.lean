import SealedVault.Proofs.Store.Footprints
import SealedVault.Proofs.Store.Listing

/-!
# Listings of any data directory

Whatever the disk holds, a listing of a kind fails only where a file stands in the place of the
directory of the kind. Otherwise it holds the records of the kind that can be found, in ascending
order of the names of their files. A record that can be found can be deleted.
-/

namespace SealedVault

open Disk (KeepsDirectories checkPath)
open Layout (recordPlace)
open SealedVault.Path (IsName)

theorem checkPath_eq_ok_iff {p : Path} :
    checkPath p = .ok () ↔ '\x00' ∉ p.text.toList ∧ p.text.utf8ByteSize < Path.sizeBound := by
  rw [checkPath, Path.isUnusable, Path.isTooLong]
  by_cases hzero : '\x00' ∈ p.text.toList
  · simp [hzero]
  · by_cases hlong : Path.sizeBound ≤ p.text.utf8ByteSize
    · simp [hzero, hlong]
    · simp [hzero, hlong, Nat.lt_of_not_le hlong]

/-- Where a joined path can be followed, so can the path that it was joined to. -/
theorem checkPath_of_join {p : Path} {part : String} (hpart : IsName part)
    (h : checkPath (p.join part) = .ok ()) : checkPath p = .ok () := by
  obtain ⟨more, hmore⟩ : ∃ more, (p.join part).text = p.text ++ more := by
    rw [Path.text_join hpart]
    split
    · exact ⟨part, rfl⟩
    · exact ⟨"/" ++ part, String.append_assoc⟩
  rw [checkPath_eq_ok_iff, hmore, String.toList_append, String.utf8ByteSize_append,
    List.mem_append, not_or] at h
  exact checkPath_eq_ok_iff.mpr ⟨h.1.1, by omega⟩

variable {l : Layout} {s : Storage} {d d' : Disk} {kind : Kind} {id : String} {ids : List String}

/-- Where a record has a file, the directory of its kind is found. -/
theorem Layout.find_kindDirectory_of_isFile (hid : isValidId id = true)
    (h : d.isFile (l.record kind id) = true) :
    d.find (l.kindDirectory kind) = .ok .directory := by
  obtain ⟨bytes, hread⟩ := Disk.isFile_eq_true_iff.mp h
  have hcheck := (Disk.locate_eq_ok_iff.mp (Disk.readFile_eq_ok_iff.mp hread).1).1
  exact Disk.find_eq_directory_iff.mpr
    ⟨checkPath_of_join (isName_recordFile hid) hcheck, descend_of_isFile hid h⟩

/-! ## Names of files -/

theorem nodup_of_ascending (h : ids.Pairwise (· < ·)) : ids.Nodup := by
  rw [List.nodup_iff_pairwise_ne]
  apply h.imp
  rintro a _ hlt rfl
  exact String.lt_irrefl a hlt

namespace Disk

/-- Where a directory is found, the stems of its files are sorted. -/
theorem stems_of_find {p : Path} (h : d.find p = .ok .directory) (suffix : String) :
    d.stems p suffix =
      .ok ((d.unsortedStems p.place p suffix).mergeSort fun a b => a ≤ b) := by
  rw [stems, h]
  cases hlocate : d.locate p with
  | error fault =>
    rw [find, hlocate] at h
    cases h
  | ok q =>
    obtain rfl := eq_place_of_locate hlocate
    rfl

/-- The stems of the files of a directory stand in ascending order, none of them twice. -/
theorem pairwise_sortedStems (d : Disk) (place : Place) (p : Path) (suffix : String) :
    ((d.unsortedStems place p suffix).mergeSort fun a b => a ≤ b).Pairwise (· < ·) := by
  have hsorted := pairwise_mergeSort_le (d.unsortedStems place p suffix)
  have hnodup : ((d.unsortedStems place p suffix).mergeSort fun a b => a ≤ b).Nodup :=
    (List.mergeSort_perm _ _).nodup_iff.mpr nodup_unsortedStems
  rw [List.nodup_iff_pairwise_ne] at hnodup
  apply hsorted.imp₂ _ hnodup
  intro a b hle hne
  exact String.not_le.mp fun hge => hne (String.le_antisymm hle hge)

end Disk

namespace Storage

/-- A listing of names fails where a file stands in the place of the directory, holds nothing where
nothing is found there, and otherwise goes through the files of the directory. -/
theorem listStems_cases (h : s.initialized = true) (kind : Kind) (d : Disk) :
    (∃ bytes, d.find (s.layout.kindDirectory kind) = .ok (.file bytes) ∧
        s.listStems (s.layout.kindDirectory kind) Layout.recordExtension d =
          .error (.ofFault .notDirectory)) ∨
      ((∃ fault, d.find (s.layout.kindDirectory kind) = .error fault) ∧
        s.listStems (s.layout.kindDirectory kind) Layout.recordExtension d = .ok []) ∨
      (d.find (s.layout.kindDirectory kind) = .ok .directory ∧
        s.listStems (s.layout.kindDirectory kind) Layout.recordExtension d =
          .ok ((d.unsortedStems (s.layout.kindDirectory kind).place (s.layout.kindDirectory kind)
            Layout.recordExtension).mergeSort fun a b => a ≤ b)) := by
  have hready : s.checkReady = .ok () := by rw [checkReady, if_pos h]
  rw [listStems, hready, ok_bind]
  cases hfind : d.find (s.layout.kindDirectory kind) with
  | error fault =>
    rw [Disk.stems, hfind]
    exact Or.inr (Or.inl ⟨⟨fault, rfl⟩, rfl⟩)
  | ok e =>
    cases e with
    | file bytes =>
      rw [Disk.stems, hfind]
      exact Or.inl ⟨bytes, rfl, rfl⟩
    | directory =>
      rw [Disk.stems_of_find hfind]
      exact Or.inr (Or.inr ⟨rfl, rfl⟩)

theorem pairwise_listStems (h : s.initialized = true)
    (hids : s.listStems (s.layout.kindDirectory kind) Layout.recordExtension d = .ok ids) :
    ids.Pairwise (· < ·) := by
  rcases listStems_cases h kind d with ⟨bytes, -, heq⟩ | ⟨-, heq⟩ | ⟨-, heq⟩
  · rw [heq] at hids
    cases hids
  · rw [heq] at hids
    cases hids
    exact .nil
  · rw [heq] at hids
    cases hids
    exact d.pairwise_sortedStems _ _ _

/-- The name of every record that has a file is listed. -/
theorem mem_listStems (h : s.initialized = true)
    (hids : s.listStems (s.layout.kindDirectory kind) Layout.recordExtension d = .ok ids)
    (hid : isValidId id = true) (hfile : d.isFile (s.layout.record kind id) = true) :
    id ∈ ids := by
  have hfind := Layout.find_kindDirectory_of_isFile hid hfile
  rcases listStems_cases h kind d with ⟨bytes, hblocked, -⟩ | ⟨⟨fault, hmissing⟩, -⟩ | ⟨-, heq⟩
  · rw [hfind] at hblocked
    cases hblocked
  · rw [hfind] at hmissing
    cases hmissing
  · rw [heq] at hids
    cases hids
    obtain ⟨bytes, hread⟩ := Disk.isFile_eq_true_iff.mp hfile
    have hget := (Disk.readFile_eq_ok_iff.mp hread).2.2
    rw [Layout.record, Path.place_join (isName_recordFile hid)] at hget
    rw [List.mem_mergeSort, Disk.unsortedStems, List.mem_filterMap]
    refine ⟨id ++ ".json", ?_, Disk.stemOf?_recordFile hid⟩
    exact List.mem_filter.mpr ⟨Disk.mem_fileNames.mpr ⟨bytes, hget⟩, hfile⟩

/-! ## Records -/

theorem isFile_of_getRecord {r : Record kind} (h : s.getRecord kind id d = .ok r) :
    isValidId id = true ∧ d.isFile (s.layout.record kind id) = true := by
  obtain ⟨-, hid, bytes, hread, -⟩ := getRecord_eq_ok_iff.mp h
  exact ⟨hid, Disk.isFile_eq_true_iff.mpr ⟨bytes, hread⟩⟩

/-- A listing holds the records that can be found and satisfy the condition. -/
theorem mem_listRecords_iff (h : s.initialized = true) {keep : Record kind → Bool}
    {records : List (Record kind)} (hrecords : s.listRecords kind keep d = .ok records)
    (r : Record kind) :
    r ∈ records ↔ keep r = true ∧ ∃ id, s.getRecord kind id d = .ok r := by
  rw [listRecords, bind_eq_ok_iff] at hrecords
  obtain ⟨ids, hids, hrecords⟩ := hrecords
  cases hrecords
  rw [List.mem_filter, List.mem_filterMap, and_comm]
  apply and_congr_right
  intro _
  constructor
  · rintro ⟨id, -, hr⟩
    exact ⟨id, shelf_eq_some_iff_getRecord.mp hr⟩
  · rintro ⟨id, hr⟩
    obtain ⟨hid, hfile⟩ := isFile_of_getRecord hr
    exact ⟨id, mem_listStems h hids hid hfile, shelf_eq_some_iff_getRecord.mpr hr⟩

/-- Where the records of a listing are found under their own ids, these stand in ascending order,
none of them twice. -/
theorem pairwise_ids_listRecords (h : s.initialized = true) {keep : Record kind → Bool}
    {records : List (Record kind)} (hrecords : s.listRecords kind keep d = .ok records)
    (hnamed : ∀ id r, s.getRecord kind id d = .ok r → keep r = true → r.id = id) :
    (records.map (·.id)).Pairwise (· < ·) := by
  rw [listRecords, bind_eq_ok_iff] at hrecords
  obtain ⟨ids, hids, hrecords⟩ := hrecords
  cases hrecords
  rw [List.pairwise_map, List.pairwise_filter, List.pairwise_filterMap]
  apply (pairwise_listStems h hids).imp
  intro id id' hlt r hr r' hr' hkeep hkeep'
  rw [hnamed id r (shelf_eq_some_iff_getRecord.mp hr) hkeep,
    hnamed id' r' (shelf_eq_some_iff_getRecord.mp hr') hkeep']
  exact hlt

/-- A listing of records fails only where a file stands in the place of their directory. -/
theorem isFile_kindDirectory_of_listRecords_eq_error (h : s.initialized = true)
    {keep : Record kind → Bool} {e : StorageError}
    (hfails : s.listRecords kind keep d = .error e) :
    d.isFile (s.layout.kindDirectory kind) = true := by
  rcases listStems_cases h kind d with ⟨bytes, hblocked, -⟩ | ⟨-, heq⟩ | ⟨-, heq⟩
  · rw [Disk.isFile, hblocked]
  · rw [listRecords_eq heq] at hfails
    cases hfails
  · rw [listRecords_eq heq] at hfails
    cases hfails

/-- Nothing is listed for a document on which no record hangs. -/
theorem listByDocument_eq_nil (h : s.initialized = true) {documentId : String}
    (hfind : d.find (s.layout.kindDirectory kind) = .ok .directory)
    (hnone : ∀ name (r : Record kind),
      s.getRecord kind name d = .ok r → r.parent? ≠ some documentId) :
    s.listByDocument kind documentId d = .ok [] := by
  cases hlist : s.listByDocument kind documentId d with
  | error e =>
    have hblocked := isFile_kindDirectory_of_listRecords_eq_error h hlist
    rw [Disk.isFile, hfind] at hblocked
    cases hblocked
  | ok records =>
    rw [Except.ok.injEq, List.eq_nil_iff_forall_not_mem]
    intro r hr
    obtain ⟨hparent, name, hfound⟩ := (mem_listRecords_iff h hlist r).mp hr
    exact hnone name r hfound (by simpa using hparent)

/-- A record that has a file can be deleted. -/
theorem exists_deleteRecord_of_isFile (h : s.initialized = true) (hid : isValidId id = true)
    (hfile : d.isFile (s.layout.record kind id) = true) :
    ∃ d', s.deleteRecord kind id d = (.ok (), d') ∧ RemovesRecord s.layout.base kind id d d' := by
  obtain ⟨bytes, hread⟩ := Disk.isFile_eq_true_iff.mp hfile
  obtain ⟨d', hremoves, hremove⟩ := Disk.exists_removeFile hread
  have hask : DiskAction.ask (s.presentPath kind id) d = (.ok (s.layout.record kind id), d) := by
    rw [DiskAction.ask, presentPath_of_isFile hid hfile]
  have hready : DiskAction.ask (fun _ => s.checkReady) d = (.ok (), d) := by
    rw [DiskAction.ask, checkReady, if_pos h]
  refine ⟨d', ?_, ?_⟩
  · rw [deleteRecord, run_bind_of_ok hask, delete, run_bind_of_ok hready, DiskAction.change,
      hremoves]
  · rw [Layout.place_record hid] at hremove
    exact removesRecord_of_removeFile? hremove

end Storage

end SealedVault
