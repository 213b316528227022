import SealedVault.Proofs.Store.Agreement

/-!
# Listings file by file

A listing of records goes through the files of a directory in ascending order, and what each of them
adds follows from its bytes alone. So on two disks that differ in one file of the directory, the
other files add the same entries in the same order, whatever is in that file. It adds at most one
entry itself.
-/

namespace SealedVault

open Disk (KeepsDirectories)
open Layout (recordPlace)

variable {l : Layout} {s : Storage} {d d' : Disk} {kind : Kind} {name id : String} {α ε : Type}

namespace Layout

/-! ## Disks that differ in one file -/

/-- The place of a file in the directory of a kind. -/
def filePlace (l : Layout) (kind : Kind) (name : String) : Place :=
  l.base ++ [kind.directory] ++ [name]

/-- Both disks have the directory of a kind, and they differ in nothing but one file of it. Its
bytes may be any, and on either disk it may be missing. -/
structure DiffersInFile (l : Layout) (kind : Kind) (name : String) (d d' : Disk) : Prop where
  found : d.find (l.kindDirectory kind) = .ok .directory
  found' : d'.find (l.kindDirectory kind) = .ok .directory
  ne_directory : d.get? (l.filePlace kind name) ≠ some .directory
  ne_directory' : d'.get? (l.filePlace kind name) ≠ some .directory
  get?_eq (q : Place) : q ≠ l.filePlace kind name → d'.get? q = d.get? q

namespace DiffersInFile

theorem symm (h : l.DiffersInFile kind name d d') : l.DiffersInFile kind name d' d where
  found := h.found'
  found' := h.found
  ne_directory := h.ne_directory'
  ne_directory' := h.ne_directory
  get?_eq q hq := (h.get?_eq q hq).symm

theorem keepsDirectories (h : l.DiffersInFile kind name d d') : KeepsDirectories d d' := by
  intro q hdirectory
  have hq : q ≠ l.filePlace kind name := by
    rintro rfl
    exact h.ne_directory hdirectory
  rw [h.get?_eq q hq, hdirectory]

theorem fileAt?_eq (h : l.DiffersInFile kind name d d') {q : Place}
    (hq : q ≠ l.filePlace kind name) : d'.fileAt? q = d.fileAt? q :=
  Disk.fileAt?_eq_of_get?_eq (h.get?_eq q hq)

theorem readFile_of_ne (h : l.DiffersInFile kind name d d') {p : Path} {bytes : List UInt8}
    (hp : p.place ≠ l.filePlace kind name) (hread : d.readFile p = .ok bytes) :
    d'.readFile p = .ok bytes :=
  Disk.readFile_of_keepsDirectories h.keepsDirectories (h.fileAt?_eq hp) hread

end DiffersInFile

/-- Putting a file into the directory makes a difference in nothing else. -/
theorem differsInFile_of_put? {bytes : List UInt8}
    (hfound : d.find (l.kindDirectory kind) = .ok .directory)
    (hput : d.put? (l.base ++ [kind.directory]) name (.file bytes) = some d') :
    l.DiffersInFile kind name d d' where
  found := hfound
  found' :=
    Disk.find_directory_of_keepsDirectories (Disk.keepsDirectories_of_put? hput) hfound
  ne_directory := Disk.ne_directory_of_put? hput
  ne_directory' := by
    rw [Disk.get?_of_put? hput, filePlace, if_pos rfl]
    simp
  get?_eq q hq := by
    rw [Disk.get?_of_put? hput]
    exact if_neg hq

end Layout

/-- Looking for a record depends on whether its file can be read, and on the bytes of it. -/
theorem Storage.getRecord_eq_of_readFile
    (h : isValidId id = true → ∀ bytes, d'.readFile (s.layout.record kind id) = .ok bytes ↔
      d.readFile (s.layout.record kind id) = .ok bytes) :
    s.getRecord kind id d' = s.getRecord kind id d := by
  by_cases hid : isValidId id = true
  · have hread := h hid
    by_cases hfile : d.isFile (s.layout.record kind id) = true
    · obtain ⟨bytes, hbytes⟩ := Disk.isFile_eq_true_iff.mp hfile
      have hbytes' := (hread bytes).mpr hbytes
      have hfile' := Disk.isFile_eq_true_iff.mpr ⟨bytes, hbytes'⟩
      rw [getRecord, getRecord, presentPath_of_isFile hid hfile, presentPath_of_isFile hid hfile',
        ok_bind, ok_bind, readWith, readWith, hbytes, hbytes']
    · have hfile' : ¬d'.isFile (s.layout.record kind id) = true := by
        intro hfound
        obtain ⟨bytes, hbytes'⟩ := Disk.isFile_eq_true_iff.mp hfound
        exact hfile (Disk.isFile_eq_true_iff.mpr ⟨bytes, (hread bytes).mp hbytes'⟩)
      simp only [getRecord, presentPath, recordPath, if_pos hid, ok_bind, if_neg hfile,
        if_neg hfile']
      rfl
  · have hinvalid := eq_false_of_ne_true hid
    rw [getRecord_of_invalid hinvalid, getRecord_of_invalid hinvalid]

/-- Every record with another file is found on both disks or on neither. -/
theorem Layout.DiffersInFile.getRecord_eq (h : s.layout.DiffersInFile kind name d d') {kind' : Kind}
    (hne : recordPlace s.layout.base kind' id ≠ s.layout.filePlace kind name) :
    s.getRecord kind' id d' = s.getRecord kind' id d := by
  apply Storage.getRecord_eq_of_readFile
  intro hid bytes
  rw [← Layout.place_record hid] at hne
  exact ⟨h.symm.readFile_of_ne hne, h.readFile_of_ne hne⟩

/-! ## What a file adds -/

namespace Layout

/-- The record that is in the file with a stem, if the stem can be the id of a record. -/
def recordIn (l : Layout) (kind : Kind) (d : Disk) (stem : String) : Option (Record kind) :=
  if isValidId stem then (d.fileAt? (recordPlace l.base kind stem)).bind (Record.ofBytes? kind)
  else none

/-- What the file with a stem adds to a listing, which may have an entry for each record. -/
def entryOf (l : Layout) (entry : Record kind → Option α) (d : Disk) (stem : String) : Option α :=
  (l.recordIn kind d stem).bind entry

/-- What is made of the entries of the files is made file by file. -/
theorem filterMap_entryOf {β : Type} (entry : Record kind → Option α) (f : α → Option β) (d : Disk)
    (stems : List String) :
    (stems.filterMap (l.entryOf entry d)).filterMap f =
      stems.filterMap (l.entryOf (fun r => (entry r).bind f) d) := by
  rw [List.filterMap_filterMap]
  apply List.filterMap_congr
  intro stem _
  rw [entryOf, entryOf, Option.bind_assoc]

/-- A list is made file by file: each file of the directory of a kind adds what it has, in ascending
order of the stems. -/
structure IsListing (l : Layout) (entry : Record kind → Option α) (d : Disk) (stems : List String)
    (listed : List α) : Prop where
  stems_eq : d.stems (l.kindDirectory kind) recordExtension = .ok stems
  ascending : stems.Pairwise (· < ·)
  listed_eq : listed = stems.filterMap (l.entryOf entry d)

/-- What the files with other names than the given one add. -/
def entriesBeside (l : Layout) (entry : Record kind → Option α) (name : String) (d : Disk)
    (stems : List String) : List α :=
  (stems.filter fun stem => stem ++ ".json" ≠ name).filterMap (l.entryOf entry d)

/-- What the file with the given name adds. -/
def entriesFrom (l : Layout) (entry : Record kind → Option α) (name : String) (d : Disk)
    (stems : List String) : List α :=
  (stems.filter fun stem => stem ++ ".json" = name).filterMap (l.entryOf entry d)

/-- Listings of two disks fail alike, or both are made file by file with the same entries for the
same records, so that all files but one add the same in the same order. That one adds at most one
entry to each listing. -/
inductive ListsAlike (l : Layout) (kind : Kind) (name : String) (entry : Record kind → Option α)
    (d d' : Disk) : Except ε (List α) → Except ε (List α) → Prop
  | failed (e : ε) : ListsAlike l kind name entry d d' (.error e) (.error e)
  | listed (stems stems' : List String) (listed listed' : List α) :
    l.IsListing entry d stems listed → l.IsListing entry d' stems' listed' →
    l.entriesBeside entry name d stems = l.entriesBeside entry name d' stems' →
    (l.entriesFrom entry name d stems).length ≤ 1 →
    (l.entriesFrom entry name d' stems').length ≤ 1 →
      ListsAlike l kind name entry d d' (.ok listed) (.ok listed')

/-- Where the file with the given name holds no record, a listing is what the others add. -/
theorem IsListing.eq_entriesBeside {entry : Record kind → Option α} {stems : List String}
    {listed : List α} (h : l.IsListing entry d stems listed)
    (hnone : ∀ stem, stem ++ ".json" = name → l.recordIn kind d stem = none) :
    listed = l.entriesBeside entry name d stems := by
  rw [h.listed_eq, entriesBeside, List.filterMap_filter]
  apply List.filterMap_congr
  intro stem _
  by_cases hstem : stem ++ ".json" = name
  · rw [entryOf, hnone stem hstem]
    simp
  · simp [hstem]

/-- A file that holds no record on either disk makes no difference to what is listed. -/
theorem ListsAlike.eq_of_no_record {entry : Record kind → Option α}
    {result result' : Except ε (List α)} (h : l.ListsAlike kind name entry d d' result result')
    (hnone : ∀ stem, stem ++ ".json" = name → l.recordIn kind d stem = none)
    (hnone' : ∀ stem, stem ++ ".json" = name → l.recordIn kind d' stem = none) :
    result' = result := by
  cases h with
  | failed e => rfl
  | listed stems stems' listed listed' hlisted hlisted' hbeside =>
    rw [hlisted.eq_entriesBeside hnone, hlisted'.eq_entriesBeside hnone', hbeside]

/-! ## The files of a directory -/

/-- The stems of the files in the directory of a kind, in ascending order. -/
def stemsOf (l : Layout) (kind : Kind) (d : Disk) : List String :=
  (d.unsortedStems (l.kindDirectory kind).place (l.kindDirectory kind) recordExtension).mergeSort
    fun a b => a ≤ b

theorem pairwise_stemsOf (l : Layout) (kind : Kind) (d : Disk) :
    (l.stemsOf kind d).Pairwise (· < ·) :=
  d.pairwise_sortedStems _ _ _

theorem stems_of_find (h : d.find (l.kindDirectory kind) = .ok .directory) :
    d.stems (l.kindDirectory kind) recordExtension = .ok (l.stemsOf kind d) := by
  rw [Disk.stems_of_find h]
  rfl

/-- A stem is listed only if its file can be read. -/
theorem isFile_of_mem_stemsOf {stem : String} (h : stem ∈ l.stemsOf kind d) :
    d.isFile (l.record kind stem) = true := by
  rw [stemsOf, List.mem_mergeSort, Disk.unsortedStems, List.mem_filterMap] at h
  obtain ⟨name, hname, hstem⟩ := h
  rw [Disk.eq_of_stemOf? hstem, List.mem_filter, String.append_assoc] at hname
  exact hname.2

/-- No more than one file has the given name. -/
theorem length_entriesFrom_le (entry : Record kind → Option α) (name : String) (d : Disk)
    {stems : List String} (h : stems.Pairwise (· < ·)) :
    (l.entriesFrom entry name d stems).length ≤ 1 := by
  apply Nat.le_trans (List.length_filterMap_le _ _)
  have hascending := h.filter fun stem => stem ++ ".json" = name
  have hnamed : ∀ stem ∈ stems.filter fun stem => stem ++ ".json" = name,
      stem ++ ".json" = name := by
    intro stem hstem
    simpa using (List.mem_filter.mp hstem).2
  rcases hown : stems.filter fun stem => stem ++ ".json" = name with _ | ⟨a, _ | ⟨b, rest⟩⟩
  · exact Nat.zero_le 1
  · exact Nat.le_refl 1
  · rw [hown] at hascending hnamed
    have hlt : a < b := List.rel_of_pairwise_cons hascending List.mem_cons_self
    have hsame : a ++ ".json" = b ++ ".json" :=
      (hnamed a List.mem_cons_self).trans (hnamed b (by simp)).symm
    obtain rfl : a = b := by simpa using hsame
    exact absurd hlt (String.lt_irrefl a)

end Layout

namespace Storage

/-- What is in a file that is listed is what is found under its stem. -/
theorem shelf_eq_recordIn (h : s.initialized = true) {stem : String}
    (hstem : stem ∈ s.layout.stemsOf kind d) :
    s.shelf d kind stem = s.layout.recordIn kind d stem := by
  by_cases hid : isValidId stem = true
  · obtain ⟨bytes, hread⟩ := Disk.isFile_eq_true_iff.mp (Layout.isFile_of_mem_stemsOf hstem)
    have hget := (Disk.readFile_eq_ok_iff.mp hread).2.2
    rw [Layout.place_record hid, ← Disk.fileAt?_eq_some_iff] at hget
    ext r
    rw [shelf_eq_some_iff_getRecord, getRecord_eq_ok_iff, Layout.recordIn, if_pos hid, hget]
    simp [h, hid, hread]
  · rw [Layout.recordIn, if_neg hid, shelf, getRecord_of_invalid (eq_false_of_ne_true hid)]
    rfl

theorem listStems_of_find (h : s.initialized = true)
    (hfound : d.find (s.layout.kindDirectory kind) = .ok .directory) :
    s.listStems (s.layout.kindDirectory kind) Layout.recordExtension d =
      .ok (s.layout.stemsOf kind d) := by
  rw [listStems, checkReady, if_pos h, ok_bind, Layout.stems_of_find hfound]
  rfl

/-- A listing of records is made file by file. -/
theorem listRecords_eq_entries (h : s.initialized = true)
    (hfound : d.find (s.layout.kindDirectory kind) = .ok .directory) (keep : Record kind → Bool) :
    s.listRecords kind keep d =
      .ok ((s.layout.stemsOf kind d).filterMap (s.layout.entryOf (Option.guard keep) d)) := by
  rw [listRecords_eq (listStems_of_find h hfound), List.filter_filterMap]
  congr 1
  apply List.filterMap_congr
  intro stem hstem
  rw [shelf_eq_recordIn h hstem, Layout.entryOf, Option.bind_guard]

theorem entriesBeside_eq (h : s.initialized = true) (entry : Record kind → Option α)
    (name : String) (d : Disk) :
    s.layout.entriesBeside entry name d (s.layout.stemsOf kind d) =
      (s.layout.stemsOf kind d).filterMap fun stem =>
        if stem ++ ".json" ≠ name then (s.shelf d kind stem).bind entry else none := by
  rw [Layout.entriesBeside, List.filterMap_filter]
  apply List.filterMap_congr
  intro stem hstem
  rw [shelf_eq_recordIn h hstem, Layout.entryOf]
  simp

/-- What is found under another stem is found on both disks. -/
theorem shelf_eq_of_differsInFile (h : s.layout.DiffersInFile kind name d d') {stem : String}
    (hstem : stem ++ ".json" ≠ name) : s.shelf d' kind stem = s.shelf d kind stem := by
  have hplace : recordPlace s.layout.base kind stem ≠ s.layout.filePlace kind name := by
    intro heq
    exact hstem (by simpa [recordPlace, Layout.filePlace] using heq)
  rw [shelf, shelf, h.getRecord_eq hplace]

/-- A stem under which a record is found is among the stems of the files. -/
theorem mem_stemsOf_of_shelf (hfound : d.find (s.layout.kindDirectory kind) = .ok .directory)
    {stem : String} (h : s.shelf d kind stem ≠ none) : stem ∈ s.layout.stemsOf kind d := by
  obtain ⟨r, hr⟩ := Option.ne_none_iff_exists'.mp h
  have hget := shelf_eq_some_iff_getRecord.mp hr
  obtain ⟨hready, -, -⟩ := getRecord_eq_ok_iff.mp hget
  obtain ⟨hid, hfile⟩ := isFile_of_getRecord hget
  exact mem_listStems hready (listStems_of_find hready hfound) hid hfile

/-- The other files add the same on both disks. -/
theorem entriesBeside_eq_of_differsInFile (hready : s.initialized = true)
    (h : s.layout.DiffersInFile kind name d d') (entry : Record kind → Option α) :
    s.layout.entriesBeside entry name d (s.layout.stemsOf kind d) =
      s.layout.entriesBeside entry name d' (s.layout.stemsOf kind d') := by
  have hsame : (fun stem => if stem ++ ".json" ≠ name then (s.shelf d' kind stem).bind entry
      else none) = fun stem => if stem ++ ".json" ≠ name then (s.shelf d kind stem).bind entry
      else none := by
    funext stem
    by_cases hstem : stem ++ ".json" ≠ name
    · rw [if_pos hstem, if_pos hstem, shelf_eq_of_differsInFile h hstem]
    · rw [if_neg hstem, if_neg hstem]
  rw [entriesBeside_eq hready, entriesBeside_eq hready, hsame]
  apply filterMap_eq_of_pairwise (s.layout.pairwise_stemsOf kind d)
    (s.layout.pairwise_stemsOf kind d')
  intro stem hne
  by_cases hstem : stem ++ ".json" ≠ name
  · rw [if_pos hstem] at hne
    have hfound : s.shelf d kind stem ≠ none := by
      intro hnone
      rw [hnone] at hne
      exact hne rfl
    refine ⟨mem_stemsOf_of_shelf h.found hfound, mem_stemsOf_of_shelf h.found' ?_⟩
    rwa [shelf_eq_of_differsInFile h hstem]
  · rw [if_neg hstem] at hne
    exact absurd rfl hne

/-! ## Two listings -/

/-- Whatever a listing shows of a record, two disks that differ in one file are listed alike. -/
theorem listsAlike_stemsOf (hready : s.initialized = true)
    (h : s.layout.DiffersInFile kind name d d') (entry : Record kind → Option α) :
    s.layout.ListsAlike kind name entry d d'
      (.ok ((s.layout.stemsOf kind d).filterMap (s.layout.entryOf entry d)) : Except ε (List α))
      (.ok ((s.layout.stemsOf kind d').filterMap (s.layout.entryOf entry d'))) :=
  .listed _ _ _ _
    ⟨Layout.stems_of_find h.found, s.layout.pairwise_stemsOf kind d, rfl⟩
    ⟨Layout.stems_of_find h.found', s.layout.pairwise_stemsOf kind d', rfl⟩
    (entriesBeside_eq_of_differsInFile hready h entry)
    (Layout.length_entriesFrom_le entry name d (s.layout.pairwise_stemsOf kind d))
    (Layout.length_entriesFrom_le entry name d' (s.layout.pairwise_stemsOf kind d'))

/-- So they are by every listing of records, whether or not the storage is ready. -/
theorem listsAlike_listRecords (h : s.layout.DiffersInFile kind name d d')
    (keep : Record kind → Bool) :
    s.layout.ListsAlike kind name (Option.guard keep) d d' (s.listRecords kind keep d)
      (s.listRecords kind keep d') := by
  by_cases hready : s.initialized = true
  · rw [listRecords_eq_entries hready h.found, listRecords_eq_entries hready h.found']
    exact listsAlike_stemsOf hready h (Option.guard keep)
  · have hnot := eq_false_of_ne_true hready
    rw [listRecords_of_not_initialized hnot, listRecords_of_not_initialized hnot]
    exact .failed _

/-- A listing of all records shows each of them. -/
theorem listsAlike_listAll (h : s.layout.DiffersInFile kind name d d') :
    s.layout.ListsAlike kind name some d d' (s.listAll kind d) (s.listAll kind d') :=
  listsAlike_listRecords h fun _ => true

end Storage

end SealedVault
