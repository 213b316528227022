import SealedVault.Proofs.Store.Agreement
import SealedVault.Proofs.Store.Cabinet
import SealedVault.Proofs.Store.Contents

/-!
# Working files

A file is replaced by way of a working file beside it, which takes the bytes first and then the name
of the file. Where that fails the working file is taken away again. Whatever name the working file
gets, as long as nothing has that name, the result and the disk are those of replacing the file in
one step: the working file never remains. For a record that has a file, making the working file is
all that can fail.
-/

namespace SealedVault

open Disk (Fault checkPath nameLimit workingName)
open SealedVault.Path (IsName)

/-! ## Names of working files -/

/-- The names that a working file may get: six letters or digits after a fixed beginning. -/
def IsWorkingName (name : String) : Prop :=
  ∃ cs : List Char, name.toList = ".tmp".toList ++ cs ∧ cs.length = 6 ∧
    ∀ c ∈ cs, c.isAlphanum = true

theorem isWorkingName_workingName : IsWorkingName workingName :=
  ⟨"000000".toList, by decide, by decide, by simp⟩

namespace IsWorkingName

variable {working : String}

theorem toNat_lt (h : IsWorkingName working) {c : Char} (hc : c ∈ working.toList) :
    c.toNat < 128 := by
  obtain ⟨cs, hchars, -, hcs⟩ := h
  rw [hchars, List.mem_append] at hc
  rcases hc with hc | hc
  · have hall : ∀ c ∈ ".tmp".toList, c.toNat < 128 := by simp
    exact hall c hc
  · exact Storage.toNat_lt_of_isAlphanum (hcs c hc)

theorem utf8ByteSize_eq (h : IsWorkingName working) : working.utf8ByteSize = 10 := by
  rw [Text.utf8ByteSize_of_lt fun c hc => h.toNat_lt hc]
  obtain ⟨cs, hchars, hlength, -⟩ := h
  rw [hchars, List.length_append, hlength]
  rfl

theorem not_mem (h : IsWorkingName working) {c : Char} (hdot : c ≠ '.')
    (hc : c.isAlphanum = false) : c ∉ working.toList := by
  obtain ⟨cs, hchars, -, hcs⟩ := h
  rw [hchars, List.mem_append, not_or]
  refine ⟨?_, fun hmem => ?_⟩
  · have hall : ∀ c ∈ ".tmp".toList, c = '.' ∨ c.isAlphanum = true := by simp
    intro hmem
    rcases hall c hmem with rfl | halpha
    · exact hdot rfl
    · rw [hc] at halpha
      cases halpha
  · rw [hcs c hmem] at hc
    cases hc

theorem isName (h : IsWorkingName working) : IsName working := by
  refine isName_of_mem (c := 't') ?_ (by decide) (h.not_mem (by decide) (by decide))
  obtain ⟨cs, hchars, -, -⟩ := h
  rw [hchars]
  simp

/-- No record has a file of such a name. -/
theorem ne_recordFile (h : IsWorkingName working) {id : String} (hid : isValidId id = true) :
    id ++ ".json" ≠ working := by
  rintro rfl
  obtain ⟨cs, hchars, -, -⟩ := h
  simp only [isValidId, Bool.and_eq_true] at hid
  cases hlist : id.toList with
  | nil => simp [hlist] at hid
  | cons c rest =>
    rw [String.toList_append, hlist] at hchars
    obtain rfl : c = '.' := (List.cons.inj hchars).1
    simp [hlist] at hid

end IsWorkingName

namespace Disk

variable {d d' : Disk} {dir p : Path} {part name working : String} {bytes : List UInt8}

/-! ## Replacing in several steps -/

/-- Gives a file the name that another path ends in, in place of the file that may have it. -/
def renameFile (d : Disk) (old new : Path) : Except Fault Disk :=
  (readFile d old).bind fun bytes => (nameFile d new bytes).bind fun d => removeFile d old

/-- Replaces a file by way of a working file. -/
def replaceThrough (working p : Path) (bytes : List UInt8) (d : Disk) : Except Fault Unit × Disk :=
  match d.writeFile working bytes with
  | .error fault => (.error fault, d)
  | .ok filled =>
    match filled.renameFile working p with
    | .ok renamed => (.ok (), renamed)
    | .error fault => (.error fault, (filled.removeFile working).toOption.getD filled)

/-! ## Paths into one directory -/

theorem locate_join (hpart : IsName part) :
    d.locate (dir.join part) =
      (checkPath (dir.join part)).bind fun _ => (d.descend [] dir.names).bind fun place =>
        if nameLimit < part.utf8ByteSize then .error .tooLong else .ok (place ++ [part]) := by
  rw [locate, Path.names_join hpart, walk_append]
  simp only [walk, if_neg hpart.ne_dots, if_true]

/-- Names with as many bytes can be put behind the same paths. -/
theorem checkPath_join_congr (hpart : IsName part) (hname : IsName name)
    (hzero : '\x00' ∉ part.toList) (hzero' : '\x00' ∉ name.toList)
    (hsize : part.utf8ByteSize = name.utf8ByteSize) :
    checkPath (dir.join part) = checkPath (dir.join name) := by
  have htexts : '\x00' ∈ (dir.join part).text.toList ↔ '\x00' ∈ (dir.join name).text.toList := by
    rw [Path.text_join hpart, Path.text_join hname]
    split <;> simp [hzero, hzero']
  have hsizes : (dir.join part).text.utf8ByteSize = (dir.join name).text.utf8ByteSize := by
    rw [Path.text_join hpart, Path.text_join hname]
    split <;> simp [String.utf8ByteSize_append, hsize]
  rw [checkPath, checkPath, Path.isUnusable, Path.isUnusable, Path.isTooLong, Path.isTooLong,
    List.contains_eq_mem, List.contains_eq_mem, hsizes]
  simp only [htexts]

/-- A working file can be reached, or fails to be, like the one that replacing in one step looks
for. -/
theorem locate_working (hworking : IsWorkingName working) :
    d.locate (dir.join working) =
      (d.locate (dir.join workingName)).map fun _ => (dir.join working).place := by
  have hsize : working.utf8ByteSize = workingName.utf8ByteSize := by
    rw [hworking.utf8ByteSize_eq, isWorkingName_workingName.utf8ByteSize_eq]
  have hzero {name : String} (h : IsWorkingName name) : '\x00' ∉ name.toList :=
    h.not_mem (by decide) (by decide)
  rw [locate_join hworking.isName, locate_join isWorkingName_workingName.isName, hsize,
    checkPath_join_congr hworking.isName isWorkingName_workingName.isName (hzero hworking)
      (hzero isWorkingName_workingName) hsize, Path.place_join hworking.isName]
  cases checkPath (dir.join workingName) with
  | error fault => rfl
  | ok =>
    simp only [Except.bind]
    cases hdescend : d.descend [] dir.names with
    | error fault => rfl
    | ok place =>
      obtain rfl : place = dir.place := eq_follow_of_descend hdescend
      simp only []
      split <;> rfl

/-- What is in a directory is reached along the way to the directory. -/
theorem descend_of_locate_join {q : Place} (hpart : IsName part)
    (h : d.locate (dir.join part) = .ok q) : d.descend [] dir.names = .ok dir.place := by
  obtain ⟨-, hwalk⟩ := locate_eq_ok_iff.mp h
  rw [Path.names_join hpart, walk_append] at hwalk
  cases hdescend : d.descend [] dir.names with
  | error fault =>
    rw [hdescend] at hwalk
    cases hwalk
  | ok place => rw [eq_follow_of_descend hdescend, Path.place]

/-- Where a path leads follows from the way to its parent. -/
theorem locate_congr (hparent : d'.descend [] p.parent.names = d.descend [] p.parent.names) :
    d'.locate p = d.locate p := by
  have hwalk : d'.walk [] p.names = d.walk [] p.names := by
    by_cases hnames : p.names = []
    · rw [hnames]
      rfl
    · rw [← List.dropLast_append_getLast hnames, ← Path.names_parent, walk_append, walk_append,
        hparent]
      simp only [walk, if_true]
  rw [locate, locate, hwalk]

/-! ## The working file is gone -/

/-- Taking away a file that was not there before leaves all else. -/
theorem removeFile_eq_of_get?_eq (hread : d'.readFile p = .ok bytes)
    (hget : ∀ q, q ≠ p.place → d'.get? q = d.get? q) (hfree : d.get? p.place = none) :
    d'.removeFile p = .ok d := by
  obtain ⟨m, hremove, hplace⟩ := exists_removeFile hread
  obtain rfl : m = d := by
    apply Disk.ext
    intro q
    rw [get?_of_removeFile? hplace]
    by_cases hq : q = p.place
    · rw [if_pos hq, hq, hfree]
    · rw [if_neg hq, hget q hq]
  exact hremove

/-- A file that has the working name in the meantime can be read, and makes no difference to the
paths of other files in its directory. -/
theorem exists_working (hworking : IsName working)
    (hlocate : d.locate (dir.join working) = .ok (dir.join working).place)
    (hfree : d.get? (dir.join working).place = none) (bytes : List UInt8) :
    ∃ filled, d.writeFile (dir.join working) bytes = .ok filled ∧
      (∀ q, filled.get? q =
        if q = (dir.join working).place then some (.file bytes) else d.get? q) ∧
      filled.locate (dir.join working) = .ok (dir.join working).place ∧
      filled.descend [] dir.names = d.descend [] dir.names := by
  have hdescend := descend_of_locate_join hworking hlocate
  have hplace := Path.place_join hworking dir
  obtain ⟨filled, hput⟩ := exists_put? (get?_of_descend d.get?_nil hdescend)
    (by rw [← hplace, hfree]; simp) (.file bytes)
  have hkeeps := keepsDirectories_of_put? hput
  refine ⟨filled, ?_, ?_, locate_of_keepsDirectories hkeeps hlocate, ?_⟩
  · refine writeFile_eq_ok_iff.mpr
      ⟨Path.endsInDot_join hworking dir, hlocate, Path.wantsDirectory_join hworking dir, ?_⟩
    rw [hplace]
    exact writeAt_of_put? hput
  · rw [hplace]
    exact get?_of_put? hput
  · rw [hdescend, descend_of_keepsDirectories hkeeps hdescend]

/-- Giving a file a name fails on two disks in the same way, or on neither, where its path leads to
the same place on both, the same entry is there, and the directories are the same. -/
theorem nameFile_cases (hlocate : d'.locate p = d.locate p)
    (hhere : d'.get? p.place = d.get? p.place)
    (hdirs : ∀ q, d'.get? q = some .directory ↔ d.get? q = some .directory)
    (bytes : List UInt8) :
    (∃ fault, d'.nameFile p bytes = .error fault ∧ d.nameFile p bytes = .error fault) ∨
      ∃ front name m' m, p.place = front ++ [name] ∧
        d'.nameFile p bytes = .ok m' ∧ d.nameFile p bytes = .ok m ∧
        d'.put? front name (.file bytes) = some m' ∧
        d.put? front name (.file bytes) = some m := by
  have hfind : d'.find p = d.find p := by
    rw [find, find, hlocate]
    cases hfound : d.locate p with
    | error fault => rfl
    | ok q =>
      obtain rfl := eq_place_of_locate hfound
      simp only [Except.bind, hhere]
  rw [nameFile, nameFile, putFile, putFile, hfind, hlocate]
  by_cases hdot : p.endsInDot = true
  · rw [if_pos hdot, if_pos hdot]
    cases d.find p with
    | error fault => exact Or.inl ⟨fault, rfl, rfl⟩
    | ok e => exact Or.inl ⟨.busy, rfl, rfl⟩
  rw [if_neg hdot, if_neg hdot]
  cases hfound : d.locate p with
  | error fault => exact Or.inl ⟨fault, rfl, rfl⟩
  | ok q =>
    obtain rfl := eq_place_of_locate hfound
    simp only [Except.bind]
    by_cases hunnamed : p.endsUnnamed = true
    · rw [if_pos hunnamed, if_pos hunnamed]
      exact Or.inl ⟨.busy, rfl, rfl⟩
    rw [if_neg hunnamed, if_neg hunnamed]
    by_cases hwants : p.wantsDirectory = true
    · rw [if_pos hwants, if_pos hwants]
      exact Or.inl ⟨.notDirectory, rfl, rfl⟩
    rw [if_neg hwants, if_neg hwants, writeAt, writeAt]
    cases hlast : p.place.getLast? with
    | none => exact Or.inl ⟨.isDirectory, rfl, rfl⟩
    | some name =>
      have hplace := List.dropLast_append_getLast? name hlast
      simp only [Option.bind_some]
      have hsome : (d'.put? p.place.dropLast name (.file bytes)).isSome =
          (d.put? p.place.dropLast name (.file bytes)).isSome :=
        isSome_put?_congr (hdirs _) (hdirs _)
      rcases cases_of_isSome_eq hsome with ⟨hput, hput'⟩ | ⟨m', m, hput, hput'⟩
      · exact Or.inl ⟨.isDirectory, by rw [hput], by rw [hput']⟩
      · exact Or.inr ⟨_, name, m', m, hplace.symm, by rw [hput], by rw [hput'], hput, hput'⟩

/-- Where nothing has the name of the working file, replacing a file by way of it does what
replacing the file in one step does. -/
theorem replaceThrough_eq (hworking : IsWorkingName working)
    (hne : p.place ≠ (p.parent.join working).place)
    (hfree : d.get? (p.parent.join working).place = none) :
    replaceThrough (p.parent.join working) p bytes d =
      match d.replaceFile p bytes with
      | .ok d' => (.ok (), d')
      | .error fault => (.error fault, d) := by
  have hpart := hworking.isName
  have hlocated : d.locate (p.parent.join working) =
      (d.locate (p.parent.join workingName)).map fun _ => (p.parent.join working).place :=
    locate_working hworking
  rw [replaceThrough, replaceFile]
  cases hlocate : d.locate (p.parent.join workingName) with
  | error fault =>
    have hfails : d.writeFile (p.parent.join working) bytes = .error fault := by
      rw [writeFile, putFile_join hpart, hlocated, hlocate]
      rfl
    rw [hfails]
    rfl
  | ok q =>
    rw [hlocate] at hlocated
    obtain ⟨filled, hfill, hget, hthere, hsame⟩ := exists_working hpart hlocated hfree bytes
    have hread : filled.readFile (p.parent.join working) = .ok bytes :=
      readFile_eq_ok_iff.mpr
        ⟨hthere, Path.wantsDirectory_join hpart p.parent, by rw [hget, if_pos rfl]⟩
    have hundo : filled.removeFile (p.parent.join working) = .ok d :=
      removeFile_eq_of_get?_eq hread (fun q hq => by rw [hget, if_neg hq]) hfree
    have hdirs (q : Place) : filled.get? q = some .directory ↔ d.get? q = some .directory := by
      rw [hget]
      by_cases hq : q = (p.parent.join working).place
      · rw [if_pos hq, hq, hfree]
        simp
      · rw [if_neg hq]
    rw [hfill]
    simp only [Except.bind, renameFile, hread]
    rcases nameFile_cases (locate_congr hsame) (by rw [hget, if_neg hne]) hdirs bytes with
      ⟨fault, hfails, hfails'⟩ | ⟨front, name, m', m, hplace, hwrite, hwrite', hput, hput'⟩
    · rw [hfails, hfails']
      simp only [hundo]
      rfl
    · have hafter := get?_of_put? hput
      have hafter' := get?_of_put? hput'
      rw [← hplace] at hafter hafter'
      have hworked : m'.get? (p.parent.join working).place = some (.file bytes) := by
        rw [hafter, if_neg hne.symm, hget, if_pos rfl]
      have hread' : m'.readFile (p.parent.join working) = .ok bytes :=
        readFile_eq_ok_iff.mpr
          ⟨locate_of_keepsDirectories (keepsDirectories_of_put? hput) hthere,
            Path.wantsDirectory_join hpart p.parent, hworked⟩
      have hrest : m'.removeFile (p.parent.join working) = .ok m :=
        removeFile_eq_of_get?_eq hread' (fun q hq => by rw [hafter, hafter', hget, if_neg hq])
          (by rw [hafter', if_neg hne.symm, hfree])
      rw [hwrite, hwrite']
      simp only [hrest]

end Disk

/-! ## Files of records -/

namespace Storage

variable {s : Storage} {kind : Kind} {id working : String} {bytes : List UInt8} {d : Disk}

/-- Replaces a file by way of a working file beside it. -/
def replaceThrough (s : Storage) (working : String) (p : Path) (bytes : List UInt8) :
    DiskAction Unit := do
  DiskAction.ask fun _ => checkReady s
  DiskAction.make (Disk.makeParent p)
  DiskAction.make (Disk.replaceThrough (p.parent.join working) p bytes)

/-- Nothing has the name of a working file in the directory of a kind, once that is made. -/
def IsFree (s : Storage) (kind : Kind) (working : String) (d : Disk) : Prop :=
  (Disk.makeDirectory (s.layout.kindDirectory kind) d).2.get?
    ((s.layout.kindDirectory kind).join working).place = none

/-- Any file is replaced by way of a working file as in one step. -/
theorem replaceThrough_eq {p : Path} (hworking : IsWorkingName working)
    (hne : p.place ≠ (p.parent.join working).place)
    (hfree : (Disk.makeParent p d).2.get? (p.parent.join working).place = none) :
    s.replaceThrough working p bytes d = s.replace p bytes d := by
  have hlast {m : Disk} (hm : m.get? (p.parent.join working).place = none) :
      DiskAction.make (Disk.replaceThrough (p.parent.join working) p bytes) m =
        DiskAction.change (fun d => d.replaceFile p bytes) m := by
    rw [DiskAction.make, DiskAction.change, Disk.replaceThrough_eq hworking hne hm]
    cases m.replaceFile p bytes with
    | error fault => rfl
    | ok d' => rfl
  rw [replaceThrough, replace, run_bind, run_bind, DiskAction.ask]
  cases s.checkReady with
  | error e => rfl
  | ok =>
    simp only []
    rw [run_bind, run_bind, DiskAction.make]
    generalize Disk.makeParent p d = made at hfree
    obtain ⟨result, m⟩ := made
    cases result with
    | error fault => rfl
    | ok => exact hlast hfree

theorem replaceThrough_record (hid : isValidId id = true) (hworking : IsWorkingName working)
    (hfree : s.IsFree kind working d) :
    s.replaceThrough working (s.layout.record kind id) bytes d =
      s.replace (s.layout.record kind id) bytes d := by
  have hparent : (s.layout.record kind id).parent = s.layout.kindDirectory kind :=
    Path.parent_join_join (isName_directory kind) (isName_recordFile hid) s.layout.root
  apply replaceThrough_eq hworking
  · rw [hparent, Layout.record, Path.place_join (isName_recordFile hid),
      Path.place_join hworking.isName]
    simpa using hworking.ne_recordFile hid
  · rw [Disk.makeParent, hparent]
    exact hfree

variable {r : Record kind}

/-- Stores a record that is not there yet by way of a working file. -/
def createThrough (s : Storage) (working : String) (r : Record kind) : DiskAction Unit := do
  let p ← DiskAction.ask (s.absentPath kind r.id)
  s.replaceThrough working p r.toBytes

/-- Replaces a record that is there by way of a working file. -/
def updateThrough (s : Storage) (working : String) (r : Record kind) : DiskAction Unit := do
  let p ← DiskAction.ask (s.presentPath kind r.id)
  s.replaceThrough working p r.toBytes

theorem createThrough_eq (hworking : IsWorkingName working) (hfree : s.IsFree kind working d) :
    s.createThrough working r d = s.createRecord r d := by
  rw [createThrough, createRecord, run_bind, run_bind, DiskAction.ask]
  cases hpath : s.absentPath kind r.id d with
  | error e => rfl
  | ok p =>
    obtain ⟨hid, rfl⟩ := eq_record_of_absentPath hpath
    exact replaceThrough_record hid hworking hfree

theorem updateThrough_eq (hworking : IsWorkingName working) (hfree : s.IsFree kind working d) :
    s.updateThrough working r d = s.updateRecord r d := by
  rw [updateThrough, updateRecord, run_bind, run_bind, DiskAction.ask]
  cases hpath : s.presentPath kind r.id d with
  | error e => rfl
  | ok p =>
    obtain ⟨hid, rfl⟩ := eq_record_of_presentPath hpath
    exact replaceThrough_record hid hworking hfree

/-! ## Records that have files -/

/-- The file of a record can be replaced exactly where a working file can be made beside it. -/
theorem exists_replaceFile_iff (hid : isValidId id = true)
    (hfile : d.isFile (s.layout.record kind id) = true) (bytes : List UInt8) :
    (∃ d', d.replaceFile (s.layout.record kind id) bytes = .ok d') ↔ s.layout.Writable kind := by
  have hparent : (s.layout.record kind id).parent = s.layout.kindDirectory kind :=
    Path.parent_join_join (isName_directory kind) (isName_recordFile hid) s.layout.root
  rw [Disk.replaceFile, hparent, Disk.locate_join isWorkingName_workingName.isName,
    Layout.descend_of_isFile hid hfile]
  cases hcheck : checkPath ((s.layout.kindDirectory kind).join workingName) with
  | error fault => simp [Except.bind, Layout.Writable, hcheck]
  | ok =>
    obtain ⟨old, hread⟩ := Disk.isFile_eq_true_iff.mp hfile
    obtain ⟨hlocate, hwants, hget⟩ := Disk.readFile_eq_ok_iff.mp hread
    have hplace := Path.place_join (isName_recordFile hid) (s.layout.kindDirectory kind)
    rw [← Layout.record] at hplace
    have hdirectory : d.get? (s.layout.kindDirectory kind).place = some .directory :=
      Disk.get?_of_descend d.get?_nil (Layout.descend_of_isFile hid hfile)
    obtain ⟨d', hput⟩ := Disk.exists_put? hdirectory (by rw [← hplace, hget]; simp) (.file bytes)
    have hname : d.nameFile (s.layout.record kind id) bytes = .ok d' := by
      refine Disk.putFile_eq_ok_iff.mpr
        ⟨Path.endsInDot_join (isName_recordFile hid) _, hlocate, hwants, ?_⟩
      rw [hplace]
      exact Disk.writeAt_of_put? hput
    exact iff_of_true ⟨d', hname⟩ hcheck

theorem updateRecord_of_isFile (hready : s.initialized = true) (hid : isValidId r.id = true)
    (hfile : d.isFile (s.layout.record kind r.id) = true) :
    s.updateRecord r d =
      match d.replaceFile (s.layout.record kind r.id) r.toBytes with
      | .ok d' => (.ok (), d')
      | .error fault => (.error (.ofFault fault), d) := by
  have hpath : DiskAction.ask (s.presentPath kind r.id) d =
      (.ok (s.layout.record kind r.id), d) := by
    rw [DiskAction.ask, presentPath_of_isFile hid hfile]
  have hask : DiskAction.ask (fun _ => s.checkReady) d = (.ok (), d) := by
    rw [DiskAction.ask, checkReady, if_pos hready]
  have hfind := Layout.find_kindDirectory_of_isFile hid hfile
  obtain ⟨hrooted, hdirectory⟩ := Layout.rooted_of_find_kindDirectory hfind
  have hmade : Disk.makeParent (s.layout.record kind r.id) d = (.ok (), d) := by
    rw [Layout.makeParent_record_of_root hrooted hid, (Disk.find_eq_directory_iff.mp hfind).1,
      hdirectory]
  have hmake : DiskAction.make (Disk.makeParent (s.layout.record kind r.id)) d = (.ok (), d) := by
    rw [DiskAction.make, hmade]
    rfl
  rw [updateRecord, run_bind_of_ok hpath, replace, run_bind_of_ok hask, run_bind_of_ok hmake]
  cases hreplace : d.replaceFile (s.layout.record kind r.id) r.toBytes with
  | ok d' => simp only [DiskAction.change, hreplace]
  | error fault => simp only [DiskAction.change, hreplace]

/-- A record that has a file is replaced if a working file can be made, and else nothing is done. -/
theorem updateRecord_cases_of_isFile (hready : s.initialized = true) (hid : isValidId r.id = true)
    (hfile : d.isFile (s.layout.record kind r.id) = true) :
    (s.layout.Writable kind ∧
        ∃ d', s.updateRecord r d = (.ok (), d') ∧ PutsRecord s.layout.base r d d') ∨
      (¬s.layout.Writable kind ∧ ∃ e, s.updateRecord r d = (.error e, d)) := by
  rw [updateRecord_of_isFile hready hid hfile, ← exists_replaceFile_iff hid hfile r.toBytes]
  cases hreplace : d.replaceFile (s.layout.record kind r.id) r.toBytes with
  | ok d' => exact Or.inl ⟨⟨d', rfl⟩, d', rfl, putsRecord_of_replaceFile hid hreplace⟩
  | error fault => exact Or.inr ⟨by simp, _, rfl⟩

end Storage

end SealedVault
