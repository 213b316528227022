import SealedVault.Proofs.Disk.Files
import SealedVault.Store.Storage

/-!
# The data directory

Once the directories of the data directory have been made, its path leads to one place, and the path
to a record leads to one file below that place. Whether the path can be followed at all does not
depend on the disk.
-/

namespace SealedVault

open Disk (Fault KeepsDirectories checkPath nameLimit)
open SealedVault.Path (IsName)

/-! ## Names -/

theorem isName_of_mem {part : String} {c : Char}
    (hmem : c ∈ part.toList) (hdot : c ≠ '.') (hslash : '/' ∉ part.toList) : IsName part where
  ne_empty := by
    rintro rfl
    simp at hmem
  ne_dot := by
    rintro rfl
    simp [hdot] at hmem
  ne_dots := by
    rintro rfl
    simp [hdot] at hmem
  no_slash := hslash

theorem isName_recordFile {id : String} (h : isValidId id = true) : IsName (id ++ ".json") := by
  apply isName_of_mem (c := 'j') (by simp) (by decide)
  simp only [isValidId, Bool.and_eq_true, List.all_eq_true] at h
  intro hmem
  rw [String.toList_append, List.mem_append] at hmem
  rcases hmem with hmem | hmem
  · exact absurd (h.2 _ hmem) (by decide)
  · simp at hmem

theorem isName_directory (kind : Kind) : IsName kind.directory := by
  cases kind <;> exact ⟨by decide, by decide, by decide, by decide⟩

theorem isName_audit : IsName "audit" := ⟨by decide, by decide, by decide, by decide⟩

theorem isName_workingName : IsName Disk.workingName :=
  ⟨by decide, by decide, by decide, by decide⟩

theorem size_directory (kind : Kind) : ¬nameLimit < kind.directory.utf8ByteSize := by
  cases kind <;> decide

theorem directory_injective {kind kind' : Kind} (h : kind.directory = kind'.directory) :
    kind = kind' := by
  cases kind <;> cases kind' <;> simp_all [Kind.directory]

theorem directory_ne_audit (kind : Kind) : kind.directory ≠ "audit" := by
  cases kind <;> decide

namespace Layout

variable {l : Layout} {base : Place} {d d' : Disk} {kind : Kind} {id : String}

theorem kindDirectory_mem (l : Layout) (kind : Kind) : l.kindDirectory kind ∈ l.directories := by
  cases kind <;> simp [directories, Kind.all]

theorem auditDirectory_mem (l : Layout) : l.auditDirectory ∈ l.directories := by
  simp [directories]

/-- The path of the data directory leads to the place `base`, and its directories are there. -/
structure StandsAt (l : Layout) (base : Place) (d : Disk) : Prop where
  root : d.descend [] l.root.names = .ok base
  kindDirectory (kind : Kind) : d.get? (base ++ [kind.directory]) = some .directory
  audit : d.get? (base ++ ["audit"]) = some .directory
  checkKind (kind : Kind) : checkPath (l.kindDirectory kind) = .ok ()

theorem StandsAt.of_keepsDirectories
    (h : l.StandsAt base d) (hkeeps : KeepsDirectories d d') : l.StandsAt base d' where
  root := Disk.descend_of_keepsDirectories hkeeps h.root
  kindDirectory kind := hkeeps _ (h.kindDirectory kind)
  audit := hkeeps _ h.audit
  checkKind := h.checkKind

/-! ## Paths to records -/

/-- The place of the file of a record. -/
def recordPlace (base : Place) (kind : Kind) (id : String) : Place :=
  base ++ [kind.directory] ++ [id ++ ".json"]

theorem recordPlace_injective {kind' : Kind} {id' : String}
    (h : recordPlace base kind id = recordPlace base kind' id') : kind = kind' ∧ id = id' := by
  simp only [recordPlace, List.append_assoc, List.append_cancel_left_eq, List.cons_append,
    List.nil_append, List.cons.injEq, and_true] at h
  exact ⟨directory_injective h.1, by simpa using h.2⟩

/-- The path to a record is short enough, and has no character that no path can have. -/
def Fits (l : Layout) (kind : Kind) (id : String) : Prop :=
  checkPath (l.record kind id) = .ok () ∧ ¬nameLimit < (id ++ ".json").utf8ByteSize

/-- So is the path to the working file beside the records of a kind. -/
def Writable (l : Layout) (kind : Kind) : Prop :=
  checkPath ((l.kindDirectory kind).join Disk.workingName) = .ok ()

theorem names_kindDirectory (l : Layout) (kind : Kind) :
    (l.kindDirectory kind).names = l.root.names ++ [kind.directory] :=
  Path.names_join (isName_directory kind) l.root

/-- A path with one more name than the directory of a kind leads into that directory. -/
theorem locate_join_kindDirectory
    (hroot : d.descend [] l.root.names = .ok base)
    (hkind : d.get? (base ++ [kind.directory]) = some .directory) {name : String}
    (hname : IsName name) :
    d.locate ((l.kindDirectory kind).join name) =
      (checkPath ((l.kindDirectory kind).join name)).bind fun _ =>
        if nameLimit < name.utf8ByteSize then .error .tooLong
        else .ok (base ++ [kind.directory] ++ [name]) := by
  have hwalk : d.walk base [kind.directory, name] =
      if nameLimit < name.utf8ByteSize then .error .tooLong
      else .ok (base ++ [kind.directory] ++ [name]) := by
    rw [Disk.walk, if_neg (isName_directory kind).ne_dots, if_neg (size_directory kind),
      if_neg (List.cons_ne_nil _ _), hkind]
    simp only
    rw [Disk.walk, if_neg hname.ne_dots, if_pos rfl]
  rw [Disk.locate, Path.names_join hname, names_kindDirectory, List.append_assoc,
    List.singleton_append, Disk.walk_append, hroot]
  congr 1
  funext _
  exact hwalk

theorem locate_record
    (h : l.StandsAt base d) (hid : isValidId id = true) (hfits : l.Fits kind id) :
    d.locate (l.record kind id) = .ok (recordPlace base kind id) := by
  rw [record, locate_join_kindDirectory h.root (h.kindDirectory kind) (isName_recordFile hid),
    ← record, hfits.1, if_neg hfits.2]
  rfl

/-- The path to a record that does not fit cannot be followed. -/
theorem exists_locate_record_eq_error
    (h : l.StandsAt base d) (hid : isValidId id = true) (hfits : ¬l.Fits kind id) :
    ∃ fault, d.locate (l.record kind id) = .error fault := by
  rw [record, locate_join_kindDirectory h.root (h.kindDirectory kind) (isName_recordFile hid),
    ← record]
  cases hcheck : checkPath (l.record kind id) with
  | error fault => exact ⟨fault, rfl⟩
  | ok =>
    have hlong : nameLimit < (id ++ ".json").utf8ByteSize :=
      Classical.byContradiction fun hshort => hfits ⟨hcheck, hshort⟩
    exact ⟨.tooLong, if_pos hlong⟩

theorem wantsDirectory_record (hid : isValidId id = true) :
    (l.record kind id).wantsDirectory = false :=
  Path.wantsDirectory_join (isName_recordFile hid) _

theorem find_record
    (h : l.StandsAt base d) (hid : isValidId id = true) (hfits : l.Fits kind id) :
    d.find (l.record kind id) =
      match d.get? (recordPlace base kind id) with
      | some e => .ok e
      | none => .error .missing := by
  rw [Disk.find, locate_record h hid hfits, wantsDirectory_record hid, Except.bind]
  cases d.get? (recordPlace base kind id) with
  | none => rfl
  | some e => cases e <;> rfl

theorem exists_find_record_eq_error
    (h : l.StandsAt base d) (hid : isValidId id = true) (hfits : ¬l.Fits kind id) :
    ∃ fault, d.find (l.record kind id) = .error fault := by
  obtain ⟨fault, hfault⟩ := exists_locate_record_eq_error h hid hfits
  refine ⟨fault, ?_⟩
  rw [Disk.find, hfault]
  rfl

/-- There is a file for a record if and only if its path fits and a file is at its place. -/
theorem isFile_record_iff (h : l.StandsAt base d) (hid : isValidId id = true) :
    d.isFile (l.record kind id) = true ↔
      l.Fits kind id ∧ ∃ bytes, d.get? (recordPlace base kind id) = some (.file bytes) := by
  by_cases hfits : l.Fits kind id
  · rw [Disk.isFile, find_record h hid hfits]
    simp only [hfits, true_and]
    cases d.get? (recordPlace base kind id) with
    | none => simp
    | some e => cases e <;> simp
  · obtain ⟨fault, hfault⟩ := exists_find_record_eq_error h hid hfits
    rw [Disk.isFile, hfault]
    simp [hfits]

theorem readFile_record
    (h : l.StandsAt base d) (hid : isValidId id = true) (hfits : l.Fits kind id)
    {bytes : List UInt8} (hfile : d.get? (recordPlace base kind id) = some (.file bytes)) :
    d.readFile (l.record kind id) = .ok bytes := by
  rw [Disk.readFile, find_record h hid hfits, hfile]

/-! ## Writing and deleting records -/

theorem writeAt_record (bytes : List UInt8) :
    d.writeAt (recordPlace base kind id) bytes =
      match d.put? (base ++ [kind.directory]) (id ++ ".json") (.file bytes) with
      | some d' => .ok d'
      | none => .error .isDirectory := by
  have hlast : (recordPlace base kind id).getLast? = some (id ++ ".json") := by
    rw [recordPlace, List.getLast?_concat]
  have hdrop : (recordPlace base kind id).dropLast = base ++ [kind.directory] := by
    rw [recordPlace, List.dropLast_concat]
  rw [Disk.writeAt, hlast, hdrop]
  rfl

theorem nameFile_record (hid : isValidId id = true) (d : Disk) (bytes : List UInt8) :
    d.nameFile (l.record kind id) bytes =
      (d.locate (l.record kind id)).bind fun place => d.writeAt place bytes :=
  Disk.putFile_join (isName_recordFile hid) _ _ _

/-- A record's file is replaced if and only if the paths to it and to the working file fit and no
directory is in its place. -/
theorem replaceFile_record_eq_ok_iff
    (h : l.StandsAt base d) (hid : isValidId id = true) (bytes : List UInt8) :
    d.replaceFile (l.record kind id) bytes = .ok d' ↔
      l.Writable kind ∧ l.Fits kind id ∧
        d.put? (base ++ [kind.directory]) (id ++ ".json") (.file bytes) = some d' := by
  have hparent : (l.record kind id).parent = l.kindDirectory kind :=
    Path.parent_join_join (isName_directory kind) (isName_recordFile hid) l.root
  have hworking := locate_join_kindDirectory h.root (h.kindDirectory kind) isName_workingName
  rw [if_neg (by decide)] at hworking
  rw [Disk.replaceFile, hparent, hworking]
  cases hwritable : checkPath ((l.kindDirectory kind).join Disk.workingName) with
  | error fault => simp [Except.bind, Writable, hwritable]
  | ok =>
    simp only [Except.bind, Writable, hwritable, true_and, nameFile_record hid]
    by_cases hfits : l.Fits kind id
    · rw [locate_record h hid hfits]
      simp only [writeAt_record, hfits, true_and]
      split
      next hput => simp [hput]
      next hput => simp [hput]
    · obtain ⟨fault, hfault⟩ := exists_locate_record_eq_error h hid hfits
      rw [hfault]
      simp [hfits]

/-- A record's file is taken away if and only if its path fits and it is there. -/
theorem removeFile_record_eq_ok_iff
    (h : l.StandsAt base d) (hid : isValidId id = true) :
    d.removeFile (l.record kind id) = .ok d' ↔
      l.Fits kind id ∧ d.removeFile? (recordPlace base kind id) = some d' := by
  by_cases hfits : l.Fits kind id
  · rw [Disk.removeFile, Disk.readFile, find_record h hid hfits, locate_record h hid hfits]
    simp only [hfits, true_and, Except.bind]
    cases hget : d.get? (recordPlace base kind id) with
    | none =>
      constructor
      · intro heq
        cases heq
      · intro heq
        obtain ⟨bytes, hfile⟩ := Disk.exists_file_of_removeFile? heq
        rw [hget] at hfile
        cases hfile
    | some e =>
      cases e with
      | directory =>
        constructor
        · intro heq
          cases heq
        · intro heq
          obtain ⟨bytes, hfile⟩ := Disk.exists_file_of_removeFile? heq
          rw [hget] at hfile
          cases hfile
      | file bytes =>
        simp only
        split
        next hremove => simp [hremove]
        next hremove => simp [hremove]
  · obtain ⟨fault, hfault⟩ := exists_find_record_eq_error h hid hfits
    rw [Disk.removeFile, Disk.readFile, hfault]
    simp [Except.bind, hfits]

/-- Where the data directory is there, at most the directory of the kind is made for a record. -/
theorem makeParent_record_of_root
    (hroot : d.descend [] l.root.names = .ok base) (hid : isValidId id = true) :
    Disk.makeParent (l.record kind id) d =
      match checkPath (l.kindDirectory kind) with
      | .error fault => (.error fault, d)
      | .ok _ =>
        match d.get? (base ++ [kind.directory]) with
        | some .directory => (.ok (), d)
        | some (.file _) => (.error .fileExists, d)
        | none =>
          match d.put? base kind.directory .directory with
          | some d' => (.ok (), d')
          | none => (.error .notDirectory, d) := by
  have hparent : (l.record kind id).parent = l.kindDirectory kind :=
    Path.parent_join_join (isName_directory kind) (isName_recordFile hid) l.root
  have hdot : (l.kindDirectory kind).endsInDot = false :=
    Path.endsInDot_join (isName_directory kind) l.root
  rw [Disk.makeParent, hparent, Disk.makeDirectory, hdot, names_kindDirectory]
  simp only [Bool.false_eq_true, if_false]
  rw [Disk.makeAlong_of_descend hroot, Disk.makeAlong, if_neg (isName_directory kind).ne_dots,
    if_neg (size_directory kind)]
  rfl

/-- The directories on the way to a record are already there. -/
theorem makeParent_record (h : l.StandsAt base d) (hid : isValidId id = true) :
    Disk.makeParent (l.record kind id) d = (.ok (), d) := by
  rw [makeParent_record_of_root h.root hid, h.checkKind, h.kindDirectory]

end Layout

end SealedVault
