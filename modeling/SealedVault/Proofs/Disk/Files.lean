import SealedVault.Proofs.Disk.Paths
import SealedVault.Proofs.Disk.Walking

/-!
# Files after a change

Where a path leads, if it leads anywhere, follows from its names alone. So an operation on a path
changes no file but the one at that place, whatever else is on the disk: directories may be
missing, and files may stand in their way.
-/

namespace SealedVault

/-- Where names lead from a place. Two dots lead back to the containing directory. -/
def follow (place : Place) : List String → Place
  | [] => place
  | name :: rest => follow (if name = ".." then place.dropLast else place ++ [name]) rest

theorem follow_append (place : Place) (names more : List String) :
    follow place (names ++ more) = follow (follow place names) more := by
  induction names generalizing place with
  | nil => rfl
  | cons name rest ih => exact ih _

namespace Path

/-- The place that a path leads to, if it leads anywhere. -/
def place (p : Path) : Place := follow [] p.names

theorem place_join {part : String} (h : IsName part) (p : Path) :
    (p.join part).place = p.place ++ [part] := by
  rw [place, names_join h, follow_append, follow, if_neg h.ne_dots]
  rfl

end Path

namespace Disk

variable {d d' d'' : Disk} {place q : Place} {names : List String} {p : Path} {bytes : List UInt8}

/-! ## Walks -/

theorem eq_follow_of_walk (h : d.walk place names = .ok q) : q = follow place names := by
  induction names generalizing place with
  | nil =>
    cases h
    rfl
  | cons name rest ih =>
    rw [walk] at h
    rw [follow]
    split at h
    next hdots =>
      rw [if_pos hdots]
      exact ih h
    next hdots =>
      rw [if_neg hdots]
      split at h
      · cases h
      split at h
      next hlast =>
        rw [hlast]
        cases h
        rfl
      split at h
      · exact ih h
      · cases h
      · cases h

theorem eq_follow_of_descend (h : d.descend place names = .ok q) : q = follow place names := by
  induction names generalizing place with
  | nil =>
    cases h
    rfl
  | cons name rest ih =>
    rw [descend] at h
    rw [follow]
    split at h
    next hdots =>
      rw [if_pos hdots]
      exact ih h
    next hdots =>
      rw [if_neg hdots]
      split at h
      · cases h
      split at h
      · exact ih h
      · cases h
      · cases h

/-- A walk that ends somewhere ends there on any disk that has the same directories and more. -/
theorem walk_of_keepsDirectories
    (hkeeps : KeepsDirectories d d') (h : d.walk place names = .ok q) :
    d'.walk place names = .ok q := by
  induction names generalizing place with
  | nil => exact h
  | cons name rest ih =>
    rw [walk] at h ⊢
    split at h
    next hdots =>
      rw [if_pos hdots]
      exact ih h
    next hdots =>
      rw [if_neg hdots]
      split at h
      · cases h
      next hshort =>
        rw [if_neg hshort]
        split at h
        next hlast =>
          rw [if_pos hlast]
          exact h
        next hlast =>
          rw [if_neg hlast]
          split at h
          next hget =>
            rw [hkeeps _ hget]
            exact ih h
          · cases h
          · cases h

theorem locate_eq_ok_iff :
    d.locate p = .ok q ↔ checkPath p = .ok () ∧ d.walk [] p.names = .ok q := by
  rw [locate]
  cases checkPath p with
  | error fault => simp [Except.bind]
  | ok => simp [Except.bind]

theorem eq_place_of_locate (h : d.locate p = .ok q) : q = p.place :=
  eq_follow_of_walk (locate_eq_ok_iff.mp h).2

theorem locate_of_keepsDirectories
    (hkeeps : KeepsDirectories d d') (h : d.locate p = .ok q) : d'.locate p = .ok q := by
  obtain ⟨hcheck, hwalk⟩ := locate_eq_ok_iff.mp h
  exact locate_eq_ok_iff.mpr ⟨hcheck, walk_of_keepsDirectories hkeeps hwalk⟩

/-- A directory is found if and only if the path can be followed and leads along directories. -/
theorem find_eq_directory_iff :
    d.find p = .ok .directory ↔ checkPath p = .ok () ∧ d.descend [] p.names = .ok p.place := by
  rw [find]
  constructor
  · intro h
    cases hlocate : d.locate p with
    | error fault =>
      rw [hlocate] at h
      cases h
    | ok q =>
      obtain ⟨hcheck, hwalk⟩ := locate_eq_ok_iff.mp hlocate
      rw [hlocate] at h
      obtain rfl := eq_place_of_locate hlocate
      simp only [Except.bind] at h
      split at h
      · cases h
      next hget => exact ⟨hcheck, descend_of_walk hwalk hget⟩
      · split at h <;> cases h
  · rintro ⟨hcheck, hdescend⟩
    rw [locate_eq_ok_iff.mpr ⟨hcheck, walk_of_descend hdescend⟩]
    simp only [Except.bind, get?_of_descend d.get?_nil hdescend]

/-- A directory is still found after a change that keeps directories. -/
theorem find_directory_of_keepsDirectories (hkeeps : KeepsDirectories d d')
    (h : d.find p = .ok .directory) : d'.find p = .ok .directory := by
  obtain ⟨hcheck, hdescend⟩ := find_eq_directory_iff.mp h
  exact find_eq_directory_iff.mpr ⟨hcheck, descend_of_keepsDirectories hkeeps hdescend⟩

/-- What a joined path leads to along directories is in what the path itself leads to. -/
theorem descend_join_iff {part : String} (hpart : Path.IsName part)
    (hshort : ¬nameLimit < part.utf8ByteSize) :
    d.descend [] (p.join part).names = .ok (p.join part).place ↔
      d.descend [] p.names = .ok p.place ∧ d.get? (p.place ++ [part]) = some .directory := by
  rw [Path.names_join hpart, Path.place_join hpart, descend_append]
  cases hdescend : d.descend [] p.names with
  | error fault => simp [Except.bind]
  | ok q =>
    obtain rfl : q = p.place := eq_follow_of_descend hdescend
    rw [Except.bind, descend, if_neg hpart.ne_dots, if_neg hshort]
    rcases d.get? (p.place ++ [part]) with _ | bytes | _
    · simp
    · simp
    · simp [descend]

/-- A file can be read if and only if the path to it can be followed and it is there. -/
theorem readFile_eq_ok_iff :
    d.readFile p = .ok bytes ↔
      d.locate p = .ok p.place ∧ p.wantsDirectory = false ∧
        d.get? p.place = some (.file bytes) := by
  rw [readFile, find]
  cases hlocate : d.locate p with
  | error fault => simp [Except.bind]
  | ok q =>
    rw [eq_place_of_locate hlocate]
    simp only [Except.bind, true_and]
    rcases d.get? p.place with _ | old | _
    · simp
    · cases p.wantsDirectory <;> simp
    · simp

theorem isFile_eq_true_iff : d.isFile p = true ↔ ∃ bytes, d.readFile p = .ok bytes := by
  rw [isFile, readFile]
  rcases d.find p with fault | old | _
  · simp
  · simp
  · simp

/-! ## The view of files -/

/-- The bytes of the file at a place. -/
def fileAt? (d : Disk) (place : Place) : Option (List UInt8) :=
  match d.get? place with
  | some (.file bytes) => some bytes
  | _ => none

theorem fileAt?_eq_some_iff : d.fileAt? place = some bytes ↔ d.get? place = some (.file bytes) := by
  rw [fileAt?]
  rcases d.get? place with _ | old | _
  · simp
  · simp
  · simp

theorem fileAt?_eq_of_get?_eq (h : d'.get? q = d.get? q) : d'.fileAt? q = d.fileAt? q := by
  rw [fileAt?, fileAt?, h]

/-- A file that can be read is read where directories stay and its bytes do. -/
theorem readFile_of_keepsDirectories
    (hkeeps : KeepsDirectories d d') (hsame : d'.fileAt? p.place = d.fileAt? p.place)
    (hread : d.readFile p = .ok bytes) :
    d'.readFile p = .ok bytes := by
  obtain ⟨hlocate, hwants, hget⟩ := readFile_eq_ok_iff.mp hread
  rw [← fileAt?_eq_some_iff, ← hsame] at hget
  exact readFile_eq_ok_iff.mpr ⟨locate_of_keepsDirectories hkeeps hlocate, hwants,
    fileAt?_eq_some_iff.mp hget⟩

/-- Every file is what it was, and none is new. -/
def SameFiles (d d' : Disk) : Prop := ∀ q, d'.fileAt? q = d.fileAt? q

/-- The file at a place is as told afterwards, and every other file is what it was. -/
def SetsFile (place : Place) (result : Option (List UInt8)) (d d' : Disk) : Prop :=
  ∀ q, d'.fileAt? q = if q = place then result else d.fileAt? q

theorem SameFiles.refl (d : Disk) : SameFiles d d := fun _ => rfl

theorem SameFiles.setsFile {result : Option (List UInt8)}
    (h : SameFiles d d') (h' : SetsFile place result d' d'') : SetsFile place result d d'' := by
  intro q
  rw [h' q, h q]

theorem OnlyMakesDirectories.sameFiles (h : OnlyMakesDirectories d d') : SameFiles d d' := by
  intro q
  apply Option.ext
  intro bytes
  rw [fileAt?_eq_some_iff, fileAt?_eq_some_iff]
  exact h.files q bytes

theorem setsFile_of_put? {name : String} (h : d.put? place name (.file bytes) = some d') :
    SetsFile (place ++ [name]) (some bytes) d d' := by
  intro q
  rw [fileAt?, get?_of_put? h]
  by_cases hq : q = place ++ [name]
  · rw [if_pos hq, if_pos hq]
  · rw [if_neg hq, if_neg hq]
    rfl

/-! ## Writing and taking away -/

theorem put?_of_writeAt (h : d.writeAt place bytes = .ok d') :
    ∃ front name, place = front ++ [name] ∧ d.put? front name (.file bytes) = some d' := by
  rw [writeAt] at h
  split at h
  next hput =>
    cases h
    obtain ⟨name, hname, hput⟩ := Option.bind_eq_some_iff.mp hput
    exact ⟨place.dropLast, name, (List.dropLast_append_getLast? name hname).symm, hput⟩
  · cases h

theorem writeAt_of_put? {name : String} (h : d.put? place name (.file bytes) = some d') :
    d.writeAt (place ++ [name]) bytes = .ok d' := by
  rw [writeAt, List.getLast?_concat, List.dropLast_concat, Option.bind_some, h]

theorem writeAt_of_directory (h : d.get? place = some .directory) (bytes : List UInt8) :
    d.writeAt place bytes = .error .isDirectory := by
  cases hwrite : d.writeAt place bytes with
  | ok d' =>
    obtain ⟨front, name, rfl, hput⟩ := put?_of_writeAt hwrite
    exact absurd h (ne_directory_of_put? hput)
  | error fault =>
    rw [writeAt] at hwrite
    split at hwrite
    · cases hwrite
    · rw [← hwrite]

/-- A path without a name at its end leads to a directory, if it leads anywhere. -/
theorem get?_of_endsUnnamed (hunnamed : p.endsUnnamed = true) (h : d.locate p = .ok q) :
    d.get? q = some .directory := by
  obtain ⟨-, hwalk⟩ := locate_eq_ok_iff.mp h
  cases hlast : p.names.getLast? with
  | none =>
    rw [List.getLast?_eq_none_iff.mp hlast] at hwalk
    cases hwalk
    exact d.get?_nil
  | some name =>
    obtain rfl : name = ".." := by simpa [Path.endsUnnamed, hlast] using hunnamed
    rw [← List.dropLast_append_getLast? ".." hlast, walk_append] at hwalk
    cases hdescend : d.descend [] p.names.dropLast with
    | error fault =>
      rw [hdescend] at hwalk
      cases hwalk
    | ok place =>
      rw [hdescend] at hwalk
      cases hwalk
      exact get?_dropLast_of_directory (get?_of_descend d.get?_nil hdescend)

/-- A file is put at the place of its path, if that can be followed and can lead to a file. -/
theorem putFile_eq_ok_iff {unnamed slash : Fault} :
    d.putFile unnamed slash p bytes = .ok d' ↔
      p.endsInDot = false ∧ d.locate p = .ok p.place ∧ p.wantsDirectory = false ∧
        d.writeAt p.place bytes = .ok d' := by
  rw [putFile]
  cases p.endsInDot with
  | true => cases d.find p <;> simp [Except.bind]
  | false =>
    cases hlocate : d.locate p with
    | error fault => simp [Except.bind]
    | ok q =>
      obtain rfl := eq_place_of_locate hlocate
      cases hunnamed : p.endsUnnamed with
      | true =>
        have hfails := writeAt_of_directory (get?_of_endsUnnamed hunnamed hlocate) bytes
        simp [Except.bind, hfails]
      | false => cases p.wantsDirectory <;> simp [Except.bind]

theorem writeFile_eq_ok_iff :
    d.writeFile p bytes = .ok d' ↔
      p.endsInDot = false ∧ d.locate p = .ok p.place ∧ p.wantsDirectory = false ∧
        d.writeAt p.place bytes = .ok d' :=
  putFile_eq_ok_iff

/-- A path that ends in a name leads to the place of a file. -/
theorem putFile_join {part : String} (hpart : Path.IsName part) (dir : Path)
    (unnamed slash : Fault) :
    d.putFile unnamed slash (dir.join part) bytes =
      (d.locate (dir.join part)).bind fun place => d.writeAt place bytes := by
  rw [putFile, Path.endsInDot_join hpart, Path.endsUnnamed_join hpart,
    Path.wantsDirectory_join hpart]
  rfl

/-- A file can be put under a name where it can be written. -/
theorem nameFile_eq_ok_iff : d.nameFile p bytes = .ok d' ↔ d.writeFile p bytes = .ok d' :=
  putFile_eq_ok_iff.trans putFile_eq_ok_iff.symm

theorem put?_of_writeFile (h : d.writeFile p bytes = .ok d') :
    ∃ front name, p.place = front ++ [name] ∧ d.put? front name (.file bytes) = some d' :=
  put?_of_writeAt (writeFile_eq_ok_iff.mp h).2.2.2

theorem writeFile_of_replaceFile (h : d.replaceFile p bytes = .ok d') :
    d.writeFile p bytes = .ok d' := by
  rw [replaceFile] at h
  cases hworking : d.locate (p.parent.join workingName) with
  | error fault =>
    rw [hworking] at h
    cases h
  | ok q =>
    rw [hworking] at h
    exact nameFile_eq_ok_iff.mp h

theorem put?_of_replaceFile (h : d.replaceFile p bytes = .ok d') :
    ∃ front name, p.place = front ++ [name] ∧ d.put? front name (.file bytes) = some d' :=
  put?_of_writeFile (writeFile_of_replaceFile h)

/-- A file that was replaced has the new bytes. -/
theorem readFile_of_replaceFile (h : d.replaceFile p bytes = .ok d') :
    d'.readFile p = .ok bytes := by
  obtain ⟨-, hlocate, hwants, -⟩ := writeFile_eq_ok_iff.mp (writeFile_of_replaceFile h)
  obtain ⟨front, name, hplace, hput⟩ := put?_of_replaceFile h
  exact readFile_eq_ok_iff.mpr
    ⟨locate_of_keepsDirectories (keepsDirectories_of_put? hput) hlocate, hwants,
      by rw [get?_of_put? hput, if_pos hplace]⟩

theorem put?_of_appendFile (h : d.appendFile p bytes = .ok d') :
    ∃ front name content, p.place = front ++ [name] ∧
      d.put? front name (.file content) = some d' := by
  obtain ⟨front, name, hplace, hput⟩ := put?_of_writeFile h
  exact ⟨front, name, _, hplace, hput⟩

theorem setsFile_of_writeFile (h : d.writeFile p bytes = .ok d') :
    SetsFile p.place (some bytes) d d' := by
  obtain ⟨front, name, hplace, hput⟩ := put?_of_writeFile h
  rw [hplace]
  exact setsFile_of_put? hput

theorem setsFile_of_replaceFile (h : d.replaceFile p bytes = .ok d') :
    SetsFile p.place (some bytes) d d' := by
  obtain ⟨front, name, hplace, hput⟩ := put?_of_replaceFile h
  rw [hplace]
  exact setsFile_of_put? hput

/-- What is read from a file that can be written are the bytes that it has. -/
theorem toOption_readFile_of_writeFile (h : d.writeFile p bytes = .ok d') :
    (d.readFile p).toOption = d.fileAt? p.place := by
  obtain ⟨-, hlocate, hwants, -⟩ := writeFile_eq_ok_iff.mp h
  apply Option.ext
  intro old
  rw [fileAt?_eq_some_iff]
  constructor
  · intro hread
    cases hresult : d.readFile p with
    | error fault =>
      rw [hresult] at hread
      cases hread
    | ok found =>
      rw [hresult] at hread
      cases hread
      exact (readFile_eq_ok_iff.mp hresult).2.2
  · intro hget
    rw [readFile_eq_ok_iff.mpr ⟨hlocate, hwants, hget⟩]
    rfl

/-- Bytes are added behind those that the file had, if it was there. -/
theorem setsFile_of_appendFile (h : d.appendFile p bytes = .ok d') :
    SetsFile p.place (some ((d.fileAt? p.place).getD [] ++ bytes)) d d' := by
  rw [appendFile] at h
  rw [← toOption_readFile_of_writeFile h]
  exact setsFile_of_writeFile h

theorem exists_writeAt (h : d.writeAt place bytes = .ok d') (more : List UInt8) :
    ∃ d'', d.writeAt place more = .ok d'' := by
  obtain ⟨front, name, rfl, hput⟩ := put?_of_writeAt h
  obtain ⟨d'', hmore⟩ := exists_put?_of_put? hput (.file more)
  exact ⟨d'', writeAt_of_put? hmore⟩

theorem exists_writeFile (h : d.writeFile p bytes = .ok d') (more : List UInt8) :
    ∃ d'', d.writeFile p more = .ok d'' := by
  obtain ⟨hdot, hlocate, hwants, hwrite⟩ := writeFile_eq_ok_iff.mp h
  obtain ⟨d'', hmore⟩ := exists_writeAt hwrite more
  exact ⟨d'', writeFile_eq_ok_iff.mpr ⟨hdot, hlocate, hwants, hmore⟩⟩

/-- A file that can be written can be written where directories stay, unless there is a directory
in its place. -/
theorem exists_writeFile_of_keepsDirectories (hkeeps : KeepsDirectories d d')
    (hfree : d'.get? p.place ≠ some .directory) (h : d.writeFile p bytes = .ok d'') :
    ∃ m, d'.writeFile p bytes = .ok m := by
  obtain ⟨hdot, hlocate, hwants, -⟩ := writeFile_eq_ok_iff.mp h
  obtain ⟨front, name, hplace, hput⟩ := put?_of_writeFile h
  rw [hplace] at hfree
  obtain ⟨m, hm⟩ := exists_put? (hkeeps _ (directory_of_put? hput)) hfree (.file bytes)
  refine ⟨m, writeFile_eq_ok_iff.mpr
    ⟨hdot, locate_of_keepsDirectories hkeeps hlocate, hwants, ?_⟩⟩
  rw [hplace]
  exact writeAt_of_put? hm

/-- Whether a file can be extended does not depend on what is added. -/
theorem exists_appendFile (h : d.appendFile p bytes = .ok d') (more : List UInt8) :
    ∃ d'', d.appendFile p more = .ok d'' :=
  exists_writeFile h _

/-- A file that can be read can be taken away. -/
theorem exists_removeFile (h : d.readFile p = .ok bytes) :
    ∃ d', d.removeFile p = .ok d' ∧ d.removeFile? p.place = some d' := by
  obtain ⟨hlocate, -, hget⟩ := readFile_eq_ok_iff.mp h
  obtain ⟨d', hremove⟩ := exists_removeFile? hget
  refine ⟨d', ?_, hremove⟩
  rw [removeFile, h, hlocate]
  simp only [Except.bind, hremove]

/-- A file that was taken away was there. -/
theorem removeFile?_of_removeFile (h : d.removeFile p = .ok d') :
    d.removeFile? p.place = some d' := by
  rw [removeFile] at h
  cases hread : d.readFile p with
  | error fault =>
    rw [hread] at h
    cases h
  | ok old =>
    rw [hread, (readFile_eq_ok_iff.mp hread).1] at h
    simp only [Except.bind] at h
    split at h
    next hremove =>
      cases h
      exact hremove
    · cases h

end Disk

end SealedVault
