import SealedVault.Proofs.Disk.Walking
import SealedVault.Proofs.Results

/-!
# Disks of the same shape

Disks that differ in nothing but the bytes of files are walked in the same way. What can be done to
one of them can be done to the other, and what fails on one fails in the same way on the other.
-/

namespace SealedVault.Disk

variable {d d' : Disk}

/-- The same places hold files, and all else is equal. -/
def SameShape (d d' : Disk) : Prop :=
  ∀ place, d.get? place = d'.get? place ∨
    ∃ bytes bytes', d.get? place = some (.file bytes) ∧ d'.get? place = some (.file bytes')

theorem walk_of_sameShape (h : SameShape d d') (place : Place) (names : List String) :
    d.walk place names = d'.walk place names := by
  induction names generalizing place with
  | nil => rfl
  | cons name rest ih =>
    rw [walk, walk, ih, ih]
    rcases h (place ++ [name]) with heq | ⟨bytes, bytes', hfile, hfile'⟩
    · rw [heq]
    · rw [hfile, hfile']

theorem locate_of_sameShape (h : SameShape d d') (p : Path) : d.locate p = d'.locate p := by
  rw [locate, locate, walk_of_sameShape h]

/-- A search has the same result, or finds a file on both disks. -/
theorem find_cases_of_sameShape (h : SameShape d d') (p : Path) :
    d.find p = d'.find p ∨
      ∃ bytes bytes', d.find p = .ok (.file bytes) ∧ d'.find p = .ok (.file bytes') := by
  rw [find, find, locate_of_sameShape h]
  cases hplace : d'.locate p with
  | error fault => exact Or.inl rfl
  | ok place =>
    simp only [Except.bind]
    rcases h place with heq | ⟨bytes, bytes', hfile, hfile'⟩
    · exact Or.inl (by rw [heq])
    · rw [hfile, hfile']
      cases p.wantsDirectory with
      | true => exact Or.inl rfl
      | false => exact Or.inr ⟨bytes, bytes', rfl, rfl⟩

theorem isFile_of_sameShape (h : SameShape d d') (p : Path) : d.isFile p = d'.isFile p := by
  rw [isFile, isFile]
  rcases find_cases_of_sameShape h p with heq | ⟨bytes, bytes', hfile, hfile'⟩
  · rw [heq]
  · rw [hfile, hfile']

/-! ## Outcomes -/

theorem get?_directory_iff_of_sameShape (h : SameShape d d') (place : Place) :
    d.get? place = some .directory ↔ d'.get? place = some .directory := by
  rcases h place with heq | ⟨bytes, bytes', hfile, hfile'⟩
  · rw [heq]
  · simp [hfile, hfile']

theorem find_of_sameShape (h : SameShape d d') (p : Path) :
    SameOutcome (d.find p) (d'.find p) := by
  rcases find_cases_of_sameShape h p with heq | ⟨bytes, bytes', hfile, hfile'⟩
  · rw [heq]
    exact .refl _
  · rw [hfile, hfile']
    rfl

theorem readFile_of_sameShape (h : SameShape d d') (p : Path) :
    SameOutcome (d.readFile p) (d'.readFile p) := by
  rw [readFile, readFile]
  rcases find_cases_of_sameShape h p with heq | ⟨bytes, bytes', hfile, hfile'⟩
  · rw [heq]
    exact .refl _
  · rw [hfile, hfile']
    rfl

theorem isSome_put?_of_sameShape (h : SameShape d d') (place : Place) (name : String)
    (e e' : Entry) : (d.put? place name e).isSome = (d'.put? place name e').isSome :=
  isSome_put?_congr (get?_directory_iff_of_sameShape h _) (get?_directory_iff_of_sameShape h _)

theorem isSome_removeFile?_of_sameShape (h : SameShape d d') (place : Place) :
    (d.removeFile? place).isSome = (d'.removeFile? place).isSome := by
  have hiff (d : Disk) : (d.removeFile? place).isSome = true ↔
      ∃ bytes, d.get? place = some (.file bytes) := by
    rw [Option.isSome_iff_exists]
    constructor
    · rintro ⟨m, hremove⟩
      exact exists_file_of_removeFile? hremove
    · rintro ⟨bytes, hfile⟩
      exact exists_removeFile? hfile
  rw [Bool.eq_iff_iff, hiff, hiff]
  rcases h place with heq | ⟨bytes, bytes', hfile, hfile'⟩
  · rw [heq]
  · simp [hfile, hfile']

theorem writeAt_of_sameShape (h : SameShape d d') (place : Place) (bytes bytes' : List UInt8) :
    SameOutcome (d.writeAt place bytes) (d'.writeAt place bytes') := by
  rw [writeAt, writeAt]
  cases place.getLast? with
  | none => rfl
  | some name =>
    simp only [Option.bind_some]
    rcases cases_of_isSome_eq
        (isSome_put?_of_sameShape h place.dropLast name (.file bytes) (.file bytes')) with
      ⟨hput, hput'⟩ | ⟨m, m', hput, hput'⟩
    · rw [hput, hput']
      rfl
    · rw [hput, hput']
      rfl

theorem putFile_of_sameShape (h : SameShape d d') (unnamed slash : Fault) (p : Path)
    (bytes bytes' : List UInt8) :
    SameOutcome (d.putFile unnamed slash p bytes) (d'.putFile unnamed slash p bytes') := by
  rw [putFile, putFile, locate_of_sameShape h]
  by_cases hdot : p.endsInDot = true
  · rw [if_pos hdot, if_pos hdot]
    exact (find_of_sameShape h p).bind fun _ _ => .refl _
  · rw [if_neg hdot, if_neg hdot]
    apply sameOutcome_bind_self
    intro place
    split
    · exact .refl _
    split
    · exact .refl _
    · exact writeAt_of_sameShape h place bytes bytes'

theorem writeFile_of_sameShape (h : SameShape d d') (p : Path) (bytes bytes' : List UInt8) :
    SameOutcome (d.writeFile p bytes) (d'.writeFile p bytes') :=
  putFile_of_sameShape h _ _ p bytes bytes'

/-- Replacing a file fails on both disks in the same way, or on neither, whatever it is replaced
with. -/
theorem replaceFile_of_sameShape (h : SameShape d d') (p : Path) (bytes bytes' : List UInt8) :
    SameOutcome (d.replaceFile p bytes) (d'.replaceFile p bytes') := by
  rw [replaceFile, replaceFile, locate_of_sameShape h]
  exact sameOutcome_bind_self fun _ => putFile_of_sameShape h _ _ p bytes bytes'

/-- Taking a file away fails on both disks in the same way, or on neither. -/
theorem removeFile_of_sameShape (h : SameShape d d') (p : Path) :
    SameOutcome (d.removeFile p) (d'.removeFile p) := by
  rw [removeFile, removeFile, locate_of_sameShape h]
  apply (readFile_of_sameShape h p).bind
  intro _ _
  apply sameOutcome_bind_self
  intro place
  rcases cases_of_isSome_eq (isSome_removeFile?_of_sameShape h place) with
    ⟨hremove, hremove'⟩ | ⟨m, m', hremove, hremove'⟩
  · rw [hremove, hremove']
    rfl
  · rw [hremove, hremove']
    rfl

end SealedVault.Disk
