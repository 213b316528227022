import SealedVault.Proofs.Disk.Shape
import SealedVault.Proofs.Store.Footprints

/-!
# Disks that differ in what logs say

Two disks may differ in nothing but the bytes of some files. Making a directory fails on both in the
same way or on neither, and so does adding to one of these files. What is added may differ, and then
the disks still differ in nothing else. So two events of the same instant can be noted, one on each
disk, and the disks differ in the bytes of audit logs.
-/

namespace SealedVault

open Audit (Event)
open Layout (auditPlace)

namespace Disk

variable {P : Place → Prop} {d d' m m' : Disk} {p : Path}

/-- The disks differ at most in the bytes of files at places that satisfy the condition. -/
def DiffersAt (P : Place → Prop) (d d' : Disk) : Prop :=
  ∀ place, d'.get? place = d.get? place ∨
    P place ∧ ∃ bytes bytes', d.get? place = some (.file bytes) ∧
      d'.get? place = some (.file bytes')

theorem DiffersAt.refl (P : Place → Prop) (d : Disk) : DiffersAt P d d := fun _ => Or.inl rfl

theorem DiffersAt.sameShape (h : DiffersAt P d d') : SameShape d d' := by
  intro place
  rcases h place with hsame | ⟨-, hfiles⟩
  · exact Or.inl hsame.symm
  · exact Or.inr hfiles

theorem DiffersAt.mono {Q : Place → Prop} (h : DiffersAt P d d')
    (hmono : ∀ place, P place → Q place) : DiffersAt Q d d' :=
  fun place => (h place).imp_right fun hdiffers => ⟨hmono place hdiffers.1, hdiffers.2⟩

theorem DiffersAt.trans {d'' : Disk} (h : DiffersAt P d d') (h' : DiffersAt P d' d'') :
    DiffersAt P d d'' := by
  intro place
  rcases h place, h' place with ⟨hsame | ⟨hP, bytes, bytes', hfile, hfile'⟩, hsame' | ⟨hP', more⟩⟩
  · exact Or.inl (hsame'.trans hsame)
  · rw [hsame] at more
    exact Or.inr ⟨hP', more⟩
  · rw [← hsame'] at hfile'
    exact Or.inr ⟨hP, bytes, bytes', hfile, hfile'⟩
  · obtain ⟨-, bytes'', -, hfile''⟩ := more
    exact Or.inr ⟨hP, bytes, bytes'', hfile, hfile''⟩

theorem DiffersAt.get?_eq (h : DiffersAt P d d') {place : Place} (hplace : ¬P place) :
    d'.get? place = d.get? place :=
  (h place).resolve_right fun hdiffers => hplace hdiffers.1

/-- A path that leads to no such place leads to the same bytes. -/
theorem DiffersAt.readFile_eq (h : DiffersAt P d d') (hp : ¬P p.place) :
    d'.readFile p = d.readFile p := by
  rw [readFile, readFile, find, find, locate_of_sameShape h.sameShape]
  cases hlocate : d'.locate p with
  | error fault => rfl
  | ok q =>
    obtain rfl := eq_place_of_locate hlocate
    simp only [Except.bind, h.get?_eq hp]

/-- Putting the same entry at a place of both disks adds no difference. -/
theorem DiffersAt.put? {place : Place} {name : String} {e : Entry} (h : DiffersAt P d d')
    (hput : d.put? place name e = some m) (hput' : d'.put? place name e = some m') :
    DiffersAt P m m' := by
  intro q
  rw [get?_of_put? hput, get?_of_put? hput']
  by_cases hq : q = place ++ [name]
  · rw [if_pos hq, if_pos hq]
    exact Or.inl rfl
  · rw [if_neg hq, if_neg hq]
    exact h q

/-- Putting files at a place that satisfies the condition adds a difference that is allowed. -/
theorem DiffersAt.put?_file {place : Place} {name : String} {bytes bytes' : List UInt8}
    (h : DiffersAt P d d') (hP : P (place ++ [name]))
    (hput : d.put? place name (.file bytes) = some m)
    (hput' : d'.put? place name (.file bytes') = some m') : DiffersAt P m m' := by
  intro q
  rw [get?_of_put? hput, get?_of_put? hput']
  by_cases hq : q = place ++ [name]
  · rw [if_pos hq, if_pos hq, hq]
    exact Or.inr ⟨hP, bytes, bytes', rfl, rfl⟩
  · rw [if_neg hq, if_neg hq]
    exact h q

/-! ## Making directories -/

theorem DiffersAt.makeAlong (h : DiffersAt P d d') (through last : Fault) (place : Place)
    (names : List String) :
    (Disk.makeAlong through last place names d').1 =
        (Disk.makeAlong through last place names d).1 ∧
      DiffersAt P (Disk.makeAlong through last place names d).2
        (Disk.makeAlong through last place names d').2 := by
  induction names generalizing through last place d d' with
  | nil => exact ⟨rfl, h⟩
  | cons name rest ih =>
    rw [Disk.makeAlong, Disk.makeAlong]
    by_cases hdots : name = ".."
    · rw [if_pos hdots, if_pos hdots]
      exact ih h _ _ _
    rw [if_neg hdots, if_neg hdots]
    by_cases hlong : nameLimit < name.utf8ByteSize
    · rw [if_pos hlong, if_pos hlong]
      exact ⟨rfl, h⟩
    rw [if_neg hlong, if_neg hlong]
    rcases h (place ++ [name]) with hsame | ⟨-, bytes, bytes', hfile, hfile'⟩
    · rw [hsame]
      rcases d.get? (place ++ [name]) with _ | bytes | _
      · rcases cases_of_isSome_eq (isSome_put?_of_sameShape h.sameShape place name .directory
            .directory) with ⟨hput, hput'⟩ | ⟨m, m', hput, hput'⟩
        · simp only [hput, hput']
          exact ⟨trivial, h⟩
        · simp only [hput, hput']
          exact ih (h.put? hput hput') _ _ _
      · exact ⟨rfl, h⟩
      · exact ih h _ _ _
    · rw [hfile, hfile']
      exact ⟨rfl, h⟩

theorem checkDirectory_of_sameShape (h : SameShape d d') (p : Path) :
    d'.checkDirectory p = d.checkDirectory p := by
  rw [checkDirectory, checkDirectory]
  rcases find_cases_of_sameShape h p with heq | ⟨bytes, bytes', hfile, hfile'⟩
  · rw [heq]
  · rw [hfile, hfile']
    rfl

theorem DiffersAt.makeDirectory (h : DiffersAt P d d') (p : Path) :
    (Disk.makeDirectory p d').1 = (Disk.makeDirectory p d).1 ∧
      DiffersAt P (Disk.makeDirectory p d).2 (Disk.makeDirectory p d').2 := by
  rw [Disk.makeDirectory, Disk.makeDirectory]
  cases checkPath p with
  | error fault => exact ⟨rfl, h⟩
  | ok =>
    by_cases hdot : p.endsInDot = true
    · obtain ⟨hresult, hdisks⟩ := h.makeAlong .notDirectory .notDirectory [] p.names.dropLast
      simp only [if_pos hdot]
      refine ⟨?_, hdisks⟩
      rw [hresult, checkDirectory_of_sameShape hdisks.sameShape]
    · simp only [if_neg hdot]
      exact h.makeAlong .notDirectory .fileExists [] p.names

/-! ## Adding to a file -/

theorem DiffersAt.writeFile (h : DiffersAt P d d') (hP : P p.place) (bytes bytes' : List UInt8) :
    RelatedResults (DiffersAt P) (d.writeFile p bytes) (d'.writeFile p bytes') := by
  rcases (writeFile_of_sameShape h.sameShape p bytes bytes').cases with
    ⟨fault, hfails, hfails'⟩ | ⟨m, m', hwrite, hwrite'⟩
  · rw [hfails, hfails']
    exact .error fault
  · obtain ⟨front, name, hplace, hput⟩ := put?_of_writeFile hwrite
    obtain ⟨front', name', hplace', hput'⟩ := put?_of_writeFile hwrite'
    obtain ⟨rfl, hname⟩ := List.append_inj' (hplace.symm.trans hplace') rfl
    obtain rfl := (List.cons.inj hname).1
    rw [hwrite, hwrite']
    rw [hplace] at hP
    exact .ok (h.put?_file hP hput hput')

/-- Adding to a file fails on both disks in the same way, or on neither, and then no difference is
new but in that file. -/
theorem DiffersAt.appendFile (h : DiffersAt P d d') (hP : P p.place) (bytes bytes' : List UInt8) :
    RelatedResults (DiffersAt P) (d.appendFile p bytes) (d'.appendFile p bytes') :=
  h.writeFile hP _ _

end Disk

/-! ## Audit logs -/

/-- The disks differ at most in the bytes of audit logs. -/
def Layout.DifferInLogs (l : Layout) : Disk → Disk → Prop :=
  Disk.DiffersAt fun place =>
    ∃ day : Calendar.Date, place = auditPlace l.base [day.text, logName]

/-- The files of records are the same on such disks. -/
theorem Layout.DifferInLogs.readFile_record {l : Layout} {d d' : Disk} (h : l.DifferInLogs d d')
    {kind : Kind} {id : String} (hid : isValidId id = true) :
    d'.readFile (l.record kind id) = d.readFile (l.record kind id) := by
  apply Disk.DiffersAt.readFile_eq h
  rintro ⟨day, hplace⟩
  rw [place_record hid] at hplace
  exact recordPlace_ne_auditPlace kind id _ hplace

/-- Two events of one instant, noted one on each disk, add no difference but in the log of their
day, whatever they say. -/
theorem Audit.differInLogs_log {s : Storage} {d d' : Disk} (h : s.layout.DifferInLogs d d')
    {e e' : Event} (htime : e'.timestamp = e.timestamp) :
    s.layout.DifferInLogs (Audit.log s e d).2 (Audit.log s e' d').2 := by
  have hP : ∃ day : Calendar.Date, (Audit.logPath s e.timestamp.date).place =
      auditPlace s.layout.base [day.text, logName] :=
    ⟨e.timestamp.date, Layout.place_auditLog e.timestamp.date.isName_text⟩
  rw [Audit.log, Audit.log, htime, Storage.append, Storage.append, run_bind, run_bind,
    DiskAction.ask, DiskAction.ask]
  cases s.checkReady with
  | error error => exact h
  | ok =>
    simp only []
    rw [run_bind, run_bind, DiskAction.make, DiskAction.make, Disk.makeParent, Disk.makeParent]
    obtain ⟨hresult, hdisks⟩ := h.makeDirectory (Audit.logPath s e.timestamp.date).parent
    generalize Disk.makeDirectory (Audit.logPath s e.timestamp.date).parent d = made at *
    generalize Disk.makeDirectory (Audit.logPath s e.timestamp.date).parent d' = made' at *
    obtain ⟨result, m⟩ := made
    obtain ⟨result', m'⟩ := made'
    obtain rfl : result' = result := hresult
    cases result' with
    | error fault => exact hdisks
    | ok =>
      have happend := Disk.DiffersAt.appendFile hdisks hP (Text.utf8Bytes e.line)
        (Text.utf8Bytes e'.line)
      simp only [Except.mapError, DiskAction.change]
      generalize m.appendFile (Audit.logPath s e.timestamp.date) (Text.utf8Bytes e.line) = after
        at happend ⊢
      generalize m'.appendFile (Audit.logPath s e.timestamp.date) (Text.utf8Bytes e'.line) = after'
        at happend ⊢
      cases happend with
      | error fault => exact hdisks
      | ok related => exact related

end SealedVault
