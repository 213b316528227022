import SealedVault.Proofs.Disk.Files
import SealedVault.Proofs.Store.Shelves

/-!
# Preparing the storage

Once the storage has been prepared its directories are there, and no file has changed. Storage that
is prepared already stays as it is.
-/

namespace SealedVault

open Disk (KeepsDirectories OnlyMakesDirectories)

variable {l : Layout} {s : Storage} {d d' : Disk} {p : Path}

namespace Layout

/-- The directories that the storage needs are there. -/
def Prepared (l : Layout) (d : Disk) : Prop := ∀ p ∈ l.directories, d.find p = .ok .directory

theorem Prepared.of_keepsDirectories (h : l.Prepared d) (hkeeps : KeepsDirectories d d') :
    l.Prepared d' :=
  fun p hp => Disk.find_directory_of_keepsDirectories hkeeps (h p hp)

theorem endsInDot_of_mem_directories (hp : p ∈ l.directories) : p.endsInDot = false := by
  simp only [directories, List.mem_append, List.mem_map, List.mem_singleton] at hp
  rcases hp with ⟨kind, -, rfl⟩ | rfl
  · exact Path.endsInDot_join (isName_directory kind) l.root
  · exact Path.endsInDot_join isName_audit l.root

/-- They are in the directory that the path of the data directory leads to. -/
theorem Prepared.standsAt (h : l.Prepared d) : l.StandsAt l.root.place d := by
  have haudit := Disk.find_eq_directory_iff.mp (h _ l.auditDirectory_mem)
  have hkind (kind : Kind) := Disk.find_eq_directory_iff.mp (h _ (l.kindDirectory_mem kind))
  obtain ⟨hroot, hget⟩ := (Disk.descend_join_iff isName_audit (by decide)).mp haudit.2
  refine ⟨hroot, fun kind => ?_, hget, fun kind => (hkind kind).1⟩
  exact ((Disk.descend_join_iff (isName_directory kind) (size_directory kind)).mp (hkind kind).2).2

end Layout

namespace Storage

/-! ## Making the directories -/

theorem onlyMakesDirectories_make (hdot : p.endsInDot = false)
    (h : DiskAction.make (Disk.makeDirectory p) d = (.ok (), d')) :
    OnlyMakesDirectories d d' ∧ d'.find p = .ok .directory := by
  cases hmake : Disk.makeDirectory p d with
  | mk result made =>
    rw [DiskAction.make, hmake] at h
    cases result with
    | error fault => cases h
    | ok =>
      cases h
      have honly := Disk.onlyMakesDirectories_makeDirectory p d
      rw [hmake] at honly
      obtain ⟨hcheck, q, hq⟩ := Disk.exists_descend_of_makeDirectory hdot hmake
      obtain rfl : q = p.place := Disk.eq_follow_of_descend hq
      exact ⟨honly, Disk.find_eq_directory_iff.mpr ⟨hcheck, hq⟩⟩

/-- All the paths lead to directories once these have been made. -/
theorem onlyMakesDirectories_makeAll
    {paths : List Path} (hdots : ∀ p ∈ paths, p.endsInDot = false)
    (h : makeAll paths d = (.ok (), d')) :
    OnlyMakesDirectories d d' ∧ ∀ p ∈ paths, d'.find p = .ok .directory := by
  induction paths generalizing d with
  | nil =>
    cases h
    exact ⟨.refl _, by simp⟩
  | cons p rest ih =>
    rw [makeAll, run_bind] at h
    cases hmake : DiskAction.make (Disk.makeDirectory p) d with
    | mk result made =>
      rw [hmake] at h
      cases result with
      | error e => cases h
      | ok =>
        obtain ⟨hfirst, hfind⟩ := onlyMakesDirectories_make (hdots p (by simp)) hmake
        obtain ⟨hmore, hrest⟩ := ih (fun p hp => hdots p (by simp [hp])) h
        refine ⟨hfirst.trans hmore, ?_⟩
        intro p' hp'
        rcases List.mem_cons.mp hp' with rfl | hp'
        · exact Disk.find_directory_of_keepsDirectories hmore.keeps hfind
        · exact hrest p' hp'

theorem prepared_of_prepare (h : (fresh l).prepare d = (.ok s, d')) :
    s = ⟨l, true⟩ ∧ OnlyMakesDirectories d d' ∧ l.Prepared d' := by
  rw [prepare, run_bind] at h
  cases hmake : makeAll (fresh l).layout.directories d with
  | mk result made =>
    rw [hmake] at h
    cases result with
    | error e => cases h
    | ok =>
      cases h
      obtain ⟨honly, hall⟩ :=
        onlyMakesDirectories_makeAll (fun _ hp => Layout.endsInDot_of_mem_directories hp) hmake
      exact ⟨rfl, honly, hall⟩

/-- Prepared storage stands on its data directory, and files are what they were. -/
theorem readyAt_of_prepare (h : (fresh l).prepare d = (.ok s, d')) :
    s.layout = l ∧ OnlyMakesDirectories d d' ∧ ∃ base, s.ReadyAt base d' := by
  obtain ⟨rfl, honly, hprepared⟩ := prepared_of_prepare h
  exact ⟨rfl, honly, l.root.place, rfl, hprepared.standsAt⟩

/-! ## Storage that is prepared -/

theorem makeDirectory_of_find (hdot : p.endsInDot = false) (h : d.find p = .ok .directory) :
    Disk.makeDirectory p d = (.ok (), d) := by
  obtain ⟨hcheck, hdescend⟩ := Disk.find_eq_directory_iff.mp h
  have hnothing : Disk.makeAlong .notDirectory .fileExists [] (p.names ++ []) d =
      Disk.makeAlong .notDirectory .fileExists p.place [] d :=
    Disk.makeAlong_of_descend hdescend
  rw [List.append_nil] at hnothing
  rw [Disk.makeDirectory, hcheck, hdot]
  exact hnothing

theorem makeAll_of_find {paths : List Path} (hdots : ∀ p ∈ paths, p.endsInDot = false)
    (h : ∀ p ∈ paths, d.find p = .ok .directory) : makeAll paths d = (.ok (), d) := by
  induction paths with
  | nil => rfl
  | cons p rest ih =>
    have hmake : DiskAction.make (Disk.makeDirectory p) d = (.ok (), d) := by
      rw [DiskAction.make, makeDirectory_of_find (hdots p (by simp)) (h p (by simp))]
      rfl
    rw [makeAll, run_bind_of_ok hmake]
    exact ih (fun p hp => hdots p (by simp [hp])) fun p hp => h p (by simp [hp])

/-- There is nothing to prepare again. -/
theorem prepare_of_prepared (h : l.Prepared d) : (fresh l).prepare d = (.ok ⟨l, true⟩, d) := by
  have hmake : makeAll (fresh l).layout.directories d = (.ok (), d) :=
    makeAll_of_find (fun _ hp => Layout.endsInDot_of_mem_directories hp) h
  rw [prepare, run_bind_of_ok hmake]
  rfl

end Storage

end SealedVault
