import SealedVault.Disk.Basic
import Mathlib.Data.List.Nodup

/-!
# Entries after a change

What stands at each place of a disk after an entry was put or taken away, and which names a
directory lists.
-/

namespace SealedVault.Disk

variable {d d' : Disk} {place : Place} {name : String} {e : Entry}

/-- The empty disk has no files. -/
theorem get?_empty_ne_file (place : Place) (bytes : List UInt8) :
    empty.get? place ≠ some (.file bytes) := by
  intro h
  by_cases hnil : place = []
  · rw [hnil] at h
    cases h
  · rw [get?_of_ne_nil _ hnil] at h
    simp [empty] at h

/-- What stands in something stands in a directory. -/
theorem get?_eq_directory_of_append (h : d.get? (place ++ [name]) ≠ none) :
    d.get? place = some .directory := by
  rw [get?_of_ne_nil _ (by simp)] at h
  have hdir := (d.rooted _ h).2
  rwa [List.dropLast_concat] at hdir

/-- What contains a directory is a directory. -/
theorem get?_dropLast_of_directory (h : d.get? place = some .directory) :
    d.get? place.dropLast = some .directory := by
  by_cases hnil : place = []
  · rw [hnil]
    rfl
  · rw [← List.dropLast_append_getLast hnil] at h
    exact get?_eq_directory_of_append (by rw [h]; simp)

/-! ## Putting -/

theorem get?_of_put? (h : d.put? place name e = some d') (q : Place) :
    d'.get? q = if q = place ++ [name] then some e else d.get? q := by
  unfold put? at h
  split at h
  next hplace =>
    cases h
    by_cases hnil : q = []
    · subst hnil
      have hne : ([] : Place) ≠ place ++ [name] := by simp
      rw [if_neg hne, get?_nil, get?_nil]
    · rw [get?_of_ne_nil _ hnil, get?_of_ne_nil _ hnil, Std.ExtTreeMap.getElem?_insert]
      by_cases heq : place ++ [name] = q
      · simp [heq]
      · simp [heq, Ne.symm heq]
  · cases h

/-- An entry can be put into a directory unless a directory stands there. -/
theorem exists_put?
    (hplace : d.get? place = some .directory)
    (hname : d.get? (place ++ [name]) ≠ some .directory) (e : Entry) :
    ∃ d', d.put? place name e = some d' := by
  rw [put?, dif_pos ⟨hplace, hname⟩]
  exact ⟨_, rfl⟩

theorem put?_eq_none (hname : d.get? (place ++ [name]) = some .directory) :
    d.put? place name e = none := by
  rw [put?, dif_neg fun h => h.2 hname]

theorem ne_directory_of_put? (h : d.put? place name e = some d') :
    d.get? (place ++ [name]) ≠ some .directory := by
  intro hname
  rw [put?_eq_none hname] at h
  cases h

/-- What something is put into is a directory. -/
theorem directory_of_put? (h : d.put? place name e = some d') :
    d.get? place = some .directory := by
  unfold put? at h
  split at h
  next hplace => exact hplace.1
  · cases h

/-- Whether an entry can be put at a place does not depend on the entry. -/
theorem put?_eq_some_getD (h : (d.put? place name e).isSome = true) :
    d.put? place name e = some ((d.put? place name e).getD d) := by
  obtain ⟨d', hput⟩ := Option.isSome_iff_exists.mp h
  rw [hput, Option.getD_some]

theorem exists_put?_of_put? (h : d.put? place name e = some d') (e' : Entry) :
    ∃ d'', d.put? place name e' = some d'' := by
  unfold put? at h
  split at h
  next hplace => exact exists_put? hplace.1 hplace.2 e'
  · cases h

/-- Whether an entry can be put at a place depends on where directories are there and around it. -/
theorem isSome_put?_congr {e' : Entry}
    (hplace : d.get? place = some .directory ↔ d'.get? place = some .directory)
    (hname : d.get? (place ++ [name]) = some .directory ↔
      d'.get? (place ++ [name]) = some .directory) :
    (d.put? place name e).isSome = (d'.put? place name e').isSome := by
  have hiff : (d.get? place = some .directory ∧ d.get? (place ++ [name]) ≠ some .directory) ↔
      (d'.get? place = some .directory ∧ d'.get? (place ++ [name]) ≠ some .directory) :=
    and_congr hplace (not_congr hname)
  by_cases hfree : d.get? place = some .directory ∧ d.get? (place ++ [name]) ≠ some .directory
  · rw [put?, put?, dif_pos hfree, dif_pos (hiff.mp hfree)]
    rfl
  · rw [put?, put?, dif_neg hfree, dif_neg fun hfree' => hfree (hiff.mpr hfree')]

/-! ## Taking away -/

theorem get?_of_removeFile? (h : d.removeFile? place = some d') (q : Place) :
    d'.get? q = if q = place then none else d.get? q := by
  unfold removeFile? at h
  split at h
  next bytes hfile =>
    cases h
    by_cases hnil : q = []
    · subst hnil
      have hne : ([] : Place) ≠ place := by
        rintro rfl
        cases hfile
      rw [if_neg hne, get?_nil, get?_nil]
    · rw [get?_of_ne_nil _ hnil, get?_of_ne_nil _ hnil, Std.ExtTreeMap.getElem?_erase]
      by_cases heq : place = q
      · simp [heq]
      · simp [heq, Ne.symm heq]
  · cases h

theorem exists_removeFile? {bytes : List UInt8} (h : d.get? place = some (.file bytes)) :
    ∃ d', d.removeFile? place = some d' := by
  unfold removeFile?
  split
  · exact ⟨_, rfl⟩
  next hnone => exact absurd h (hnone bytes)

theorem exists_file_of_removeFile? (h : d.removeFile? place = some d') :
    ∃ bytes, d.get? place = some (.file bytes) := by
  unfold removeFile? at h
  split at h
  next bytes hfile => exact ⟨bytes, hfile⟩
  · cases h

/-! ## Directories stay -/

/-- What was a directory still is one. -/
def KeepsDirectories (d d' : Disk) : Prop :=
  ∀ place, d.get? place = some .directory → d'.get? place = some .directory

theorem KeepsDirectories.refl (d : Disk) : KeepsDirectories d d := fun _ h => h

theorem KeepsDirectories.trans {d'' : Disk}
    (h : KeepsDirectories d d') (h' : KeepsDirectories d' d'') : KeepsDirectories d d'' :=
  fun place hplace => h' place (h place hplace)

theorem keepsDirectories_of_put? (h : d.put? place name e = some d') :
    KeepsDirectories d d' := by
  intro q hq
  have hne : q ≠ place ++ [name] := by
    rintro rfl
    exact ne_directory_of_put? h hq
  rw [get?_of_put? h, if_neg hne]
  exact hq

theorem keepsDirectories_of_removeFile? (h : d.removeFile? place = some d') :
    KeepsDirectories d d' := by
  intro q hq
  have hne : q ≠ place := by
    rintro rfl
    obtain ⟨bytes, hfile⟩ := exists_file_of_removeFile? h
    rw [hq] at hfile
    cases hfile
  rw [get?_of_removeFile? h, if_neg hne]
  exact hq

/-! ## Listing -/

theorem mem_toList {q : Place} : (q, e) ∈ d.toList ↔ q ≠ [] ∧ d.get? q = some e := by
  rw [toList, Std.ExtTreeMap.mem_toList_iff_getElem?_eq_some]
  constructor
  · intro h
    have hnil : q ≠ [] := (d.rooted q (by simp [h])).1
    exact ⟨hnil, by rw [get?_of_ne_nil _ hnil, h]⟩
  · rintro ⟨hnil, h⟩
    rwa [get?_of_ne_nil _ hnil] at h

/-- The names that a directory lists are those of its files. -/
theorem mem_fileNames :
    name ∈ d.fileNames place ↔ ∃ bytes, d.get? (place ++ [name]) = some (.file bytes) := by
  rw [fileNames, List.mem_filterMap]
  constructor
  · rintro ⟨⟨q, e⟩, hmem, hname⟩
    obtain ⟨hnil, hget⟩ := mem_toList.mp hmem
    cases e with
    | directory => cases hname
    | file bytes =>
      simp only [Option.ite_none_right_eq_some] at hname
      obtain ⟨rfl, hlast⟩ := hname
      refine ⟨bytes, ?_⟩
      rw [← hget, List.dropLast_append_getLast?]
      exact hlast
  · rintro ⟨bytes, hget⟩
    refine ⟨(place ++ [name], .file bytes), mem_toList.mpr ⟨by simp, hget⟩, ?_⟩
    simp

/-- No name is listed twice. -/
theorem nodup_fileNames (d : Disk) (place : Place) : (d.fileNames place).Nodup := by
  have hkeys := d.entries.distinct_keys_toList
  rw [fileNames, toList, List.nodup_iff_pairwise_ne, List.pairwise_filterMap]
  apply hkeys.imp
  rintro ⟨q, e⟩ ⟨q', e'⟩ hne n hn n' hn' heq
  cases e with
  | directory => cases hn
  | file bytes =>
    cases e' with
    | directory => cases hn'
    | file bytes' =>
      simp only [Option.ite_none_right_eq_some] at hn hn'
      apply hne
      rw [Std.LawfulEqCmp.compare_eq_iff_eq, ← List.dropLast_append_getLast? n hn.2,
        ← List.dropLast_append_getLast? n' hn'.2, hn.1, hn'.1, heq]

end SealedVault.Disk
