import SealedVault.Proofs.Disk.Shape
import SealedVault.Proofs.Store.Shelves

/-!
# Listing the records of a kind

A listing goes through the names of the files in the directory of a kind. No stem stands twice in
it, and every record that can be found is listed. Which stems are listed does not depend on what is
in the files.
-/

namespace SealedVault

open Disk (KeepsDirectories SameShape)
open Layout (StandsAt recordPlace)
open SealedVault.Path (IsName)

namespace Disk

/-! ## Stems of file names -/

/-- A file name with an extension is its stem, a dot and the extension. -/
theorem eq_of_splitExtension {name stem suffix : String}
    (h : splitExtension name = (stem, some suffix)) :
    stem ≠ "" ∧ name = stem ++ "." ++ suffix := by
  obtain ⟨after, hafter⟩ :
      ∃ after, name.toList.reverse.takeWhile (fun c => decide (c ≠ '.')) = after := ⟨_, rfl⟩
  obtain ⟨rest, hrest⟩ :
      ∃ rest, name.toList.reverse.dropWhile (fun c => decide (c ≠ '.')) = rest := ⟨_, rfl⟩
  have hsplit : name.toList.reverse = after ++ rest := by
    rw [← hafter, ← hrest, List.takeWhile_append_dropWhile]
  have hlast : name.toList = rest.reverse ++ after.reverse := by
    rw [← List.reverse_append, ← hsplit, List.reverse_reverse]
  simp only [splitExtension, hafter] at h
  cases rest with
  | nil =>
    have hlength : name.toList.length - after.reverse.length - 1 = 0 := by
      rw [hlast]
      simp
    rw [hlength, List.take_zero, if_pos rfl] at h
    cases h
  | cons c rest =>
    have hdot : c = '.' := by
      have hhead := List.head?_dropWhile_not (fun c => decide (c ≠ '.')) name.toList.reverse
      rw [hrest] at hhead
      simpa using hhead
    have hlength : name.toList.length - after.reverse.length - 1 = rest.reverse.length := by
      rw [hlast]
      simp only [List.length_append, List.length_reverse, List.length_cons]
      omega
    have hbefore : name.toList.take (name.toList.length - after.reverse.length - 1) =
        rest.reverse := by
      rw [hlength, hlast, List.reverse_cons, List.append_assoc, List.take_left]
    by_cases hnil : rest.reverse = []
    · rw [hbefore, if_pos hnil] at h
      cases h
    · simp only [hbefore, if_neg hnil, Prod.mk.injEq, Option.some.injEq] at h
      obtain ⟨rfl, rfl⟩ := h
      refine ⟨by simpa using hnil, ?_⟩
      rw [← String.toList_inj, hlast, hdot]
      simp

theorem eq_of_stemOf? {suffix name stem : String} (h : stemOf? suffix name = some stem) :
    name = stem ++ "." ++ suffix := by
  simp only [stemOf?, Option.ite_none_right_eq_some, Option.some.injEq] at h
  exact (eq_of_splitExtension (Prod.ext h.2 h.1)).2

theorem stemOf?_recordFile {id : String} (h : isValidId id = true) :
    stemOf? "json" (id ++ ".json") = some id := by
  have hafter : (id ++ ".json").toList.reverse.takeWhile (fun c => decide (c ≠ '.')) =
      "json".toList.reverse := by
    simp
  have hbefore : (id ++ ".json").toList.take
      ((id ++ ".json").toList.length - "json".toList.reverse.reverse.length - 1) = id.toList := by
    simp
  have hne : id.toList ≠ [] := by
    intro hnil
    rw [isValidId, hnil] at h
    cases h
  simp only [stemOf?, splitExtension, hafter, hbefore, if_neg hne]
  simp

/-! ## The listing -/

variable {d d' : Disk} {place : Place} {p : Path} {suffix : String}

/-- The stems of the files of a directory, in the order of the names. -/
def unsortedStems (d : Disk) (place : Place) (p : Path) (suffix : String) : List String :=
  ((d.fileNames place).filter fun name => d.isFile (p.join name)).filterMap (stemOf? suffix)

theorem nodup_unsortedStems : (d.unsortedStems place p suffix).Nodup := by
  have hnames := (d.nodup_fileNames place).filter fun name => d.isFile (p.join name)
  rw [unsortedStems, List.nodup_iff_pairwise_ne, List.pairwise_filterMap]
  rw [List.nodup_iff_pairwise_ne] at hnames
  apply hnames.imp
  intro name name' hne stem hstem stem' hstem' heq
  apply hne
  rw [eq_of_stemOf? hstem, eq_of_stemOf? hstem', heq]

/-- The files of disks of the same shape have the same stems. -/
theorem perm_unsortedStems (h : SameShape d d') :
    (d.unsortedStems place p suffix).Perm (d'.unsortedStems place p suffix) := by
  have hnames : (d.fileNames place).Perm (d'.fileNames place) := by
    rw [List.perm_ext_iff_of_nodup (d.nodup_fileNames place) (d'.nodup_fileNames place)]
    intro name
    rw [mem_fileNames, mem_fileNames]
    rcases h (place ++ [name]) with heq | ⟨bytes, bytes', hfile, hfile'⟩
    · rw [heq]
    · simp [hfile, hfile']
  have hisFile : (fun name => d.isFile (p.join name)) = fun name => d'.isFile (p.join name) := by
    funext name
    exact isFile_of_sameShape h _
  rw [unsortedStems, unsortedStems, hisFile]
  exact (hnames.filter _).filterMap _

theorem pairwise_mergeSort_le (l : List String) :
    (l.mergeSort (fun a b => a ≤ b)).Pairwise (· ≤ ·) := by
  have htrans (a b c : String) : decide (a ≤ b) → decide (b ≤ c) → decide (a ≤ c) := by
    simpa using String.le_trans
  have htotal (a b : String) : (decide (a ≤ b) || decide (b ≤ a)) = true := by
    simpa using String.le_total a b
  simpa using List.pairwise_mergeSort htrans htotal l

theorem mergeSort_eq_of_perm {l l' : List String} (h : l.Perm l') :
    l.mergeSort (fun a b => a ≤ b) = l'.mergeSort (fun a b => a ≤ b) := by
  have hperm := ((l.mergeSort_perm (fun a b => a ≤ b)).trans h).trans
    (l'.mergeSort_perm (fun a b => a ≤ b)).symm
  exact hperm.eq_of_pairwise (fun a b _ _ => String.le_antisymm) (pairwise_mergeSort_le l)
    (pairwise_mergeSort_le l')

end Disk

namespace Layout

variable {l : Layout} {base : Place} {d : Disk}

theorem find_kindDirectory (h : l.StandsAt base d) (kind : Kind) :
    d.locate (l.kindDirectory kind) = .ok (base ++ [kind.directory]) ∧
      d.find (l.kindDirectory kind) = .ok .directory := by
  have hlocate : d.locate (l.kindDirectory kind) = .ok (base ++ [kind.directory]) := by
    rw [Disk.locate, h.checkKind, names_kindDirectory, Except.bind, Disk.walk_append, h.root,
      Except.bind, Disk.walk, if_neg (isName_directory kind).ne_dots,
      if_neg (size_directory kind), if_pos rfl]
  refine ⟨hlocate, ?_⟩
  rw [Disk.find, hlocate, Except.bind, h.kindDirectory]

end Layout

namespace Storage

variable {s : Storage} {base : Place} {d d' : Disk} {kind : Kind}

theorem listStems_eq (h : s.ReadyAt base d) (kind : Kind) :
    s.listStems (s.layout.kindDirectory kind) Layout.recordExtension d =
      .ok ((d.unsortedStems (base ++ [kind.directory]) (s.layout.kindDirectory kind)
        Layout.recordExtension).mergeSort fun a b => a ≤ b) := by
  obtain ⟨hlocate, hfind⟩ := Layout.find_kindDirectory h.stands kind
  rw [listStems, checkReady_eq h, ok_bind, Disk.stems, hfind, hlocate]
  rfl

/-- The ids among the file names of a kind. -/
theorem exists_listStems (h : s.ReadyAt base d) (kind : Kind) :
    ∃ ids, s.listStems (s.layout.kindDirectory kind) Layout.recordExtension d = .ok ids ∧
      ids.Nodup ∧ ∀ id (r : Record kind), s.shelf d kind id = some r → id ∈ ids := by
  refine ⟨_, listStems_eq h kind, ?_, ?_⟩
  · exact (List.mergeSort_perm _ _).nodup_iff.mpr Disk.nodup_unsortedStems
  · intro id r hr
    obtain ⟨hid, hfits, bytes, hfile, -⟩ := (shelf_eq_some_iff h).mp hr
    have hisFile : d.isFile (s.layout.record kind id) = true :=
      (Layout.isFile_record_iff h.stands hid).mpr ⟨hfits, bytes, hfile⟩
    rw [List.mem_mergeSort, Disk.unsortedStems, List.mem_filterMap]
    refine ⟨id ++ ".json", ?_, Disk.stemOf?_recordFile hid⟩
    exact List.mem_filter.mpr ⟨Disk.mem_fileNames.mpr ⟨bytes, hfile⟩, hisFile⟩

theorem listRecords_eq
    {ids : List String}
    (h : s.listStems (s.layout.kindDirectory kind) Layout.recordExtension d = .ok ids)
    (keep : Record kind → Bool) :
    s.listRecords kind keep d =
      .ok ((ids.filterMap fun id => s.shelf d kind id).filter keep) := by
  rw [listRecords, h]
  rfl

/-- A listing holds the records on the shelves that satisfy the condition. Where every record is
found under its own id, no id stands twice. -/
theorem exists_listRecords
    (h : s.ReadyAt base d) (kind : Kind) (keep : Record kind → Bool) :
    ∃ rs, s.listRecords kind keep d = .ok rs ∧
      (∀ r, r ∈ rs ↔ keep r = true ∧ ∃ id, s.shelf d kind id = some r) ∧
      ((∀ id r, s.shelf d kind id = some r → r.id = id) → (rs.map (·.id)).Nodup) := by
  obtain ⟨ids, hids, hnodup, hall⟩ := exists_listStems h kind
  refine ⟨_, listRecords_eq hids keep, ?_, ?_⟩
  · intro r
    rw [List.mem_filter, List.mem_filterMap, and_comm]
    apply and_congr_right
    intro _
    constructor
    · rintro ⟨id, -, hr⟩
      exact ⟨id, hr⟩
    · rintro ⟨id, hr⟩
      exact ⟨id, hall id r hr, hr⟩
  · intro hnamed
    have hsublist := List.filter_sublist (p := keep)
      (l := ids.filterMap fun id => s.shelf d kind id)
    apply (hsublist.map (·.id)).nodup
    rw [List.nodup_iff_pairwise_ne, List.pairwise_map, List.pairwise_filterMap]
    rw [List.nodup_iff_pairwise_ne] at hnodup
    apply hnodup.imp
    intro id id' hne r hr r' hr' heq
    apply hne
    rw [← hnamed id r hr, ← hnamed id' r' hr', heq]

end Storage

end SealedVault
