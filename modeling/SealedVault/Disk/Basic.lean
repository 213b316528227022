import Std.Data.ExtTreeMap

/-!
# Disks

A disk holds files and directories, each at a place: the list of names that lead to it from the
top directory. What contains an entry is always a directory.
-/

namespace SealedVault

/-- The names that lead from the top directory to an entry. -/
abbrev Place := List String

/-- What can stand at a place. -/
inductive Entry where
  | file (bytes : List UInt8)
  | directory
deriving Repr, DecidableEq

/-- What is at a place, the top directory included. -/
def entryIn (entries : Std.ExtTreeMap Place Entry) (place : Place) : Option Entry :=
  if place = [] then some .directory else entries[place]?

/-- A tree of files and directories. -/
structure Disk where
  entries : Std.ExtTreeMap Place Entry
  /-- The top directory is not listed, and what contains an entry is a directory. -/
  rooted : ∀ place, entries[place]? ≠ none →
    place ≠ [] ∧ entryIn entries place.dropLast = some .directory

namespace Disk

/-- The disk with nothing but its top directory. -/
def empty : Disk := ⟨∅, by simp⟩

/-- What is at a place. -/
def get? (d : Disk) (place : Place) : Option Entry := entryIn d.entries place

@[simp] theorem get?_nil (d : Disk) : d.get? [] = some .directory := rfl

theorem get?_of_ne_nil (d : Disk) {place : Place} (h : place ≠ []) :
    d.get? place = d.entries[place]? := by
  simp [get?, entryIn, h]

/-- The top directory is not listed among the entries. -/
theorem getElem?_entries_nil (d : Disk) : d.entries[([] : Place)]? = none :=
  Classical.byContradiction fun h => (d.rooted [] h).1 rfl

/-- Disks with the same entries are the same. -/
@[ext] theorem ext {a b : Disk} (h : ∀ place, a.get? place = b.get? place) : a = b := by
  have hentries : a.entries = b.entries := by
    refine Std.ExtTreeMap.ext_getElem? fun place => ?_
    by_cases hnil : place = []
    · rw [hnil, getElem?_entries_nil, getElem?_entries_nil]
    · rw [← a.get?_of_ne_nil hnil, ← b.get?_of_ne_nil hnil, h place]
  cases a
  cases b
  cases hentries
  rfl

/-- Puts an entry into a directory, in place of nothing or of a file. -/
def put? (d : Disk) (place : Place) (name : String) (e : Entry) : Option Disk :=
  if h : d.get? place = some .directory ∧ d.get? (place ++ [name]) ≠ some .directory then
    some
      { entries := d.entries.insert (place ++ [name]) e
        rooted := by
          intro q hq
          have hdir : q ≠ [] ∧ d.get? q.dropLast = some .directory := by
            by_cases heq : place ++ [name] = q
            · subst heq
              simpa using h.1
            · refine d.rooted q ?_
              rwa [Std.ExtTreeMap.getElem?_insert, if_neg (by simpa using heq)] at hq
          refine ⟨hdir.1, ?_⟩
          unfold entryIn
          by_cases hnil : q.dropLast = []
          · simp [hnil]
          · have hne : place ++ [name] ≠ q.dropLast := fun heq => h.2 (heq ▸ hdir.2)
            rw [if_neg hnil, Std.ExtTreeMap.getElem?_insert, if_neg (by simpa using hne),
              ← d.get?_of_ne_nil hnil, hdir.2] }
  else none

/-- Takes a file away. -/
def removeFile? (d : Disk) (place : Place) : Option Disk :=
  match h : d.get? place with
  | some (.file _) =>
    some
      { entries := d.entries.erase place
        rooted := by
          intro q hq
          have hdir := d.rooted q fun hnone => hq (by
            rw [Std.ExtTreeMap.getElem?_erase, hnone]
            simp)
          refine ⟨hdir.1, ?_⟩
          unfold entryIn
          by_cases hnil : q.dropLast = []
          · simp [hnil]
          · have hne : place ≠ q.dropLast := by
              rintro rfl
              rw [get?, hdir.2] at h
              cases h
            rw [if_neg hnil, Std.ExtTreeMap.getElem?_erase, if_neg (by simpa using hne),
              ← d.get?_of_ne_nil hnil]
            exact hdir.2 }
  | _ => none

/-- Takes away what is at a place or below it. -/
def removeTree (d : Disk) (place : Place) : Disk where
  entries := d.entries.filter fun q _ => !place.isPrefixOf q
  rooted := by
    intro q hq
    rw [Std.ExtTreeMap.getElem?_filter', Option.ne_none_iff_exists'] at hq
    obtain ⟨e, he⟩ := hq
    obtain ⟨hmem, hpre⟩ := Option.filter_eq_some_iff.1 he
    have hdir := d.rooted q (by simp [hmem])
    refine ⟨hdir.1, ?_⟩
    unfold entryIn
    by_cases hnil : q.dropLast = []
    · simp [hnil]
    · rw [if_neg hnil, Std.ExtTreeMap.getElem?_filter', Option.filter_eq_some_iff]
      refine ⟨by rw [← d.get?_of_ne_nil hnil]; exact hdir.2, ?_⟩
      simp only [Bool.not_eq_true', ← Bool.not_eq_true, List.isPrefixOf_iff_prefix] at hpre ⊢
      exact fun h => hpre (h.trans (List.dropLast_prefix q))

/-- The places and entries in ascending order of places. -/
def toList (d : Disk) : List (Place × Entry) := d.entries.toList

/-- The names of the files that a directory holds, in ascending order. -/
def fileNames (d : Disk) (place : Place) : List String :=
  d.toList.filterMap fun
    | (q, .file _) => if q.dropLast = place then q.getLast? else none
    | (_, .directory) => none

end Disk

end SealedVault
