import SealedVault.Proofs.Store.Agreement

/-!
# Taking records away

Records can be taken away one after the other. Of what is done on the way the disk shows the end:
the files of some records are gone, and nothing else changed. So a record that is found afterwards
was found before, and one that was found before is found afterwards, if its file is not gone.
-/

namespace SealedVault

open Disk (KeepsDirectories)
open Layout (auditPlace recordPlace recordPlace_injective)

variable {l : Layout} {s : Storage} {d d' d'' : Disk} {kind : Kind} {id : String}
  {P Q : Kind → String → Prop} {p : Path} {bytes : List UInt8}

namespace Layout

/-- The files of the records that `P` tells were there and are gone, and nothing else changed. -/
structure TakesAway (l : Layout) (P : Kind → String → Prop) (d d' : Disk) : Prop where
  file {kind : Kind} {id : String} :
    P kind id → ∃ bytes, d.get? (recordPlace l.base kind id) = some (.file bytes)
  gone {kind : Kind} {id : String} : P kind id → d'.get? (recordPlace l.base kind id) = none
  kept {place : Place} :
    (∀ kind id, P kind id → place ≠ recordPlace l.base kind id) → d'.get? place = d.get? place

theorem takesAway_nothing (h : ∀ kind id, ¬P kind id) (d : Disk) : l.TakesAway P d d where
  file hP := absurd hP (h _ _)
  gone hP := absurd hP (h _ _)
  kept _ := rfl

namespace TakesAway

theorem congr (h : l.TakesAway P d d') (hiff : ∀ kind id, P kind id ↔ Q kind id) :
    l.TakesAway Q d d' := by
  obtain rfl : P = Q := by
    funext kind id
    exact propext (hiff kind id)
  exact h

theorem not_of_same_disk (h : l.TakesAway P d d) (kind : Kind) (id : String) : ¬P kind id := by
  intro hP
  obtain ⟨bytes, hfile⟩ := h.file hP
  rw [h.gone hP] at hfile
  cases hfile

theorem get?_record (h : l.TakesAway P d d') (hnot : ¬P kind id) :
    d'.get? (recordPlace l.base kind id) = d.get? (recordPlace l.base kind id) := by
  apply h.kept
  intro kind' id' hP heq
  obtain ⟨rfl, rfl⟩ := recordPlace_injective heq
  exact hnot hP

theorem trans (h : l.TakesAway P d d') (h' : l.TakesAway Q d' d'') :
    l.TakesAway (fun kind id => P kind id ∨ Q kind id) d d'' where
  file {kind id} hPQ := by
    by_cases hP : P kind id
    · exact h.file hP
    · rw [← h.get?_record hP]
      exact h'.file (hPQ.resolve_left hP)
  gone {kind id} hPQ := by
    by_cases hQ : Q kind id
    · exact h'.gone hQ
    · rw [h'.get?_record hQ]
      exact h.gone (hPQ.resolve_right hQ)
  kept hne := (h'.kept fun kind id hQ => hne kind id (Or.inr hQ)).trans
    (h.kept fun kind id hP => hne kind id (Or.inl hP))

/-- What is there afterwards was there before. -/
theorem get?_eq_some (h : l.TakesAway P d d') {place : Place} {e : Entry}
    (hget : d'.get? place = some e) : d.get? place = some e := by
  rw [← h.kept]
  · exact hget
  · rintro kind id hP rfl
    rw [h.gone hP] at hget
    cases hget

theorem keepsDirectories (h : l.TakesAway P d d') : KeepsDirectories d d' := by
  intro place hdirectory
  rw [h.kept]
  · exact hdirectory
  · rintro kind id hP rfl
    obtain ⟨bytes, hfile⟩ := h.file hP
    rw [hfile] at hdirectory
    cases hdirectory

/-! ### Reading -/

theorem readFile_before (h : l.TakesAway P d d') (hread : d'.readFile p = .ok bytes) :
    d.readFile p = .ok bytes := by
  obtain ⟨hlocate, hwants, hget⟩ := Disk.readFile_eq_ok_iff.mp hread
  exact Disk.readFile_eq_ok_iff.mpr
    ⟨Disk.locate_of_keepsDirectories (fun _ => h.get?_eq_some) hlocate, hwants,
      h.get?_eq_some hget⟩

theorem isFile_before (h : l.TakesAway P d d') (hfile : d'.isFile p = true) :
    d.isFile p = true := by
  obtain ⟨bytes, hread⟩ := Disk.isFile_eq_true_iff.mp hfile
  exact Disk.isFile_eq_true_iff.mpr ⟨bytes, h.readFile_before hread⟩

theorem readFile_record_eq_ok_iff (h : l.TakesAway P d d') (hid : isValidId id = true) :
    d'.readFile (l.record kind id) = .ok bytes ↔
      d.readFile (l.record kind id) = .ok bytes ∧ ¬P kind id := by
  constructor
  · intro hread
    refine ⟨h.readFile_before hread, fun hP => ?_⟩
    have hget := (Disk.readFile_eq_ok_iff.mp hread).2.2
    rw [place_record hid, h.gone hP] at hget
    cases hget
  · rintro ⟨hread, hnot⟩
    obtain ⟨hlocate, hwants, hget⟩ := Disk.readFile_eq_ok_iff.mp hread
    rw [Disk.readFile_eq_ok_iff]
    refine ⟨Disk.locate_of_keepsDirectories h.keepsDirectories hlocate, hwants, ?_⟩
    rw [place_record hid] at hget ⊢
    rw [h.get?_record hnot]
    exact hget

theorem isFile_record_iff (h : l.TakesAway P d d') (hid : isValidId id = true) :
    d'.isFile (l.record kind id) = true ↔ d.isFile (l.record kind id) = true ∧ ¬P kind id := by
  simp only [Disk.isFile_eq_true_iff, h.readFile_record_eq_ok_iff hid, exists_and_right]

/-- The records that are found afterwards are those that were found before and whose files are not
gone. -/
theorem getRecord_eq_ok_iff {r : Record kind} (h : s.layout.TakesAway P d d') :
    s.getRecord kind id d' = .ok r ↔ s.getRecord kind id d = .ok r ∧ ¬P kind id := by
  rw [Storage.getRecord_eq_ok_iff, Storage.getRecord_eq_ok_iff]
  constructor
  · rintro ⟨hready, hid, bytes, hread, hdecode⟩
    rw [h.readFile_record_eq_ok_iff hid] at hread
    exact ⟨⟨hready, hid, bytes, hread.1, hdecode⟩, hread.2⟩
  · rintro ⟨⟨hready, hid, bytes, hread, hdecode⟩, hnot⟩
    exact ⟨hready, hid, bytes, (h.readFile_record_eq_ok_iff hid).mpr ⟨hread, hnot⟩, hdecode⟩

end TakesAway

/-! ## Files -/

/-- The files of the records that `P` tells were there and are gone. Outside the audit directory
every other file is what it was, and none is new. -/
structure LosesFiles (l : Layout) (P : Kind → String → Prop) (d d' : Disk) : Prop where
  present {kind : Kind} {id : String} : P kind id → d.fileAt? (recordPlace l.base kind id) ≠ none
  gone {kind : Kind} {id : String} : P kind id → d'.fileAt? (recordPlace l.base kind id) = none
  kept {place : Place} : (∀ rest, place ≠ auditPlace l.base rest) →
    (∀ kind id, P kind id → place ≠ recordPlace l.base kind id) →
    d'.fileAt? place = d.fileAt? place

/-- Files are lost where records were taken away and audit logs may have been extended then. -/
theorem TakesAway.losesFiles (h : l.TakesAway P d d') (hkeeps : l.KeepsFiles d' d'') :
    l.LosesFiles P d d'' where
  present hP := by
    obtain ⟨bytes, hfile⟩ := h.file hP
    rw [Disk.fileAt?_eq_some_iff.mpr hfile]
    exact Option.some_ne_none bytes
  gone {kind id} hP := by
    rw [hkeeps _ (recordPlace_ne_auditPlace kind id), Disk.fileAt?, h.gone hP]
  kept houtside hne := by
    rw [hkeeps _ houtside, Disk.fileAt?_eq_of_get?_eq (h.kept hne)]

end Layout

/-! ## Deleting one record -/

theorem Storage.takesAway_deleteRecord (h : s.deleteRecord kind id d = (.ok (), d')) :
    s.layout.TakesAway (fun kind' id' => kind' = kind ∧ id' = id) d d' := by
  rcases s.deleteRecord_footprint kind id d with ⟨e, hfails⟩ | ⟨m, hok, hremoves⟩
  · rw [h] at hfails
    cases hfails
  rw [h] at hok
  cases hok
  constructor
  · rintro _ _ ⟨rfl, rfl⟩
    rcases ask_cases (a := s.deleteRecord _ _) rfl d with ⟨e, hfails⟩ | ⟨p, hpath, -⟩
    · rw [h] at hfails
      cases hfails
    · obtain ⟨hid, rfl⟩ := eq_record_of_presentPath hpath
      obtain ⟨bytes, hread⟩ := Disk.isFile_eq_true_iff.mp (isFile_of_presentPath hpath)
      rw [← Layout.place_record hid]
      exact ⟨bytes, (Disk.readFile_eq_ok_iff.mp hread).2.2⟩
  · rintro _ _ ⟨rfl, rfl⟩
    rw [hremoves.get?_eq, if_pos rfl]
  · intro place hne
    rw [hremoves.get?_eq, if_neg (hne kind id ⟨rfl, rfl⟩)]

end SealedVault
