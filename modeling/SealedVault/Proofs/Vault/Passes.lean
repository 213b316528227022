import SealedVault.Proofs.Store.LogBytes
import SealedVault.Proofs.Store.Tallies
import SealedVault.Proofs.Store.WorkingFiles
import SealedVault.Proofs.Vault.Notes
import SealedVault.Proofs.Vault.Recovery
import SealedVault.Proofs.Vault.WriteBack

/-!
# What a pass counts and leaves

A pass over the records needs no more than directories for the kinds, and that each record is found
under its own id. It counts the records that are found, those among them that it seals, and those
that it should have sealed and cannot. A record is due when it is not sealed, its owner is not
blank, and a working file can be made beside its file. Just the files of the records that are due
change. So nothing is due afterwards, and another pass finds the same records, counts the same that
cannot be sealed, and changes no file of a record.
-/

namespace SealedVault

open Disk (DiffersAt)
open Layout (AuditOnly auditPlace recordPlace recordPlace_injective)
open Sealing (Payload Service)
open Storage (PutsRecord)

variable {v : Vault} {s : Storage} {w : World} {d d' d'' : Disk} {kind : Kind} {id : String}
  {K K' : Kind → String → Prop}

theorem ResealSummary.add_eq (a b : ResealSummary) :
    a + b = ⟨a.scanned + b.scanned, a.resealed + b.resealed, a.failed + b.failed⟩ := rfl

namespace Storage

/-! ## Records that are due -/

/-- Nothing stands in the way of sealing the record: its owner is not blank, and a working file can
be made beside its file. -/
def Sealable (s : Storage) (r : Record kind) : Prop :=
  Text.trim r.owner ≠ "" ∧ s.layout.Writable kind

/-- The record is not sealed, and can be. -/
def Due (s : Storage) (r : Record kind) : Prop := r.payload.protection = .none ∧ s.Sealable r

/-- The record is not sealed, and cannot be. -/
def Stuck (s : Storage) (r : Record kind) : Prop := r.payload.protection = .none ∧ ¬s.Sealable r

instance (s : Storage) (r : Record kind) : Decidable (s.Sealable r) :=
  inferInstanceAs (Decidable (_ ≠ _ ∧ Disk.checkPath _ = .ok ()))

instance (s : Storage) (r : Record kind) : Decidable (s.Due r) :=
  inferInstanceAs (Decidable (_ = _ ∧ s.Sealable r))

instance (s : Storage) (r : Record kind) : Decidable (s.Stuck r) :=
  inferInstanceAs (Decidable (_ = _ ∧ ¬s.Sealable r))

/-- A record that is due is found under the id. -/
def HasDue (s : Storage) (d : Disk) (kind : Kind) (id : String) : Prop :=
  ∃ r : Record kind, s.getRecord kind id d = .ok r ∧ s.Due r

theorem not_hasDue {r : Record kind} (hr : s.getRecord kind id d = .ok r) (hnot : ¬s.Due r) :
    ¬s.HasDue d kind id := by
  rintro ⟨r', hr', hdue⟩
  rw [hr] at hr'
  cases hr'
  exact hnot hdue

/-- The kinds have directories, and each record is found under the id that it holds. -/
structure InOrder (s : Storage) (d : Disk) : Prop where
  directory (kind : Kind) : d.find (s.layout.kindDirectory kind) = .ok .directory
  named {kind : Kind} {id : String} {r : Record kind} :
    s.getRecord kind id d = .ok r → r.id = id

/-- The counts of a pass over the records that are found: all of them, those that it seals, and
those that it cannot seal. -/
noncomputable def sealingCounts (s : Storage) (d : Disk) : ResealSummary where
  scanned := s.tally d Kind.all fun _ _ => True
  resealed := s.tally d Kind.all fun _ => s.Due
  failed := s.tally d Kind.all fun _ => s.Stuck

theorem sealingCounts_congr
    (h : ∀ kind id, s.getRecord kind id d' = s.getRecord kind id d) :
    s.sealingCounts d' = s.sealingCounts d := by
  simp only [sealingCounts, tally, number, h]

/-- Where a working file can be made beside every record, only blank owners are in the way. -/
theorem sealingCounts_of_writable (h : ∀ kind, s.layout.Writable kind) (d : Disk) :
    s.sealingCounts d =
      ⟨s.tally d Kind.all fun _ _ => True,
        s.tally d Kind.all fun _ r => r.payload.protection = .none ∧ Text.trim r.owner ≠ "",
        s.tally d Kind.all fun _ r => r.payload.protection = .none ∧ Text.trim r.owner = ""⟩ := by
  have hsealable {kind : Kind} (r : Record kind) : s.Sealable r ↔ Text.trim r.owner ≠ "" :=
    and_iff_left (h kind)
  have hdue : (fun kind => s.Due : ∀ kind, Record kind → Prop) =
      fun _ r => r.payload.protection = .none ∧ Text.trim r.owner ≠ "" := by
    funext kind r
    rw [Due, hsealable]
  have hstuck : (fun kind => s.Stuck : ∀ kind, Record kind → Prop) =
      fun _ r => r.payload.protection = .none ∧ Text.trim r.owner = "" := by
    funext kind r
    rw [Stuck, hsealable, ne_eq, Decidable.not_not]
  rw [sealingCounts, hdue, hstuck]

/-- A record that has a file is found there after it was put in its place. -/
theorem getRecord_of_putsRecord {old new : Record kind}
    (hold : s.getRecord kind new.id d = .ok old) (hputs : PutsRecord s.layout.base new d d') :
    s.getRecord kind new.id d' = .ok new := by
  obtain ⟨hready, hid, bytes, hread, -⟩ := getRecord_eq_ok_iff.mp hold
  obtain ⟨hlocate, hwants, -⟩ := Disk.readFile_eq_ok_iff.mp hread
  have hafter : d'.readFile (s.layout.record kind new.id) = .ok new.toBytes :=
    Disk.readFile_eq_ok_iff.mpr
      ⟨Disk.locate_of_keepsDirectories hputs.keepsDirectories hlocate, hwants,
        by rw [Layout.place_record hid, hputs.get?_eq, if_pos rfl]⟩
  exact getRecord_eq_ok_iff.mpr ⟨hready, hid, _, hafter, new.ofBytes?_toBytes⟩

end Storage

namespace Vault

/-! ## Sealing some records -/

/-- The new record is the old one with its text sealed for its owner, to whom it still opens. -/
def SealedFrom (v : Vault) (old new : Record kind) : Prop :=
  ∃ plaintext stored now, old.payload = .plain plaintext ∧
    v.service.reveal old.owner (.sealed stored) = .ok plaintext ∧
    new = old.setPayload (.sealed stored) now

theorem SealedFrom.id_eq {old new : Record kind} (h : v.SealedFrom old new) : new.id = old.id := by
  obtain ⟨-, -, -, -, -, rfl⟩ := h
  rfl

theorem SealedFrom.protection_eq {old new : Record kind} (h : v.SealedFrom old new) :
    new.payload.protection = .sealed := by
  obtain ⟨-, -, -, -, -, rfl⟩ := h
  rfl

/-- Of the records that are due those that `K` tells are sealed, and no other file is changed. -/
structure Seals (v : Vault) (K : Kind → String → Prop) (d d' : Disk) : Prop where
  differs : DiffersAt (fun place => ∃ kind id, K kind id ∧ v.storage.HasDue d kind id ∧
    place = recordPlace v.storage.layout.base kind id) d d'
  «sealed» {kind : Kind} {id : String} {r : Record kind} : K kind id →
    v.storage.getRecord kind id d = .ok r → v.storage.Due r →
      ∃ new, v.storage.getRecord kind id d' = .ok new ∧ v.SealedFrom r new

theorem seals_nothing (h : ∀ kind id, K kind id → ¬v.storage.HasDue d kind id) : v.Seals K d d where
  differs := .refl _ d
  «sealed» hK hr hdue := absurd ⟨_, hr, hdue⟩ (h _ _ hK)

namespace Seals

theorem congr (h : v.Seals K d d')
    (hiff : ∀ kind id, v.storage.HasDue d kind id → (K kind id ↔ K' kind id)) :
    v.Seals K' d d' where
  differs place := by
    refine (h.differs place).imp_right ?_
    rintro ⟨⟨kind, id, hK, hdue, hplace⟩, hfiles⟩
    exact ⟨⟨kind, id, (hiff kind id hdue).mp hK, hdue, hplace⟩, hfiles⟩
  «sealed» hK' hr hdue := h.sealed ((hiff _ _ ⟨_, hr, hdue⟩).mpr hK') hr hdue

/-- What is not sealed on the way is found as it was. -/
theorem getRecord_iff (h : v.Seals K d d') (hnot : ¬(K kind id ∧ v.storage.HasDue d kind id))
    {r : Record kind} :
    v.storage.getRecord kind id d' = .ok r ↔ v.storage.getRecord kind id d = .ok r := by
  rw [Storage.getRecord_eq_ok_iff, Storage.getRecord_eq_ok_iff]
  apply and_congr_right
  intro _
  apply and_congr_right
  intro hid
  rw [h.differs.readFile_eq]
  rintro ⟨kind', id', hK, hdue, hplace⟩
  rw [Layout.place_record hid] at hplace
  obtain ⟨rfl, rfl⟩ := recordPlace_injective hplace
  exact hnot ⟨hK, hdue⟩

/-- A record that is found afterwards was found before, or was sealed. -/
theorem getRecord_cases (h : v.Seals K d d') {r : Record kind}
    (hr : v.storage.getRecord kind id d' = .ok r) :
    (¬(K kind id ∧ v.storage.HasDue d kind id) ∧ v.storage.getRecord kind id d = .ok r) ∨
      ∃ old, K kind id ∧ v.storage.getRecord kind id d = .ok old ∧ v.storage.Due old ∧
        v.SealedFrom old r := by
  by_cases hsealed : K kind id ∧ v.storage.HasDue d kind id
  · obtain ⟨hK, old, hold, hdue⟩ := hsealed
    obtain ⟨new, hnew, hfrom⟩ := h.sealed hK hold hdue
    rw [hr] at hnew
    cases hnew
    exact Or.inr ⟨old, hK, hold, hdue, hfrom⟩
  · exact Or.inl ⟨hsealed, (h.getRecord_iff hsealed).mp hr⟩

theorem hasDue_iff (h : v.Seals K d d') :
    v.storage.HasDue d' kind id ↔ v.storage.HasDue d kind id ∧ ¬K kind id := by
  constructor
  · rintro ⟨r, hr, hdue⟩
    rcases h.getRecord_cases hr with ⟨hnot, hbefore⟩ | ⟨old, -, -, -, hfrom⟩
    · exact ⟨⟨r, hbefore, hdue⟩, fun hK => hnot ⟨hK, r, hbefore, hdue⟩⟩
    · rw [Storage.Due, hfrom.protection_eq] at hdue
      cases hdue.1
  · rintro ⟨⟨r, hr, hdue⟩, hnot⟩
    exact ⟨r, (h.getRecord_iff fun hboth => hnot hboth.1).mpr hr, hdue⟩

theorem trans (h : v.Seals K d d') (h' : v.Seals K' d' d'') :
    v.Seals (fun kind id => K kind id ∨ K' kind id) d d'' where
  differs := by
    refine (h.differs.mono ?_).trans (h'.differs.mono ?_)
    · rintro place ⟨kind, id, hK, hdue, hplace⟩
      exact ⟨kind, id, Or.inl hK, hdue, hplace⟩
    · rintro place ⟨kind, id, hK', hdue, hplace⟩
      exact ⟨kind, id, Or.inr hK', (h.hasDue_iff.mp hdue).1, hplace⟩
  «sealed» {kind id r} hboth hr hdue := by
    by_cases hK : K kind id
    · obtain ⟨new, hnew, hfrom⟩ := h.sealed hK hr hdue
      refine ⟨new, (h'.getRecord_iff ?_).mpr hnew, hfrom⟩
      exact fun hagain => (h.hasDue_iff.mp hagain.2).2 hK
    · have hstill := (h.getRecord_iff fun hfirst => hK hfirst.1).mpr hr
      exact h'.sealed (hboth.resolve_left hK) hstill hdue

theorem keepsDirectories (h : v.Seals K d d') : Disk.KeepsDirectories d d' :=
  fun place => (Disk.get?_directory_iff_of_sameShape h.differs.sameShape place).mp

theorem inOrder (h : v.Seals K d d') (hd : v.storage.InOrder d) : v.storage.InOrder d' where
  directory kind := Disk.find_directory_of_keepsDirectories h.keepsDirectories (hd.directory kind)
  named {kind id r} hr := by
    rcases h.getRecord_cases hr with ⟨-, hbefore⟩ | ⟨old, -, hold, -, hfrom⟩
    · exact hd.named hbefore
    · rw [hfrom.id_eq]
      exact hd.named hold

/-- The records of a kind none of which is sealed are counted alike. -/
theorem number_eq (h : v.Seals K d d') (hnot : ∀ id, ¬K kind id) (P : Record kind → Prop) :
    v.storage.number d' kind P = v.storage.number d kind P := by
  apply Storage.number_congr
  intro id
  simp only [h.getRecord_iff fun hboth => hnot id hboth.1]

/-- When all that is due was sealed, the same records are found, none of them is due, and the same
cannot be sealed. -/
theorem sealingCounts_eq (h : v.Seals (fun _ _ => True) d d') :
    v.storage.sealingCounts d' =
      ⟨(v.storage.sealingCounts d).scanned, 0, (v.storage.sealingCounts d).failed⟩ := by
  have hstuck {kind : Kind} {id : String} {r : Record kind} (hr : v.storage.Stuck r) :
      v.storage.getRecord kind id d' = .ok r ↔ v.storage.getRecord kind id d = .ok r := by
    constructor
    · intro hfound
      rcases h.getRecord_cases hfound with ⟨-, hbefore⟩ | ⟨old, -, -, -, hfrom⟩
      · exact hbefore
      · rw [Storage.Stuck, hfrom.protection_eq] at hr
        cases hr.1
    · intro hfound
      refine (h.getRecord_iff fun hboth => ?_).mpr hfound
      exact Storage.not_hasDue hfound (fun hdue => hr.2 hdue.2) hboth.2
  have hfound (kind : Kind) (id : String) :
      (∃ r : Record kind, v.storage.getRecord kind id d' = .ok r) ↔
        ∃ r : Record kind, v.storage.getRecord kind id d = .ok r := by
    constructor
    · rintro ⟨r, hr⟩
      rcases h.getRecord_cases hr with ⟨-, hbefore⟩ | ⟨old, -, hold, -⟩
      · exact ⟨r, hbefore⟩
      · exact ⟨old, hold⟩
    · rintro ⟨r, hr⟩
      by_cases hdue : v.storage.Due r
      · obtain ⟨new, hnew, -⟩ := h.sealed trivial hr hdue
        exact ⟨new, hnew⟩
      · exact ⟨r, (h.getRecord_iff fun hboth => Storage.not_hasDue hr hdue hboth.2).mpr hr⟩
  have hscanned : v.storage.tally d' Kind.all (fun _ _ => True) =
      v.storage.tally d Kind.all fun _ _ => True := by
    refine Storage.tally_congr fun kind _ => Storage.number_congr fun id => ?_
    simpa only [and_true] using hfound kind id
  have hresealed : v.storage.tally d' Kind.all (fun _ => v.storage.Due) = 0 := by
    refine Storage.tally_eq_zero fun kind _ => Storage.number_eq_zero fun id r hr hdue => ?_
    exact (h.hasDue_iff.mp ⟨r, hr, hdue⟩).2 trivial
  have hfailed : v.storage.tally d' Kind.all (fun _ => v.storage.Stuck) =
      v.storage.tally d Kind.all fun _ => v.storage.Stuck := by
    refine Storage.tally_congr fun kind _ => Storage.number_congr fun id => ?_
    exact exists_congr fun r => and_congr_left hstuck
  rw [Storage.sealingCounts, hscanned, hresealed, hfailed, Storage.sealingCounts]

end Seals

/-- Sealing one record that is due. -/
theorem seals_of_putsRecord {r new : Record kind} (hr : v.storage.getRecord kind r.id d = .ok r)
    (hdue : v.storage.Due r) (hfrom : v.SealedFrom r new)
    (hputs : PutsRecord v.storage.layout.base new d d') :
    v.Seals (fun kind' id => kind' = kind ∧ id = r.id) d d' := by
  have hid := hfrom.id_eq
  constructor
  · intro place
    rw [hputs.get?_eq, hid]
    by_cases hplace : place = recordPlace v.storage.layout.base kind r.id
    · obtain ⟨-, hvalid, bytes, hread, -⟩ := Storage.getRecord_eq_ok_iff.mp hr
      have hget := (Disk.readFile_eq_ok_iff.mp hread).2.2
      rw [Layout.place_record hvalid, ← hplace] at hget
      rw [if_pos hplace]
      exact Or.inr ⟨⟨kind, r.id, ⟨rfl, rfl⟩, ⟨r, hr, hdue⟩, hplace⟩, bytes, _, hget, rfl⟩
    · rw [if_neg hplace]
      exact Or.inl rfl
  · rintro kind' id' r' ⟨rfl, rfl⟩ hr' -
    rw [hr] at hr'
    cases hr'
    rw [← hid] at hr ⊢
    exact ⟨new, Storage.getRecord_of_putsRecord hr hputs, hfrom⟩

/-! ## One record -/

/-- A record that has a file is sealed if nothing stands in the way, and else nothing is done. -/
theorem resealRecord_cases_of_found (hkey : v.service.isEnabled = true) {r : Record kind}
    (hr : v.storage.getRecord kind r.id w.disk = .ok r) {plaintext : String}
    (hpayload : r.payload = .plain plaintext) :
    (v.storage.Sealable r ∧ ∃ new w', v.resealRecord r plaintext w = (.ok (), w') ∧
        v.SealedFrom r new ∧ PutsRecord v.storage.layout.base new w.disk w'.disk) ∨
      (¬v.storage.Sealable r ∧
        ∃ e w', v.resealRecord r plaintext w = (.error e, w') ∧ w'.disk = w.disk) := by
  obtain ⟨hid, hfile⟩ := Storage.isFile_of_getRecord hr
  rcases sealFor_cases v kind r.owner plaintext w with
    ⟨e, w₁, hseal, hdisk⟩ | ⟨payload, w₁, hseal, hdisk, hprotect⟩
  · refine Or.inr ⟨fun hsealable => ?_, _, w₁, run_bind_of_error hseal, hdisk⟩
    obtain ⟨stored, hprotect⟩ := Service.exists_protect_of_enabled hkey
      (Sealing.checkOwner_of_ne hsealable.1) w.initials.next plaintext
    rw [sealFor_eq, hprotect] at hseal
    cases hseal
  · have howner := (protect_eq_ok hprotect).1
    obtain ⟨stored, hsealed⟩ :=
      Service.exists_protect_of_enabled hkey howner w.initials.next plaintext
    rw [hprotect] at hsealed
    cases hsealed
    have hnow : Action.now w₁ = (.ok w₁.clock.next, { w₁ with clock := w₁.clock.rest }) := rfl
    obtain ⟨new, hnew⟩ : ∃ new, new = r.setPayload (.sealed stored) w₁.clock.next := ⟨_, rfl⟩
    have hfrom : v.SealedFrom r new :=
      ⟨plaintext, stored, _, hpayload, reveal_of_protect hprotect, hnew⟩
    rw [← hdisk, ← hfrom.id_eq] at hfile
    rw [← hfrom.id_eq] at hid
    rw [resealRecord, run_bind_of_ok hseal, run_bind_of_ok hnow, ← hnew]
    rcases Storage.updateRecord_cases_of_isFile v.ready hid hfile with
      ⟨hwritable, d', hupdate, hputs⟩ | ⟨hwritable, e, hupdate⟩
    · rw [hdisk] at hputs
      exact Or.inl ⟨⟨Sealing.ne_of_checkOwner howner, hwritable⟩, new, _, onDisk_of_ok hupdate,
        hfrom, hputs⟩
    · exact Or.inr ⟨fun hsealable => hwritable hsealable.2, _, _, onDisk_of_error hupdate, hdisk⟩

/-! ## Many records -/

/-- What is done with the first record of a list, and how it is counted. -/
theorem exists_resealHead (hkey : v.service.isEnabled = true) {r : Record kind}
    (hr : v.storage.getRecord kind r.id w.disk = .ok r) :
    ∃ w₁ : World, v.Seals (fun kind' id => kind' = kind ∧ id = r.id) w.disk w₁.disk ∧
      ∀ rest more w', v.resealEach rest w₁ = (.ok more, w') →
        v.resealEach (r :: rest) w =
          (.ok (⟨1, if v.storage.Due r then 1 else 0, if v.storage.Stuck r then 1 else 0⟩ + more),
            w') := by
  have hnothing (hnot : ¬v.storage.Due r) :
      v.Seals (fun kind' id => kind' = kind ∧ id = r.id) w.disk w.disk := by
    apply seals_nothing
    rintro _ _ ⟨rfl, rfl⟩
    exact Storage.not_hasDue hr hnot
  cases hpayload : r.payload with
  | «sealed» stored =>
    have hdue : ¬v.storage.Due r := by simp [Storage.Due, hpayload, Payload.protection]
    have hstuck : ¬v.storage.Stuck r := by simp [Storage.Stuck, hpayload, Payload.protection]
    refine ⟨w, hnothing hdue, fun rest more w' hmore => ?_⟩
    rw [resealEach_of_sealed hpayload hmore, if_neg hdue, if_neg hstuck]
    rfl
  | plain plaintext =>
    have hplain : r.payload.protection = .none := by rw [hpayload]; rfl
    rcases resealRecord_cases_of_found hkey hr hpayload with
      ⟨hsealable, new, w₁, hseals, hfrom, hputs⟩ | ⟨hnot, e, w₁, hfails, hdisk⟩
    · have hdue : v.storage.Due r := ⟨hplain, hsealable⟩
      have hstuck : ¬v.storage.Stuck r := fun hstuck => hstuck.2 hsealable
      refine ⟨w₁, seals_of_putsRecord hr hdue hfrom hputs, fun rest more w' hmore => ?_⟩
      rw [resealEach_of_plain hpayload (attempt_of_ok hseals) hmore, if_pos hdue, if_neg hstuck]
      rfl
    · have hdue : ¬v.storage.Due r := fun hdue => hnot hdue.2
      have hstuck : v.storage.Stuck r := ⟨hplain, hnot⟩
      refine ⟨w₁, hdisk ▸ hnothing hdue, fun rest more w' hmore => ?_⟩
      rw [resealEach_of_plain hpayload (attempt_of_error hfails) hmore, if_neg hdue, if_pos hstuck]
      rfl

/-- Each record of a list is counted once, and those of them that are due are sealed. -/
theorem exists_resealEach_counts (hkey : v.service.isEnabled = true)
    {records : List (Record kind)} (hnodup : (records.map (·.id)).Nodup)
    (hfound : ∀ r ∈ records, v.storage.getRecord kind r.id w.disk = .ok r) :
    ∃ w', v.resealEach records w =
        (.ok ⟨records.length, records.countP fun r => v.storage.Due r,
          records.countP fun r => v.storage.Stuck r⟩, w') ∧
      v.Seals (fun kind' id => kind' = kind ∧ id ∈ records.map (·.id)) w.disk w'.disk := by
  induction records generalizing w with
  | nil => exact ⟨w, rfl, seals_nothing fun kind' id hmem => by simp at hmem⟩
  | cons r rest ih =>
    obtain ⟨hnot, hnodup⟩ := List.nodup_cons.mp hnodup
    obtain ⟨w₁, hseals₁, hgoesOn⟩ := exists_resealHead hkey (hfound r List.mem_cons_self)
    have hstill : ∀ r' ∈ rest, v.storage.getRecord kind r'.id w₁.disk = .ok r' := by
      intro r' hr'
      refine (hseals₁.getRecord_iff fun hboth => ?_).mpr
        (hfound r' (List.mem_cons_of_mem r hr'))
      exact hnot (List.mem_map.mpr ⟨r', hr', hboth.1.2⟩)
    obtain ⟨w₂, hrest, hseals₂⟩ := ih hnodup hstill
    refine ⟨w₂, ?_, (hseals₁.trans hseals₂).congr fun kind' id _ => ?_⟩
    · rw [hgoesOn rest _ w₂ hrest, ResealSummary.add_eq, List.length_cons, List.countP_cons,
        List.countP_cons]
      simp only [decide_eq_true_eq, Nat.add_comm]
    · rw [List.map_cons, List.mem_cons, and_or_left]

/-- The records of a kind are counted, and those that are due are sealed. -/
theorem exists_resealKind_counts (hkey : v.service.isEnabled = true)
    (h : v.storage.InOrder w.disk) (kind : Kind) :
    ∃ w', v.resealKind kind w =
        (.ok ⟨v.storage.number w.disk kind fun _ => True,
          v.storage.number w.disk kind v.storage.Due,
          v.storage.number w.disk kind v.storage.Stuck⟩, w') ∧
      v.Seals (fun kind' _ => kind' = kind) w.disk w'.disk := by
  cases hlist : v.storage.listAll kind w.disk with
  | error e =>
    have hblocked := Storage.isFile_kindDirectory_of_listRecords_eq_error v.ready hlist
    rw [Disk.isFile, h.directory] at hblocked
    cases hblocked
  | ok records =>
    have hmem := Storage.mem_listRecords_iff v.ready hlist
    have hfound : ∀ r ∈ records, v.storage.getRecord kind r.id w.disk = .ok r := by
      intro r hr
      obtain ⟨-, id, hid⟩ := (hmem r).mp hr
      rw [h.named hid]
      exact hid
    have hascending := Storage.pairwise_ids_listRecords v.ready hlist fun id r hr _ => h.named hr
    obtain ⟨w', hrun, hseals⟩ :=
      exists_resealEach_counts hkey (nodup_of_ascending hascending) hfound
    refine ⟨w', ?_, hseals.congr fun kind' id hdue => ⟨And.left, ?_⟩⟩
    · rw [resealKind, run_bind_of_ok (ask_of_ok hlist), hrun]
      simp only [Storage.number_eq_countP v.ready hlist fun id r hr => h.named hr, decide_true,
        List.countP_true]
    · rintro rfl
      obtain ⟨r, hr, -⟩ := hdue
      exact ⟨rfl, List.mem_map.mpr ⟨r, (hmem r).mpr ⟨rfl, id, hr⟩, h.named hr⟩⟩

/-- So it is for several kinds, one after the other. -/
theorem exists_resealKinds_counts (hkey : v.service.isEnabled = true) {kinds : List Kind}
    (hnodup : kinds.Nodup) (h : v.storage.InOrder w.disk) :
    ∃ w', v.resealKinds kinds w =
        (.ok ⟨v.storage.tally w.disk kinds fun _ _ => True,
          v.storage.tally w.disk kinds fun _ => v.storage.Due,
          v.storage.tally w.disk kinds fun _ => v.storage.Stuck⟩, w') ∧
      v.Seals (fun kind _ => kind ∈ kinds) w.disk w'.disk := by
  induction kinds generalizing w with
  | nil => exact ⟨w, rfl, seals_nothing fun kind id hmem => by simp at hmem⟩
  | cons kind rest ih =>
    obtain ⟨hnot, hnodup⟩ := List.nodup_cons.mp hnodup
    obtain ⟨w₁, hfirst, hseals₁⟩ := exists_resealKind_counts hkey h kind
    obtain ⟨w₂, hrest, hseals₂⟩ := ih hnodup (hseals₁.inOrder h)
    -- the records of the kinds that follow are as they were
    have hlater (P : (kind : Kind) → Record kind → Prop) :
        v.storage.tally w₁.disk rest P = v.storage.tally w.disk rest P := by
      refine Storage.tally_congr fun kind' hkind' => hseals₁.number_eq (fun _ => ?_) _
      rintro rfl
      exact hnot hkind'
    refine ⟨w₂, ?_, (hseals₁.trans hseals₂).congr fun kind' id _ => ?_⟩
    · rw [resealKinds, run_bind_of_ok hfirst, run_bind_of_ok hrest, hlater, hlater, hlater]
      rfl
    · rw [List.mem_cons]

/-! ## A pass -/

/-- What a pass with a key does. Each record that is due is found afterwards under the same id, with
its text sealed for its owner. Outside the audit directory every other file is what it was. In the
end it is noted if records were sealed or could not be. -/
structure Passed (v : Vault) (w w' : World) : Prop where
  «sealed» {kind : Kind} {id : String} {r : Record kind} :
    v.storage.getRecord kind id w.disk = .ok r → v.storage.Due r →
      ∃ new, v.storage.getRecord kind id w'.disk = .ok new ∧ v.SealedFrom r new
  kept {place : Place} : (∀ rest, place ≠ auditPlace v.storage.layout.base rest) →
    (∀ kind id, v.storage.HasDue w.disk kind id →
      place ≠ recordPlace v.storage.layout.base kind id) →
    w'.disk.fileAt? place = w.disk.fileAt? place
  noted : ∃ d event, v.Seals (fun _ _ => True) w.disk d ∧
    event.eventType = .recordsResealed ∧
    event.details = some (v.storage.sealingCounts w.disk).details ∧
    w'.disk =
      if 0 < (v.storage.sealingCounts w.disk).resealed ∨
          0 < (v.storage.sealingCounts w.disk).failed then (Audit.log v.storage event d).2
      else d

/-- What is noted makes no difference to the records. -/
theorem keeps_of_noted (h : v.storage.InOrder d) {event : Audit.Event} {c : Prop} [Decidable c]
    (hdisk : d' = if c then (Audit.log v.storage event d).2 else d) :
    AuditOnly v.storage.layout.base d d' ∧ v.storage.layout.KeepsFiles d d' ∧
      ∀ kind id, v.storage.getRecord kind id d' = v.storage.getRecord kind id d := by
  have hrooted := (Layout.rooted_of_find_kindDirectory (h.directory .claims)).1
  by_cases hc : c
  · rw [hdisk, if_pos hc]
    exact ⟨Audit.auditOnly_log hrooted event, Audit.keepsFiles_log _ _ _,
      fun kind id => Storage.getRecord_log_eq hrooted event kind id⟩
  · rw [hdisk, if_neg hc]
    exact ⟨.refl _ d, .refl _ d, fun _ _ => rfl⟩

/-- With a key a pass succeeds. -/
theorem exists_passed (hkey : v.service.isEnabled = true) (h : v.storage.InOrder w.disk) :
    ∃ w', v.reseal w = (.ok (v.storage.sealingCounts w.disk), w') ∧ v.Passed w w' := by
  obtain ⟨w₁, hrun, hseals⟩ := exists_resealKinds_counts hkey nodup_allKinds h
  rw [← Storage.sealingCounts] at hrun
  have hall : v.Seals (fun _ _ => True) w.disk w₁.disk :=
    hseals.congr fun kind _ _ => iff_of_true (by cases kind <;> decide) trivial
  obtain ⟨event, hevent⟩ : ∃ event, event = nextEvent w₁ .recordsResealed fun e =>
      e.withDetails (v.storage.sealingCounts w.disk).details := ⟨_, rfl⟩
  obtain ⟨w', hreseal, hdisk⟩ : ∃ w', v.reseal w = (.ok (v.storage.sealingCounts w.disk), w') ∧
      w'.disk =
        if 0 < (v.storage.sealingCounts w.disk).resealed ∨
            0 < (v.storage.sealingCounts w.disk).failed then
          (Audit.log v.storage event w₁.disk).2
        else w₁.disk := by
    rw [reseal, if_pos hkey, run_bind_of_ok hrun]
    by_cases hcounts : 0 < (v.storage.sealingCounts w.disk).resealed ∨
        0 < (v.storage.sealingCounts w.disk).failed
    · rw [if_pos hcounts, if_pos hcounts, run_bind_of_ok (note_eq _ _ _ _), hevent]
      exact ⟨_, rfl, rfl⟩
    · rw [if_neg hcounts, if_neg hcounts]
      exact ⟨_, rfl, rfl⟩
  obtain ⟨-, hfiles, hrecords⟩ := keeps_of_noted (hall.inOrder h) hdisk
  refine ⟨w', hreseal, ?_, ?_, w₁.disk, event, hall, ?_, ?_, hdisk⟩
  · intro kind id r hr hdue
    rw [hrecords]
    exact hall.sealed trivial hr hdue
  · intro place houtside hnot
    rw [hfiles place houtside]
    apply Disk.fileAt?_eq_of_get?_eq
    apply hall.differs.get?_eq
    rintro ⟨kind, id, -, hdue, hplace⟩
    exact hnot kind id hdue hplace
  · rw [hevent]
    rfl
  · rw [hevent]
    rfl

/-- After a pass the records are in order, nothing is due, and the same cannot be sealed. -/
theorem Passed.leaves {w' : World} (hpassed : v.Passed w w') (h : v.storage.InOrder w.disk) :
    v.storage.InOrder w'.disk ∧
      (∀ kind id, ¬v.storage.HasDue w'.disk kind id) ∧
      v.storage.sealingCounts w'.disk =
        ⟨(v.storage.sealingCounts w.disk).scanned, 0,
          (v.storage.sealingCounts w.disk).failed⟩ := by
  obtain ⟨d, event, hseals, -, -, hdisk⟩ := hpassed.noted
  have hd := hseals.inOrder h
  obtain ⟨haudit, -, hrecords⟩ := keeps_of_noted hd hdisk
  refine ⟨⟨fun kind => ?_, fun hr => ?_⟩, fun kind id hdue => ?_, ?_⟩
  · exact Disk.find_directory_of_keepsDirectories haudit.keeps (hd.directory kind)
  · rw [hrecords] at hr
    exact hd.named hr
  · rw [Storage.HasDue] at hdue
    simp only [hrecords] at hdue
    exact (hseals.hasDue_iff.mp hdue).2 trivial
  · rw [Storage.sealingCounts_congr hrecords, hseals.sealingCounts_eq]

/-- A pass keeps the directories, and all that is neither for a record nor for the audit log. -/
theorem Passed.keeps {w' : World} (hpassed : v.Passed w w') (h : v.storage.InOrder w.disk) :
    Disk.KeepsDirectories w.disk w'.disk ∧
      ∀ place, (∀ rest, place ≠ auditPlace v.storage.layout.base rest) →
        (∀ kind id, place ≠ recordPlace v.storage.layout.base kind id) →
          w'.disk.get? place = w.disk.get? place := by
  obtain ⟨d, event, hseals, -, -, hdisk⟩ := hpassed.noted
  obtain ⟨haudit, -, -⟩ := keeps_of_noted (hseals.inOrder h) hdisk
  refine ⟨hseals.keepsDirectories.trans haudit.keeps, fun place houtside hrecord => ?_⟩
  rw [haudit.frame place houtside]
  apply hseals.differs.get?_eq
  rintro ⟨kind, id, -, -, hplace⟩
  exact hrecord kind id hplace

/-- Without a key a pass counts nothing and does nothing. With a key, where the kinds have
directories and records are found under their own ids, it succeeds. It counts the records that are
found, those that it seals, and those that it cannot seal because their owners are blank or because
no working file can be made beside them. A second pass counts the same without sealing any, and
changes no file outside the audit directory. Where working files can be made, only blank owners are
in the way of sealing. -/
theorem reseal_counts_and_settles (v : Vault) (w : World) :
    (v.service.isEnabled = false → v.reseal w = (.ok .zero, w)) ∧
      (v.service.isEnabled = true → v.storage.InOrder w.disk →
        ∃ w' w'', v.reseal w = (.ok (v.storage.sealingCounts w.disk), w') ∧ v.Passed w w' ∧
          v.reseal w' =
            (.ok ⟨(v.storage.sealingCounts w.disk).scanned, 0,
              (v.storage.sealingCounts w.disk).failed⟩, w'') ∧
          v.storage.layout.KeepsFiles w'.disk w''.disk) ∧
      ((∀ kind, v.storage.layout.Writable kind) →
        v.storage.sealingCounts w.disk =
          ⟨v.storage.tally w.disk Kind.all fun _ _ => True,
            v.storage.tally w.disk Kind.all fun _ r =>
              r.payload.protection = .none ∧ Text.trim r.owner ≠ "",
            v.storage.tally w.disk Kind.all fun _ r =>
              r.payload.protection = .none ∧ Text.trim r.owner = ""⟩) := by
  refine ⟨reseal_of_disabled, fun hkey h => ?_, fun hwritable =>
    Storage.sealingCounts_of_writable hwritable _⟩
  obtain ⟨w', hfirst, hpassed⟩ := exists_passed hkey h
  obtain ⟨hw', hnone, hcounts⟩ := hpassed.leaves h
  obtain ⟨w'', hsecond, hagain⟩ := exists_passed hkey hw'
  rw [hcounts] at hsecond
  exact ⟨w', w'', hfirst, hpassed, hsecond, fun place houtside =>
    hagain.kept houtside fun kind id hdue => absurd hdue (hnone kind id)⟩

theorem inOrder_photoWorld : travelSession.vault.storage.InOrder photoWorld.disk := by
  obtain ⟨base, hd⟩ := exists_named_of_filled filled_photoWorld
  refine ⟨fun kind => ?_, fun hr => hd.named (Storage.shelf_eq_some_iff_getRecord.mpr hr)⟩
  cases kind <;> decide +kernel

/-- The travel photo is sealed by a first pass and the second one seals nothing. Without a key the
claims of alice stay as they are. -/
theorem travel_photo_sealed_once :
    (∃ w' w'' new,
      travelSession.vault.reseal photoWorld =
          (.ok (travelSession.vault.storage.sealingCounts photoWorld.disk), w') ∧
        travelSession.vault.storage.getRecord .photo "p-1" w'.disk = .ok new ∧
        travelSession.vault.SealedFrom travelPhoto new ∧
        travelSession.vault.reseal w' =
          (.ok ⟨(travelSession.vault.storage.sealingCounts photoWorld.disk).scanned, 0,
            (travelSession.vault.storage.sealingCounts photoWorld.disk).failed⟩, w'') ∧
        (travelSession.vault.storage.sealingCounts photoWorld.disk).failed =
          travelSession.vault.storage.tally photoWorld.disk Kind.all fun _ r =>
            r.payload.protection = .none ∧ Text.trim r.owner = "") ∧
      claimsSession.vault.reseal claimsSession.world = (.ok .zero, claimsSession.world) := by
  refine ⟨?_, (reseal_counts_and_settles claimsSession.vault claimsSession.world).1 rfl⟩
  obtain ⟨base, -, hphoto, -⟩ := exists_shelves_photoWorld
  have hwritable : ∀ kind, travelSession.vault.storage.layout.Writable kind := by
    intro kind
    rw [Layout.Writable]
    cases kind <;> decide +kernel
  have hdue : travelSession.vault.storage.Due travelPhoto := ⟨rfl, by decide, hwritable .photo⟩
  obtain ⟨-, hpass, hcounts⟩ := reseal_counts_and_settles travelSession.vault photoWorld
  obtain ⟨w', w'', hfirst, hpassed, hsecond, -⟩ := hpass rfl inOrder_photoWorld
  obtain ⟨new, hnew, hfrom⟩ :=
    hpassed.sealed (Storage.shelf_eq_some_iff_getRecord.mp hphoto) hdue
  exact ⟨w', w'', new, hfirst, hnew, hfrom, hsecond,
    congrArg ResealSummary.failed (hcounts hwritable)⟩

end Vault

end SealedVault
