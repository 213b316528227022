import Mathlib.Data.Set.Card
import SealedVault.Proofs.Store.Contents

/-!
# Counting records

The number of records that satisfy a condition is that of the ids under which such records are
found. Where each record is found under its own id, a listing has each of them once, so they can be
counted one after the other.
-/

namespace SealedVault.Storage

variable {s : Storage} {d d' : Disk} {kind : Kind} {kinds : List Kind}

/-- The number of the records of a kind that are found and satisfy a condition. -/
noncomputable def number (s : Storage) (d : Disk) (kind : Kind) (P : Record kind → Prop) : Nat :=
  {id : String | ∃ r, s.getRecord kind id d = .ok r ∧ P r}.ncard

/-- The number of the records of several kinds that are found and satisfy a condition. -/
noncomputable def tally (s : Storage) (d : Disk) (kinds : List Kind)
    (P : (kind : Kind) → Record kind → Prop) : Nat :=
  (kinds.map fun kind => s.number d kind (P kind)).sum

theorem number_congr {P Q : Record kind → Prop}
    (h : ∀ id, (∃ r, s.getRecord kind id d = .ok r ∧ P r) ↔
      ∃ r, s.getRecord kind id d' = .ok r ∧ Q r) :
    s.number d kind P = s.number d' kind Q := by
  rw [number, number]
  congr 1
  ext id
  exact h id

theorem number_eq_zero {P : Record kind → Prop}
    (h : ∀ id (r : Record kind), s.getRecord kind id d = .ok r → ¬P r) :
    s.number d kind P = 0 := by
  have hempty : {id : String | ∃ r, s.getRecord kind id d = .ok r ∧ P r} = ∅ := by
    rw [Set.eq_empty_iff_forall_notMem]
    rintro id ⟨r, hr, hP⟩
    exact h id r hr hP
  rw [number, hempty, Set.ncard_empty]

theorem tally_congr {P Q : (kind : Kind) → Record kind → Prop}
    (h : ∀ kind ∈ kinds, s.number d kind (P kind) = s.number d' kind (Q kind)) :
    s.tally d kinds P = s.tally d' kinds Q := by
  rw [tally, tally, List.map_congr_left h]

theorem tally_eq_zero {P : (kind : Kind) → Record kind → Prop}
    (h : ∀ kind ∈ kinds, s.number d kind (P kind) = 0) : s.tally d kinds P = 0 := by
  rw [tally, List.map_congr_left h]
  simp

/-- Where records are found under their own ids, those of a listing are counted one by one. -/
theorem number_eq_countP (hready : s.initialized = true) {records : List (Record kind)}
    (hrecords : s.listAll kind d = .ok records)
    (hnamed : ∀ id (r : Record kind), s.getRecord kind id d = .ok r → r.id = id)
    (P : Record kind → Prop) [DecidablePred P] :
    s.number d kind P = records.countP fun r => P r := by
  have hnodup : (records.map (·.id)).Nodup :=
    nodup_of_ascending (pairwise_ids_listRecords hready hrecords fun id r hr _ => hnamed id r hr)
  have hchosen : ((records.filter fun r => P r).map (·.id)).Nodup :=
    hnodup.sublist (List.filter_sublist.map _)
  have hids : {id : String | ∃ r, s.getRecord kind id d = .ok r ∧ P r} =
      (((records.filter fun r => P r).map (·.id)).toFinset : Set String) := by
    ext id
    simp only [Set.mem_ofPred_eq, List.coe_toFinset, List.mem_map, List.mem_filter,
      mem_listRecords_iff hready hrecords, decide_eq_true_eq, true_and]
    constructor
    · rintro ⟨r, hr, hP⟩
      exact ⟨r, ⟨⟨id, hr⟩, hP⟩, hnamed id r hr⟩
    · rintro ⟨r, ⟨⟨name, hr⟩, hP⟩, rfl⟩
      rw [← hnamed name r hr] at hr
      exact ⟨r, hr, hP⟩
  rw [number, hids, Set.ncard_coe_finset, List.toFinset_card_of_nodup hchosen, List.length_map,
    List.countP_eq_length_filter]

end SealedVault.Storage
