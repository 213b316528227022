import SealedVault.Proofs.Vault.Effects

/-!
# Sealing what is not sealed

A pass over the records answers with its counts and never fails. It leaves sealed records as they
are, and seals each of the others unless its payload cannot be protected or its file not be written.
-/

namespace SealedVault.Vault

open Layout (AuditOnly)
open Sealing (Payload)
open Storage (PutsRecord)

variable {v : Vault} {base : Place} {d d' : Disk} {w : World} {kind : Kind}

/-- Nothing stands in the way of sealing a plaintext for the owner of a record. -/
def CanProtect (v : Vault) (r : Record kind) (plaintext : String) : Prop :=
  v.storage.layout.Writable kind ∧
    ∀ initial, ∃ payload, v.service.protect initial r.owner plaintext = .ok payload

/-- What becomes of a record in a pass. -/
def Resealed (v : Vault) (old new : Record kind) : Prop :=
  match old.payload with
  | .sealed _ => new = old
  | .plain plaintext =>
    (∃ initial payload now, v.service.protect initial old.owner plaintext = .ok payload ∧
        new = old.setPayload payload now) ∨
      (new = old ∧ ¬v.CanProtect old plaintext)

theorem resealed_of_sealed {r : Record kind} {stored : String} (h : r.payload = .sealed stored) :
    v.Resealed r r := by
  rw [Resealed, h]

/-- A record is sealed, or it is left as it was for a reason. -/
theorem resealRecord_cases
    (h : v.storage.ReadyAt base w.disk) {r : Record kind}
    (hr : v.storage.shelf w.disk kind r.id = some r) (plaintext : String) :
    (∃ e w', v.resealRecord r plaintext w = (.error e, w') ∧ w'.disk = w.disk ∧
        ¬v.CanProtect r plaintext) ∨
      ∃ payload now w', v.resealRecord r plaintext w = (.ok (), w') ∧
        v.service.protect w.initials.next r.owner plaintext = .ok payload ∧
        PutsRecord base (r.setPayload payload now) w.disk w'.disk := by
  cases hprotect : v.service.protect w.initials.next r.owner plaintext with
  | error e =>
    have hseal : v.sealFor kind r.owner plaintext w =
        (.error (.sealing e), { w with initials := w.initials.rest }) := by
      rw [sealFor_eq, hprotect]
      rfl
    refine Or.inl ⟨_, _, run_bind_of_error hseal, rfl, ?_⟩
    rintro ⟨-, hall⟩
    obtain ⟨payload, hpayload⟩ := hall w.initials.next
    rw [hprotect] at hpayload
    cases hpayload
  | ok payload =>
    have hseal : v.sealFor kind r.owner plaintext w =
        (.ok payload, { w with initials := w.initials.rest }) := by
      rw [sealFor_eq, hprotect]
      rfl
    obtain ⟨w₁, hw₁⟩ : ∃ w₁ : World, { w with initials := w.initials.rest } = w₁ := ⟨_, rfl⟩
    rw [hw₁] at hseal
    have hnow : Action.now w₁ = (.ok w₁.clock.next, { w₁ with clock := w₁.clock.rest }) := rfl
    obtain ⟨w₂, hw₂⟩ : ∃ w₂ : World, { w₁ with clock := w₁.clock.rest } = w₂ := ⟨_, rfl⟩
    rw [hw₂] at hnow
    have hdisk₂ : w₂.disk = w.disk := by
      rw [← hw₂, ← hw₁]
    rw [resealRecord, run_bind_of_ok hseal, run_bind_of_ok hnow]
    have hready₂ : v.storage.ReadyAt base w₂.disk := by rwa [hdisk₂]
    rcases Storage.updateRecord_cases hready₂ (r.setPayload payload w₁.clock.next) with
      ⟨e, hupdate⟩ | ⟨m, hupdate, -, -, -, hputs⟩
    · refine Or.inl ⟨_, _, onDisk_of_error hupdate, hdisk₂, ?_⟩
      rintro ⟨hwritable, -⟩
      have hr₂ : v.storage.shelf w₂.disk kind (r.setPayload payload w₁.clock.next).id = some r := by
        rw [hdisk₂]
        exact hr
      obtain ⟨m, hok, -⟩ := Storage.exists_updateRecord hready₂ hwritable hr₂
      rw [hupdate] at hok
      cases hok
    · refine Or.inr ⟨payload, w₁.clock.next, _, onDisk_of_ok hupdate, rfl, ?_⟩
      rw [← hdisk₂]
      exact hputs

theorem resealEach_of_sealed {r : Record kind} {rest : List (Record kind)} {stored : String}
    {more : ResealSummary} {w' : World} (hpayload : r.payload = .sealed stored)
    (hmore : v.resealEach rest w = (.ok more, w')) :
    v.resealEach (r :: rest) w = (.ok (.sealedBefore + more), w') := by
  have hpure : (pure .sealedBefore : Action ResealSummary) w = (.ok .sealedBefore, w) := rfl
  simp only [resealEach, hpayload]
  rw [run_bind_of_ok hpure, run_bind_of_ok hmore]
  rfl

theorem resealEach_of_plain {r : Record kind} {rest : List (Record kind)} {plaintext : String}
    {found : Option Unit} {more : ResealSummary} {w₁ w' : World}
    (hpayload : r.payload = .plain plaintext)
    (hfound : (v.resealRecord r plaintext).attempt w = (.ok found, w₁))
    (hmore : v.resealEach rest w₁ = (.ok more, w')) :
    v.resealEach (r :: rest) w =
      (.ok ((if found.isSome then .sealedNow else .notSealed) + more), w') := by
  have hpure (counts : ResealSummary) :
      (pure counts : Action ResealSummary) w₁ = (.ok counts, w₁) := rfl
  simp only [resealEach, hpayload]
  rw [run_bind_of_ok hfound]
  cases found with
  | some =>
    simp only [Option.isSome_some, if_true]
    rw [run_bind_of_ok (hpure .sealedNow), run_bind_of_ok hmore]
    rfl
  | none =>
    simp only [Option.isSome_none, Bool.false_eq_true, if_false]
    rw [run_bind_of_ok (hpure .notSealed), run_bind_of_ok hmore]
    rfl

/-- What is done with the first record of a list touches no other. -/
theorem exists_resealFirst
    (h : v.storage.ReadyAt base w.disk) {r : Record kind}
    (hr : v.storage.shelf w.disk kind r.id = some r) :
    ∃ w₁ : World,
      (∀ rest more w', v.resealEach rest w₁ = (.ok more, w') →
        ∃ counts, v.resealEach (r :: rest) w = (.ok counts, w')) ∧
      v.Effects base w.disk w₁.disk ∧
      (∀ kind' id, ¬(kind' = kind ∧ id = r.id) →
        v.storage.shelf w₁.disk kind' id = v.storage.shelf w.disk kind' id) ∧
      ∃ new, v.storage.shelf w₁.disk kind r.id = some new ∧ v.Resealed r new := by
  cases hpayload : r.payload with
  | «sealed» stored =>
    exact ⟨w, fun _ _ _ hmore => ⟨_, resealEach_of_sealed hpayload hmore⟩, .refl v base _,
      fun _ _ _ => rfl, r, hr, resealed_of_sealed hpayload⟩
  | plain plaintext =>
    rcases resealRecord_cases h hr plaintext with
      ⟨e, w₁, hfails, hdisk, hcannot⟩ | ⟨payload, now, w₁, hseals, hprotect, hputs⟩
    · have hattempt := attempt_of_error hfails
      refine ⟨w₁, fun _ _ _ hmore => ⟨_, resealEach_of_plain hpayload hattempt hmore⟩, ?_, ?_, r,
        ?_, ?_⟩
      · rw [hdisk]
        exact .refl v base _
      · intro kind' id _
        rw [hdisk]
      · rw [hdisk]
        exact hr
      · rw [Resealed, hpayload]
        exact Or.inr ⟨rfl, hcannot⟩
    · have hattempt := attempt_of_ok hseals
      obtain ⟨hvalid, hfits⟩ : isValidId (r.setPayload payload now).id = true ∧
          v.storage.layout.Fits kind (r.setPayload payload now).id :=
        valid_and_fits_of_shelf h hr
      have hself := hputs.shelf_self h hvalid hfits
      refine ⟨w₁, fun _ _ _ hmore => ⟨_, resealEach_of_plain hpayload hattempt hmore⟩, ?_, ?_, _,
        hself, ?_⟩
      · exact (Effect.replace r payload now hr ⟨_, plaintext, hprotect⟩ hputs).effects
      · intro kind' id hne
        exact hputs.shelf_of_ne h hne
      · rw [Resealed, hpayload]
        exact Or.inl ⟨_, payload, now, hprotect, rfl⟩

/-- Each record of a list is looked at, and no other record is touched. -/
theorem exists_resealEach
    (h : v.storage.ReadyAt base w.disk) {records : List (Record kind)}
    (hnodup : (records.map (·.id)).Nodup)
    (hpresent : ∀ r ∈ records, v.storage.shelf w.disk kind r.id = some r) :
    ∃ counts w', v.resealEach records w = (.ok counts, w') ∧ v.Effects base w.disk w'.disk ∧
      (∀ kind' id, ¬(kind' = kind ∧ id ∈ records.map (·.id)) →
        v.storage.shelf w'.disk kind' id = v.storage.shelf w.disk kind' id) ∧
      ∀ r ∈ records, ∃ new, v.storage.shelf w'.disk kind r.id = some new ∧ v.Resealed r new := by
  induction records generalizing w with
  | nil => exact ⟨.zero, w, rfl, .refl v base _, fun _ _ _ => rfl, by simp⟩
  | cons r rest ih =>
    obtain ⟨hnot, hnodup⟩ := List.nodup_cons.mp hnodup
    obtain ⟨w₁, hgoesOn, heffects₁, hkept₁, new, hnew, hresealed⟩ :=
      exists_resealFirst h (hpresent r (by simp))
    have hready₁ := heffects₁.readyAt h
    have hstill : ∀ r' ∈ rest, v.storage.shelf w₁.disk kind r'.id = some r' := by
      intro r' hr'
      rw [hkept₁]
      · exact hpresent r' (by simp [hr'])
      · rintro ⟨-, heq⟩
        exact hnot (List.mem_map.mpr ⟨r', hr', heq⟩)
    obtain ⟨more, w₂, hmore, heffects₂, hkept₂, hrest⟩ := ih hready₁ hnodup hstill
    obtain ⟨counts, hcounts⟩ := hgoesOn rest more w₂ hmore
    refine ⟨counts, w₂, hcounts, heffects₁.trans heffects₂, ?_, ?_⟩
    · intro kind' id hne
      have hne' : ¬(kind' = kind ∧ id ∈ rest.map (·.id)) :=
        fun hmem => hne ⟨hmem.1, List.mem_cons_of_mem _ hmem.2⟩
      rw [hkept₂ kind' id hne', hkept₁]
      rintro ⟨rfl, rfl⟩
      exact hne ⟨rfl, by simp⟩
    · intro r' hr'
      rcases List.mem_cons.mp hr' with rfl | hr'
      · refine ⟨new, ?_, hresealed⟩
        rw [hkept₂ kind r'.id fun hmem => hnot hmem.2]
        exact hnew
      · exact hrest r' hr'

/-- What a pass over some kinds does to the shelves. -/
structure ResealsKinds (v : Vault) (kinds : List Kind) (d d' : Disk) : Prop where
  none {kind : Kind} {id : String} : v.storage.shelf d kind id = none →
    v.storage.shelf d' kind id = none
  resealed {kind : Kind} {id : String} {r : Record kind} : kind ∈ kinds →
    v.storage.shelf d kind id = some r →
      ∃ new, v.storage.shelf d' kind id = some new ∧ v.Resealed r new
  other {kind : Kind} (id : String) : kind ∉ kinds →
    v.storage.shelf d' kind id = v.storage.shelf d kind id

theorem exists_resealKind (h : Named v.storage base w.disk) (kind : Kind) :
    ∃ counts w', v.resealKind kind w = (.ok counts, w') ∧ v.Effects base w.disk w'.disk ∧
      v.ResealsKinds [kind] w.disk w'.disk := by
  obtain ⟨records, hlist, hmem, hnodup⟩ := Storage.exists_listRecords h.ready kind fun _ => true
  have hask : Action.ask (v.storage.listAll kind) w = (.ok records, w) := ask_of_ok hlist
  have hpresent : ∀ r ∈ records, v.storage.shelf w.disk kind r.id = some r := by
    intro r hr
    obtain ⟨-, id, hid⟩ := (hmem r).mp hr
    rw [h.named hid]
    exact hid
  obtain ⟨counts, w', hw', heffects, hkept, hall⟩ :=
    exists_resealEach h.ready (hnodup fun id r hr => h.named hr) hpresent
  refine ⟨counts, w', ?_, heffects, ?_, ?_, ?_⟩
  · rw [resealKind, run_bind_of_ok hask, hw']
  · intro kind' id hnone
    rw [hkept, hnone]
    rintro ⟨rfl, hid⟩
    obtain ⟨r, hr, rfl⟩ := List.mem_map.mp hid
    rw [hpresent r hr] at hnone
    cases hnone
  · intro kind' id r hkind hr
    obtain rfl := List.mem_singleton.mp hkind
    obtain ⟨new, hnew, hresealed⟩ := hall r ((hmem r).mpr ⟨rfl, id, hr⟩)
    rw [h.named hr] at hnew
    exact ⟨new, hnew, hresealed⟩
  · intro kind' id hkind
    exact hkept kind' id fun hboth => hkind (by simp [hboth.1])

theorem exists_resealKinds
    {kinds : List Kind} (hnodup : kinds.Nodup) (h : Named v.storage base w.disk) :
    ∃ counts w', v.resealKinds kinds w = (.ok counts, w') ∧ v.Effects base w.disk w'.disk ∧
      v.ResealsKinds kinds w.disk w'.disk := by
  induction kinds generalizing w with
  | nil =>
    exact ⟨.zero, w, rfl, .refl v base _, fun hnone => hnone, fun hkind => by simp at hkind,
      fun _ _ => rfl⟩
  | cons kind rest ih =>
    obtain ⟨hnot, hnodup⟩ := List.nodup_cons.mp hnodup
    obtain ⟨counts, w₁, hw₁, heffects₁, hfirst⟩ := exists_resealKind h kind
    obtain ⟨more, w₂, hw₂, heffects₂, hrest⟩ := ih hnodup (heffects₁.named h)
    refine ⟨counts + more, w₂, ?_, heffects₁.trans heffects₂, ?_, ?_, ?_⟩
    · rw [resealKinds, run_bind_of_ok hw₁, run_bind_of_ok hw₂]
      rfl
    · intro kind' id hnone
      exact hrest.none (hfirst.none hnone)
    · intro kind' id r hkind hr
      rcases List.mem_cons.mp hkind with rfl | hkind
      · obtain ⟨new, hnew, hresealed⟩ := hfirst.resealed (by simp) hr
        refine ⟨new, ?_, hresealed⟩
        rw [hrest.other id hnot]
        exact hnew
      · have hother : kind' ∉ [kind] := by
          rintro hmem
          rw [List.mem_singleton] at hmem
          exact hnot (hmem ▸ hkind)
        apply hrest.resealed hkind
        rw [hfirst.other id hother]
        exact hr
    · intro kind' id hkind
      rw [List.mem_cons, not_or] at hkind
      rw [hrest.other id hkind.2, hfirst.other id (by simpa using hkind.1)]

theorem nodup_allKinds : Kind.all.Nodup := by decide

theorem reseal_of_disabled (h : v.service.isEnabled = false) :
    v.reseal w = (.ok .zero, w) := by
  rw [reseal, h]
  rfl

/-- With a key a pass looks at every record. -/
theorem exists_reseal
    (h : Named v.storage base w.disk) (hkey : v.service.isEnabled = true) :
    ∃ summary w', v.reseal w = (.ok summary, w') ∧ v.Effects base w.disk w'.disk ∧
      v.ResealsKinds Kind.all w.disk w'.disk := by
  obtain ⟨summary, w₁, hw₁, heffects, hreseals⟩ := exists_resealKinds nodup_allKinds h
  have hready₁ := heffects.readyAt h.ready
  rw [reseal, if_pos hkey, run_bind_of_ok hw₁]
  by_cases hcounts : 0 < summary.resealed ∨ 0 < summary.failed
  · obtain ⟨w₂, hw₂, haudit⟩ :=
      exists_note hready₁ .recordsResealed fun e => e.withDetails summary.details
    have hshelf := shelf_of_auditOnly hready₁ haudit
    refine ⟨summary, w₂, ?_, heffects.trans (effects_of_auditOnly haudit), ?_, ?_, ?_⟩
    · rw [if_pos hcounts, run_bind_of_ok hw₂]
      rfl
    · intro kind id hnone
      rw [hshelf]
      exact hreseals.none hnone
    · intro kind id r hkind hr
      rw [hshelf]
      exact hreseals.resealed hkind hr
    · intro kind id hkind
      rw [hshelf]
      exact hreseals.other id hkind
  · refine ⟨summary, w₁, ?_, heffects, hreseals⟩
    rw [if_neg hcounts]
    rfl

end SealedVault.Vault
