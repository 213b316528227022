import SealedVault.Proofs.Vault.Integrity

/-!
# Records at rest

While a key is configured, no change of the disk brings about a file with a record that is not
sealed: what is not sealed afterwards was there before, byte for byte. A pass leaves no such file
behind. So from a pass on all records are sealed, for as long as there is some key.
-/

namespace SealedVault

open Sealing (Payload checkOwner)
open Storage (PutsRecord RemovesRecord)

namespace Vault

variable {v : Vault} {base : Place} {d d' : Disk} {w : World} {kind : Kind}

/-! ## Files that are not sealed -/

/-- A file in the directory of a kind holds a record of that kind which is not sealed. -/
def HoldsUnsealed (base : Place) (kind : Kind) (name : String) (bytes : List UInt8) (d : Disk) :
    Prop :=
  d.get? (base ++ [kind.directory] ++ [name]) = some (.file bytes) ∧
    ∃ r : Record kind, Record.ofBytes? kind bytes = some r ∧ r.payload.protection = .none

theorem HoldsUnsealed.of_get?_eq {name : String} {bytes : List UInt8}
    (h : HoldsUnsealed base kind name bytes d')
    (hget : d'.get? (base ++ [kind.directory] ++ [name]) =
      d.get? (base ++ [kind.directory] ++ [name])) :
    HoldsUnsealed base kind name bytes d :=
  ⟨hget ▸ h.1, h.2⟩

/-- Whatever is protected while there is a key is sealed. -/
theorem protection_of_protects {owner : String} {payload : Payload}
    (hkey : v.service.isEnabled = true) (h : v.Protects owner payload) :
    payload.protection = .sealed := by
  obtain ⟨initial, plaintext, hprotect⟩ := h
  obtain ⟨-, hpayload⟩ := protect_eq_ok hprotect
  obtain ⟨key, hmaster⟩ := Option.isSome_iff_exists.mp hkey
  rw [hmaster] at hpayload
  obtain ⟨stored, rfl, -⟩ := hpayload
  rfl

/-- Putting a sealed record on its shelf leaves no further file that is not sealed. -/
theorem HoldsUnsealed.of_puts {kind' : Kind} {r : Record kind'} {name : String}
    {bytes : List UInt8} (h : HoldsUnsealed base kind name bytes d')
    (hputs : PutsRecord base r d d') (hsealed : r.payload.protection = .sealed) :
    HoldsUnsealed base kind name bytes d := by
  obtain ⟨hfile, found, hfound, hplain⟩ := h
  rw [hputs.get?_eq] at hfile
  split at hfile
  next hplace =>
    -- the file is that of the record itself, which reads back sealed
    have hnames := List.append_inj' hplace rfl
    have hkind : kind = kind' :=
      directory_injective (List.cons.inj (List.append_cancel_left hnames.1)).1
    subst hkind
    cases hfile
    rw [r.ofBytes?_toBytes] at hfound
    cases hfound
    rw [hsealed] at hplain
    cases hplain
  next => exact ⟨hfile, found, hfound, hplain⟩

/-- While there is a key, every file that is not sealed after an effect was there before. -/
theorem Effect.holdsUnsealed {name : String} {bytes : List UInt8} (heffect : v.Effect base d d')
    (hkey : v.service.isEnabled = true) (h : HoldsUnsealed base kind name bytes d') :
    HoldsUnsealed base kind name bytes d := by
  cases heffect with
  | note audit =>
    apply h.of_get?_eq
    apply audit.frame
    intro rest hplace
    simp [Layout.auditPlace, directory_ne_audit] at hplace
  | store r storable puts =>
    exact h.of_puts puts (protection_of_protects hkey storable.protects)
  | replace old payload now present protects puts =>
    exact h.of_puts puts (protection_of_protects hkey protects)
  | remove kind' id free removes =>
    have hfile := h.1
    rw [removes.get?_eq] at hfile
    split at hfile
    · cases hfile
    · exact ⟨hfile, h.2⟩

theorem Effects.holdsUnsealed {name : String} {bytes : List UInt8} (h : v.Effects base d d')
    (hkey : v.service.isEnabled = true) (hd' : HoldsUnsealed base kind name bytes d') :
    HoldsUnsealed base kind name bytes d :=
  h.preserves (P := fun a => HoldsUnsealed base kind name bytes a →
      HoldsUnsealed base kind name bytes d)
    (fun _ _ heffect ih ha => ih (heffect.holdsUnsealed hkey ha)) id hd'

/-! ## After a pass -/

/-- A record whose file can be written is sealed by a pass. -/
theorem Resealed.protection_eq {old new : Record kind} (h : v.Resealed old new)
    (hkey : v.service.isEnabled = true) (howner : checkOwner old.owner = .ok ())
    (hwritable : v.storage.layout.Writable kind) : new.payload.protection = .sealed := by
  rw [Resealed] at h
  cases hpayload : old.payload with
  | «sealed» stored =>
    rw [hpayload] at h
    rw [h, hpayload]
    rfl
  | plain plaintext =>
    rw [hpayload] at h
    rcases h with ⟨initial, payload, now, hprotect, rfl⟩ | ⟨-, hcannot⟩
    · exact protection_of_protects hkey ⟨initial, plaintext, hprotect⟩
    · refine absurd ⟨hwritable, fun initial => ?_⟩ hcannot
      obtain ⟨stored, hprotect⟩ :=
        Sealing.Service.exists_protect_of_enabled hkey howner initial plaintext
      exact ⟨_, hprotect⟩

/-- A pass over records that are in order leaves no file that is not sealed. -/
theorem not_holdsUnsealed_of_reseals {keys : List Sealing.MasterKey}
    (hd : Kept v.storage base keys d) (hd' : Kept v.storage base keys d')
    (hkey : v.service.isEnabled = true) (h : v.ResealsKinds Kind.all d d')
    (kind : Kind) (name : String) (bytes : List UInt8) :
    ¬HoldsUnsealed base kind name bytes d' := by
  rintro ⟨hfile, found, hfound, hplain⟩
  obtain ⟨r, -, hr, hbytes⟩ := hd'.exists_of_file hfile
  rw [hfound] at hbytes
  cases hbytes
  cases hold : v.storage.shelf d kind found.id with
  | none =>
    rw [h.none hold] at hr
    cases hr
  | some old =>
    have hmem : kind ∈ Kind.all := by cases kind <;> decide
    obtain ⟨new, hnew, hresealed⟩ := h.resealed hmem hold
    rw [hr] at hnew
    cases hnew
    rw [hresealed.protection_eq hkey (hd.owner hold) (hd.writable hold)] at hplain
    cases hplain

end Vault

/-- The step leaves a key configured. -/
def Step.KeepsKey : Step → Prop
  | .request _ => True
  | .rekey service => service.isEnabled = true

namespace Session

open Vault (HoldsUnsealed Kept)

variable {s : Session} {base : Place} {keys : List Sealing.MasterKey}

/-- A file in the directory of a kind holds a record of that kind which is not sealed. -/
def Unsealed (s : Session) (kind : Kind) (name : String) (bytes : List UInt8) : Prop :=
  ∃ place, s.world.disk.locate (s.vault.storage.layout.kindDirectory kind) = .ok place ∧
    s.world.disk.get? (place ++ [name]) = some (.file bytes) ∧
    ∃ r : Record kind, Record.ofBytes? kind bytes = some r ∧ r.payload.protection = .none

/-- Every file in the directory of a kind holds a record of that kind which is sealed. -/
def AllSealed (s : Session) : Prop :=
  ∀ kind, ∃ place,
    s.world.disk.locate (s.vault.storage.layout.kindDirectory kind) = .ok place ∧
      ∀ name bytes, s.world.disk.get? (place ++ [name]) = some (.file bytes) →
        ∃ r : Record kind, Record.ofBytes? kind bytes = some r ∧ r.payload.protection = .sealed

theorem Sound.locate (h : s.Sound base keys) (kind : Kind) :
    s.world.disk.locate (s.vault.storage.layout.kindDirectory kind) =
      .ok (base ++ [kind.directory]) :=
  (Layout.find_kindDirectory h.kept.consistent.ready.stands kind).1

theorem Sound.unsealed_iff (h : s.Sound base keys) {kind : Kind} {name : String}
    {bytes : List UInt8} :
    s.Unsealed kind name bytes ↔ HoldsUnsealed base kind name bytes s.world.disk := by
  rw [Unsealed, h.locate kind]
  constructor
  · rintro ⟨place, hplace, hfile, hrecord⟩
    cases hplace
    exact ⟨hfile, hrecord⟩
  · rintro ⟨hfile, hrecord⟩
    exact ⟨_, rfl, hfile, hrecord⟩

/-- In a sound session all records are sealed if no file is not. -/
theorem Sound.allSealed (h : s.Sound base keys)
    (hnone : ∀ kind name bytes, ¬s.Unsealed kind name bytes) : s.AllSealed := by
  intro kind
  refine ⟨_, h.locate kind, fun name bytes hfile => ?_⟩
  obtain ⟨r, -, -, hbytes⟩ := h.kept.exists_of_file hfile
  refine ⟨r, hbytes, ?_⟩
  cases hprotection : r.payload.protection with
  | none =>
    exact absurd ⟨_, h.locate kind, hfile, r, hbytes, hprotection⟩ (hnone kind _ _)
  | «sealed» => rfl

/-- While there is a key, a step brings about no file that is not sealed. -/
theorem Sound.unsealed_of_after (h : s.Sound base keys) {step : Step}
    (hkey : s.vault.service.isEnabled = true) {kind : Kind} {name : String} {bytes : List UInt8}
    (hunsealed : (s.after step).Unsealed kind name bytes) : s.Unsealed kind name bytes := by
  cases step with
  | rekey service => exact hunsealed
  | request r =>
    rw [(h.after (.request r)).unsealed_iff] at hunsealed
    rw [h.unsealed_iff]
    exact (Vault.effects_perform h.kept.consistent r).holdsUnsealed hkey hunsealed

theorem isEnabled_after {step : Step} (hkey : s.vault.service.isEnabled = true)
    (hstep : step.KeepsKey) : (s.after step).vault.service.isEnabled = true := by
  cases step with
  | request r => exact hkey
  | rekey service => exact hstep

/-- Nor does any number of steps through which there is some key. -/
theorem Sound.unsealed_of_run (h : s.Sound base keys) {steps : List Step}
    (hkey : s.vault.service.isEnabled = true) (hsteps : ∀ step ∈ steps, step.KeepsKey)
    {kind : Kind} {name : String} {bytes : List UInt8}
    (hunsealed : (s.run steps).Unsealed kind name bytes) : s.Unsealed kind name bytes := by
  induction steps generalizing s keys with
  | nil => exact hunsealed
  | cons step steps ih =>
    obtain ⟨hstep, hrest⟩ := List.forall_mem_cons.mp hsteps
    exact h.unsealed_of_after hkey (ih (h.after step) (isEnabled_after hkey hstep) hrest hunsealed)

/-- A pass with a key succeeds and leaves no file that is not sealed. -/
theorem Sound.reseal (h : s.Sound base keys) (hkey : s.vault.service.isEnabled = true) :
    (∃ summary, s.answer .reseal = .ok (.summary summary)) ∧
      ∀ kind name bytes, ¬(s.after (.request .reseal)).Unsealed kind name bytes := by
  obtain ⟨summary, w', hw', heffects, hreseals⟩ :=
    Vault.exists_reseal h.kept.consistent.toNamed hkey
  have hperform : s.vault.perform .reseal s.world = (.ok (.summary summary), w') := by
    rw [Vault.perform, run_map, hw']
    rfl
  have hafter := h.after (.request .reseal)
  refine ⟨⟨summary, by rw [answer, hperform]⟩, fun kind name bytes => ?_⟩
  rw [hafter.unsealed_iff, Session.after, hperform]
  exact Vault.not_holdsUnsealed_of_reseals h.kept (heffects.kept h.key h.kept) hkey hreseals
    kind name bytes

/-- In every state that a session reaches with a key configured, no request turns a sealed record
into one that is not, or brings about one that is not: each file that is not sealed afterwards was
there before with the same bytes. A pass then seals all records, and whatever follows it leaves them
sealed for as long as there is some key. -/
theorem sealed_at_rest (s : Session) (h : s.Begins) (steps : List Step)
    (hkey : (s.run steps).vault.service.isEnabled = true) :
    (∀ request kind name bytes,
        ((s.run steps).after (.request request)).Unsealed kind name bytes →
          (s.run steps).Unsealed kind name bytes) ∧
      (∃ summary, (s.run steps).answer .reseal = .ok (.summary summary)) ∧
      ∀ later : List Step, (∀ step ∈ later, step.KeepsKey) →
        (((s.run steps).after (.request .reseal)).run later).AllSealed := by
  obtain ⟨base, hsound, -⟩ := h.exists_sound
  have hreached := hsound.run steps
  obtain ⟨hanswer, hnone⟩ := hreached.reseal hkey
  refine ⟨fun request kind name bytes => hreached.unsealed_of_after hkey, hanswer,
    fun later hlater => ?_⟩
  have hpassed := hreached.after (.request .reseal)
  apply (hpassed.run later).allSealed
  intro kind name bytes hunsealed
  exact hnone kind name bytes (hpassed.unsealed_of_run hkey hlater hunsealed)

/-- Claims that were stored without a key are sealed by the pass that follows the first key, and
stay sealed when the key is replaced and more is stored. -/
theorem sealed_at_rest_for_alice :
    (sample .disabled).Begins ∧
      ((sample .disabled).run [.request (.storeClaims ⟨"alice", .user⟩ "Γειά"),
        .rekey ⟨some ⟨List.replicate 16 7, by decide⟩⟩]).vault.service.isEnabled = true ∧
      ((((sample .disabled).run [.request (.storeClaims ⟨"alice", .user⟩ "Γειά"),
        .rekey ⟨some ⟨List.replicate 16 7, by decide⟩⟩]).after (.request .reseal)).run
          [.rekey ⟨some ⟨List.replicate 24 9, by decide⟩⟩,
            .request (.updateClaims ⟨"alice", .user⟩ "record-0" "hello")]).AllSealed := by
  have hbegins := sample_begins .disabled
  have hkey : ((sample .disabled).run [.request (.storeClaims ⟨"alice", .user⟩ "Γειά"),
      .rekey ⟨some ⟨List.replicate 16 7, by decide⟩⟩]).vault.service.isEnabled = true := rfl
  obtain ⟨-, -, hsealed⟩ := sealed_at_rest (sample .disabled) hbegins _ hkey
  refine ⟨hbegins, hkey, hsealed _ ?_⟩
  simp [Step.KeepsKey, Sealing.Service.isEnabled]

end Session

end SealedVault
