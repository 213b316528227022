import SealedVault.Proofs.Sealing.Opening
import SealedVault.Proofs.Store.Matching
import SealedVault.Proofs.Vault.Effects

/-!
# Twins

Two vaults that are used in the same way, each with its own texts and its own key. Their services
have a key at the same time, their payloads are sealed at the same time, and their records have the
same ids, owners and documents. Each vault opens what it sealed itself, so that opening succeeds in
the one if and only if it does in the other.
-/

namespace SealedVault

open Sealing (MasterKey Payload Service checkOwner)

variable {key key' : MasterKey} {owner : String}

namespace Sealing

/-- Neither service has a key, or each has its own. -/
inductive Service.Twin (key key' : MasterKey) : Service → Service → Prop
  | disabled : Service.Twin key key' ⟨none⟩ ⟨none⟩
  | keyed : Service.Twin key key' ⟨some key⟩ ⟨some key'⟩

/-- Both payloads are stored as they are, or each is sealed for the owner under its own key. -/
inductive Payload.Twin (key key' : MasterKey) (owner : String) : Payload → Payload → Prop
  | plain (text text' : String) : Payload.Twin key key' owner (.plain text) (.plain text')
  | sealed {stored stored' : String}
      (isSealing : ∃ initial plaintext, Service.IsSealing key owner initial plaintext stored)
      (isSealing' : ∃ initial plaintext, Service.IsSealing key' owner initial plaintext stored') :
      Payload.Twin key key' owner (.sealed stored) (.sealed stored')

theorem Payload.Twin.protection_eq {payload payload' : Payload}
    (h : Payload.Twin key key' owner payload payload') :
    payload'.protection = payload.protection := by
  cases h <;> rfl

namespace Service.Twin

variable {service service' : Service}

theorem isEnabled_eq (h : Service.Twin key key' service service') :
    service'.isEnabled = service.isEnabled := by
  cases h <;> rfl

/-- Whether a text can be protected is a matter of its owner alone. -/
theorem relatedResults_protect (h : Service.Twin key key' service service')
    (initial initial' : Cipher.Block) (owner plaintext plaintext' : String) :
    RelatedResults (Payload.Twin key key' owner) (service.protect initial owner plaintext)
      (service'.protect initial' owner plaintext') := by
  cases howner : checkOwner owner with
  | error e =>
    rw [Service.protect, Service.protect, howner]
    exact .error e
  | ok =>
    cases h with
    | disabled =>
      have hplain := Service.protect_of_disabled howner initial plaintext
      have hplain' := Service.protect_of_disabled howner initial' plaintext'
      rw [Service.disabled] at hplain hplain'
      rw [hplain, hplain']
      exact .ok (.plain plaintext plaintext')
    | keyed =>
      obtain ⟨stored, hstored, hsealing⟩ := Service.exists_protect key howner initial plaintext
      obtain ⟨stored', hstored', hsealing'⟩ :=
        Service.exists_protect key' howner initial' plaintext'
      rw [hstored, hstored']
      exact .ok (.sealed ⟨initial, plaintext, hsealing⟩ ⟨initial', plaintext', hsealing'⟩)

/-- With a key each service opens what was sealed under the key, and without one neither does. -/
theorem relatedResults_reveal (h : Service.Twin key key' service service')
    {payload payload' : Payload} (htwin : Payload.Twin key key' owner payload payload') :
    RelatedResults (fun _ _ => True) (service.reveal owner payload)
      (service'.reveal owner payload') := by
  cases howner : checkOwner owner with
  | error e =>
    have hfails (service : Service) (payload : Payload) :
        service.reveal owner payload = .error e := by
      cases payload with
      | plain text => rw [Service.reveal, howner, error_bind]
      | sealed stored => rw [Service.reveal, howner, error_bind]
    rw [hfails, hfails]
    exact .error e
  | ok =>
    cases htwin with
    | plain text text' =>
      rw [Service.reveal_plain _ howner, Service.reveal_plain _ howner]
      exact .ok trivial
    | @sealed stored stored' isSealing isSealing' =>
      cases h with
      | disabled =>
        have hstored := Service.reveal_sealed_of_disabled howner stored
        have hstored' := Service.reveal_sealed_of_disabled howner stored'
        rw [Service.disabled] at hstored hstored'
        rw [hstored, hstored']
        exact .error _
      | keyed =>
        obtain ⟨initial, plaintext, hsealing⟩ := isSealing
        obtain ⟨initial', plaintext', hsealing'⟩ := isSealing'
        rw [Service.reveal_sealed key howner, Service.unsealText_of_isSealing howner hsealing,
          Service.reveal_sealed key' howner, Service.unsealText_of_isSealing howner hsealing']
        exact .ok trivial

end Service.Twin

end Sealing

/-! ## Records -/

variable {kind : Kind}

namespace Record

variable {r r' : Record kind}

/-- The records have the same id and owner and hang on the same document, and their payloads are
twins. -/
structure Twin (key key' : MasterKey) (kind : Kind) (r r' : Record kind) : Prop where
  id_eq : r'.id = r.id
  owner_eq : r'.owner = r.owner
  parent?_eq : r'.parent? = r.parent?
  payload : Payload.Twin key key' r.owner r.payload r'.payload

theorem Twin.label_eq (h : Record.Twin key key' kind r r') : r'.label = r.label := by
  rw [label, label, h.id_eq]

theorem Twin.grants_eq (h : Record.Twin key key' kind r r') (caller : Caller) :
    r'.grants caller = r.grants caller := by
  rw [grants, grants, h.owner_eq]

theorem Twin.setPayload (h : Record.Twin key key' kind r r') {payload payload' : Payload}
    (hpayload : Payload.Twin key key' r.owner payload payload') (now : Calendar.Timestamp) :
    Record.Twin key key' kind (r.setPayload payload now) (r'.setPayload payload' now) where
  id_eq := h.id_eq
  owner_eq := h.owner_eq
  parent?_eq := by rw [setPayload_parent?, setPayload_parent?, h.parent?_eq]
  payload := hpayload

theorem map_id_eq_of_twins {rs rs' : List (Record kind)}
    (h : List.Forall₂ (Record.Twin key key' kind) rs rs') :
    rs'.map (·.id) = rs.map (·.id) := by
  induction h with
  | nil => rfl
  | cons htwin _ ih => rw [List.map_cons, List.map_cons, htwin.id_eq, ih]

end Record

/-! ## Worlds -/

namespace Vault

/-- The vaults keep their records at one path, and their services are twins. -/
structure Twin (key key' : MasterKey) (v v' : Vault) : Prop where
  storage_eq : v'.storage = v.storage
  service : Service.Twin key key' v.service v'.service

/-- The clocks and the sources of ids are the same, and the disks differ in nothing but records that
are twins. -/
structure TwinWorlds (v : Vault) (base : Place) (key key' : MasterKey) (w w' : World) : Prop where
  clock_eq : w'.clock = w.clock
  recordIds_eq : w'.recordIds = w.recordIds
  eventIds_eq : w'.eventIds = w.eventIds
  disk : v.storage.MatchAt base (Record.Twin key key') w.disk w'.disk

end Vault

end SealedVault
