import SealedVault.Proofs.Vault.Steps
import Mathlib.Logic.Relation

/-!
# Effects on the data directory

An operation changes the disk in a sequence of single effects: an audit log is extended, a new
record is stored, the payload of a record is replaced, or a record on which nothing hangs is
removed. So what each of these effects preserves holds after every operation.
-/

namespace SealedVault

open Layout (AuditOnly recordPlace)
open Sealing (Payload)
open Storage (PutsRecord RemovesRecord)

/-- The payload is what the service makes of some text for an owner. -/
def Vault.Protects (v : Vault) (owner : String) (payload : Payload) : Prop :=
  ∃ initial plaintext, v.service.protect initial owner plaintext = .ok payload

/-- A new record may be stored under its id, with the owner of the document on which it hangs. -/
structure Vault.Storable (v : Vault) (base : Place) (d : Disk) {kind : Kind} (r : Record kind) :
    Prop where
  valid : isValidId r.id = true
  fits : v.storage.layout.Fits kind r.id
  writable : v.storage.layout.Writable kind
  absent : d.get? (recordPlace base kind r.id) = none
  protects : v.Protects r.owner r.payload
  hangs (id : String) : r.parent? = some id →
    ∃ document, v.storage.shelf d .document id = some document ∧ document.owner = r.owner

/-- One change of the disk. -/
inductive Vault.Effect (v : Vault) (base : Place) (d d' : Disk) : Prop
  | note (audit : AuditOnly base d d')
  | store {kind : Kind} (r : Record kind) (storable : v.Storable base d r)
    (puts : PutsRecord base r d d')
  | replace {kind : Kind} (old : Record kind) (payload : Payload) (now : Calendar.Timestamp)
    (present : v.storage.shelf d kind old.id = some old)
    (protects : v.Protects old.owner payload)
    (puts : PutsRecord base (old.setPayload payload now) d d')
  | remove (kind : Kind) (id : String)
    (free : kind = .document → ∀ kind' id' (r : Record kind'),
      v.storage.shelf d kind' id' = some r → r.parent? ≠ some id)
    (removes : RemovesRecord base kind id d d')

/-- Any number of changes, one after the other. -/
def Vault.Effects (v : Vault) (base : Place) : Disk → Disk → Prop :=
  Relation.ReflTransGen (v.Effect base)

/-- The data directory is there, and every record is found under its own id. -/
structure Named (s : Storage) (base : Place) (d : Disk) : Prop where
  ready : s.ReadyAt base d
  named {kind : Kind} {id : String} {r : Record kind} : s.shelf d kind id = some r → r.id = id

/-- The data directory is there, every record is found under its own id, and what hangs on a
document belongs to the owner of that document, which is there. -/
structure Consistent (s : Storage) (base : Place) (d : Disk) : Prop where
  ready : s.ReadyAt base d
  named {kind : Kind} {id : String} {r : Record kind} : s.shelf d kind id = some r → r.id = id
  hangs {kind : Kind} {id : String} {r : Record kind} {documentId : String} :
    s.shelf d kind id = some r → r.parent? = some documentId →
      ∃ document, s.shelf d .document documentId = some document ∧ document.owner = r.owner

theorem Consistent.toNamed {s : Storage} {base : Place} {d : Disk} (h : Consistent s base d) :
    Named s base d :=
  ⟨h.ready, h.named⟩

/-- What hangs on a document belongs to the owner of the document. -/
theorem Consistent.owner_eq {s : Storage} {base : Place} {d : Disk} (h : Consistent s base d)
    {kind : Kind} {id documentId : String} {r : Record kind} {document : Record .document}
    (hr : s.shelf d kind id = some r) (hparent : r.parent? = some documentId)
    (hdocument : s.shelf d .document documentId = some document) : document.owner = r.owner := by
  obtain ⟨document', hdocument', howner⟩ := h.hangs hr hparent
  rw [hdocument] at hdocument'
  cases hdocument'
  exact howner

namespace Vault

variable {v : Vault} {base : Place} {d d' d'' : Disk}

theorem Effect.keepsDirectories (h : v.Effect base d d') : Disk.KeepsDirectories d d' := by
  cases h with
  | note audit => exact audit.keeps
  | store r storable puts => exact puts.keepsDirectories
  | replace old payload now present protects puts => exact puts.keepsDirectories
  | remove kind id free removes => exact removes.keepsDirectories

theorem Effect.readyAt (h : v.Effect base d d') (hready : v.storage.ReadyAt base d) :
    v.storage.ReadyAt base d' :=
  hready.of_keepsDirectories h.keepsDirectories

theorem shelf_of_auditOnly (hready : v.storage.ReadyAt base d) (h : AuditOnly base d d')
    (kind : Kind) (id : String) : v.storage.shelf d' kind id = v.storage.shelf d kind id :=
  Storage.shelf_congr hready (hready.of_keepsDirectories h.keeps)
    (h.get?_recordPlace kind id)

/-- After a record was put on its shelf, a record that is found is that one, or it was found
before. -/
theorem eq_or_of_shelf_of_puts
    {kind kind' : Kind} {id : String} {r : Record kind} {r' : Record kind'}
    (hready : v.storage.ReadyAt base d) (hid : isValidId r.id = true)
    (hfits : v.storage.layout.Fits kind r.id) (hputs : PutsRecord base r d d')
    (h : v.storage.shelf d' kind' id = some r') :
    (kind' = kind ∧ id = r.id ∧ HEq r' r) ∨
      (¬(kind' = kind ∧ id = r.id) ∧ v.storage.shelf d kind' id = some r') := by
  by_cases hsame : kind' = kind ∧ id = r.id
  · obtain ⟨rfl, rfl⟩ := hsame
    rw [hputs.shelf_self hready hid hfits] at h
    cases h
    exact Or.inl ⟨rfl, rfl, HEq.rfl⟩
  · rw [hputs.shelf_of_ne hready hsame] at h
    exact Or.inr ⟨hsame, h⟩

/-- A record that is found has a valid id and a path that fits. -/
theorem valid_and_fits_of_shelf {kind : Kind} {id : String} {r : Record kind}
    (hready : v.storage.ReadyAt base d) (h : v.storage.shelf d kind id = some r) :
    isValidId id = true ∧ v.storage.layout.Fits kind id := by
  obtain ⟨hid, hfits, -⟩ := (Storage.shelf_eq_some_iff hready).mp h
  exact ⟨hid, hfits⟩

theorem shelf_eq_none_of_absent {kind : Kind} {id : String}
    (hready : v.storage.ReadyAt base d)
    (h : d.get? (recordPlace base kind id) = none) : v.storage.shelf d kind id = none := by
  rw [Option.eq_none_iff_forall_ne_some]
  intro r hr
  obtain ⟨-, -, bytes, hbytes, -⟩ := (Storage.shelf_eq_some_iff hready).mp hr
  rw [h] at hbytes
  cases hbytes

theorem named_of_auditOnly (hd : Named v.storage base d) (h : AuditOnly base d d') :
    Named v.storage base d' := by
  refine ⟨hd.ready.of_keepsDirectories h.keeps, ?_⟩
  intro kind id r hr
  rw [shelf_of_auditOnly hd.ready h] at hr
  exact hd.named hr

theorem named_of_puts {kind : Kind} {r : Record kind}
    (hd : Named v.storage base d) (hid : isValidId r.id = true)
    (hfits : v.storage.layout.Fits kind r.id) (hputs : PutsRecord base r d d') :
    Named v.storage base d' := by
  refine ⟨hd.ready.of_keepsDirectories hputs.keepsDirectories, ?_⟩
  intro kind' id r' hr'
  rcases eq_or_of_shelf_of_puts hd.ready hid hfits hputs hr' with ⟨rfl, rfl, heq⟩ | ⟨-, hold⟩
  · rw [eq_of_heq heq]
  · exact hd.named hold

theorem named_of_removes {kind : Kind} {id : String}
    (hd : Named v.storage base d) (hremoves : RemovesRecord base kind id d d') :
    Named v.storage base d' := by
  refine ⟨hd.ready.of_keepsDirectories hremoves.keepsDirectories, ?_⟩
  intro kind' id' r' hr'
  exact hd.named (hremoves.shelf_of_shelf hd.ready hr')

/-- Every single effect leaves records under their own ids. -/
theorem Effect.named (h : v.Effect base d d') (hd : Named v.storage base d) :
    Named v.storage base d' := by
  cases h with
  | note audit => exact named_of_auditOnly hd audit
  | store r storable puts => exact named_of_puts hd storable.valid storable.fits puts
  | @replace kind old payload now present protects puts =>
    obtain ⟨hvalid, hfits⟩ : isValidId (old.setPayload payload now).id = true ∧
        v.storage.layout.Fits kind (old.setPayload payload now).id :=
      valid_and_fits_of_shelf hd.ready present
    exact named_of_puts hd hvalid hfits puts
  | remove kind id free removes => exact named_of_removes hd removes

theorem consistent_of_auditOnly (hd : Consistent v.storage base d) (h : AuditOnly base d d') :
    Consistent v.storage base d' := by
  have hshelf := @shelf_of_auditOnly v base d d' hd.ready h
  have hnamed := named_of_auditOnly hd.toNamed h
  refine ⟨hnamed.ready, hnamed.named, ?_⟩
  intro kind id r documentId hr hparent
  rw [hshelf] at hr ⊢
  exact hd.hangs hr hparent

/-- A record may be put on its shelf if it hangs on a document of its owner or on none, and if a
record that it replaces has the same owner. -/
theorem consistent_of_puts {kind : Kind} {r : Record kind}
    (hd : Consistent v.storage base d) (hid : isValidId r.id = true)
    (hfits : v.storage.layout.Fits kind r.id)
    (hhangs : ∀ id, r.parent? = some id →
      ∃ document, v.storage.shelf d .document id = some document ∧ document.owner = r.owner)
    (howner : ∀ old, v.storage.shelf d kind r.id = some old → old.owner = r.owner)
    (hputs : PutsRecord base r d d') : Consistent v.storage base d' := by
  have hready := hd.ready
  -- the record may itself be the document on which another one hangs
  have hstill {id owner : String}
      (h : ∃ document, v.storage.shelf d .document id = some document ∧ document.owner = owner) :
      ∃ document, v.storage.shelf d' .document id = some document ∧ document.owner = owner := by
    obtain ⟨document, hdocument, rfl⟩ := h
    by_cases hsame : Kind.document = kind ∧ id = r.id
    · obtain ⟨rfl, rfl⟩ := hsame
      exact ⟨r, hputs.shelf_self hready hid hfits, (howner document hdocument).symm⟩
    · refine ⟨document, ?_, rfl⟩
      rw [hputs.shelf_of_ne hready hsame]
      exact hdocument
  have hnamed := named_of_puts hd.toNamed hid hfits hputs
  refine ⟨hnamed.ready, hnamed.named, ?_⟩
  intro kind' id r' documentId hr' hparent
  rcases eq_or_of_shelf_of_puts hready hid hfits hputs hr' with ⟨rfl, rfl, heq⟩ | ⟨-, hold⟩
  · rw [eq_of_heq heq] at hparent ⊢
    exact hstill (hhangs documentId hparent)
  · exact hstill (hd.hangs hold hparent)

/-- A record on which nothing hangs may be taken away. -/
theorem consistent_of_removes {kind : Kind} {id : String}
    (hd : Consistent v.storage base d)
    (hfree : kind = .document → ∀ kind' id' (r : Record kind'),
      v.storage.shelf d kind' id' = some r → r.parent? ≠ some id)
    (hremoves : RemovesRecord base kind id d d') : Consistent v.storage base d' := by
  have hready := hd.ready
  have hnamed := named_of_removes hd.toNamed hremoves
  refine ⟨hnamed.ready, hnamed.named, ?_⟩
  intro kind' id' r' documentId hr' hparent
  have hold := hremoves.shelf_of_shelf hready hr'
  obtain ⟨document, hdocument, howner⟩ := hd.hangs hold hparent
  refine ⟨document, ?_, howner⟩
  rw [hremoves.shelf_of_ne hready]
  · exact hdocument
  · rintro ⟨rfl, rfl⟩
    exact hfree rfl _ _ _ hold hparent

/-- Every single effect keeps the data directory consistent. -/
theorem Effect.consistent (h : v.Effect base d d') (hd : Consistent v.storage base d) :
    Consistent v.storage base d' := by
  cases h with
  | note audit => exact consistent_of_auditOnly hd audit
  | store r storable puts =>
    refine consistent_of_puts hd storable.valid storable.fits storable.hangs ?_ puts
    intro old hold
    rw [shelf_eq_none_of_absent hd.ready storable.absent] at hold
    cases hold
  | @replace kind old payload now present protects puts =>
    obtain ⟨hvalid, hfits⟩ : isValidId (old.setPayload payload now).id = true ∧
        v.storage.layout.Fits kind (old.setPayload payload now).id :=
      valid_and_fits_of_shelf hd.ready present
    refine consistent_of_puts hd hvalid hfits ?_ ?_ puts
    · intro documentId hparent
      rw [Record.setPayload_parent?] at hparent
      obtain ⟨document, hdocument, howner⟩ := hd.hangs present hparent
      exact ⟨document, hdocument, howner⟩
    · intro old' hold'
      rw [Record.setPayload_id, present] at hold'
      cases hold'
      rfl
  | remove kind id free removes => exact consistent_of_removes hd free removes

/-! ## Sequences of effects -/

theorem Effects.refl (v : Vault) (base : Place) (d : Disk) : v.Effects base d d :=
  Relation.ReflTransGen.refl

theorem Effects.trans (h : v.Effects base d d') (h' : v.Effects base d' d'') :
    v.Effects base d d'' :=
  Relation.ReflTransGen.trans h h'

theorem Effect.effects (h : v.Effect base d d') : v.Effects base d d' :=
  Relation.ReflTransGen.single h

/-- A property that every effect preserves is preserved by any number of them. -/
theorem Effects.preserves {P : Disk → Prop} (h : v.Effects base d d')
    (hstep : ∀ a b, v.Effect base a b → P a → P b) (hd : P d) : P d' := by
  induction h with
  | refl => exact hd
  | tail _ heffect ih => exact hstep _ _ heffect ih

theorem Effects.consistent (h : v.Effects base d d') (hd : Consistent v.storage base d) :
    Consistent v.storage base d' :=
  h.preserves (fun _ _ heffect => heffect.consistent) hd

theorem Effects.named (h : v.Effects base d d') (hd : Named v.storage base d) :
    Named v.storage base d' :=
  h.preserves (fun _ _ heffect => heffect.named) hd

theorem Effects.readyAt (h : v.Effects base d d') (hd : v.storage.ReadyAt base d) :
    v.storage.ReadyAt base d' :=
  h.preserves (fun _ _ heffect => heffect.readyAt) hd

theorem effects_of_auditOnly (h : AuditOnly base d d') : v.Effects base d d' :=
  (Effect.note h).effects

end Vault

end SealedVault
