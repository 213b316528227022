import SealedVault.Proofs.Sealing.Opening
import SealedVault.Proofs.Store.AuditDirectory
import SealedVault.Proofs.Store.Listing
import SealedVault.Vault.Request

/-!
# The steps of operations

What each of the steps does to its world: noting changes the audit directory only, and so does the
refusal of a caller or of a payload that does not open. A record is stored or replaced as a whole,
or nothing of it is.
-/

namespace SealedVault

open Layout (AuditOnly recordPlace)
open Sealing (Payload Service SealingError)
open Storage (PutsRecord RemovesRecord)

namespace Record

variable {kind : Kind} {r : Record kind}

/-- Callers other than admins may access their own records only. -/
theorem grants_iff {caller : Caller} :
    r.grants caller = true ↔ r.owner = caller.userId ∨ caller.role = .admin := by
  simp [grants, Role.bypassesOwnership]

@[simp] theorem setPayload_id (payload : Payload) (now : Calendar.Timestamp) :
    (r.setPayload payload now).id = r.id := rfl

@[simp] theorem setPayload_owner (payload : Payload) (now : Calendar.Timestamp) :
    (r.setPayload payload now).owner = r.owner := rfl

@[simp] theorem setPayload_payload (payload : Payload) (now : Calendar.Timestamp) :
    (r.setPayload payload now).payload = payload := rfl

@[simp] theorem setPayload_createdAt (payload : Payload) (now : Calendar.Timestamp) :
    (r.setPayload payload now).createdAt = r.createdAt := rfl

@[simp] theorem setPayload_parent? (payload : Payload) (now : Calendar.Timestamp) :
    (r.setPayload payload now).parent? = r.parent? := by
  cases kind <;> rfl

end Record

namespace Vault

variable {v : Vault} {base : Place} {w : World} {kind : Kind} {caller : Caller} {id : String}

/-! ## Noting -/

theorem note_eq (v : Vault) (eventType : Audit.EventType)
    (complete : Audit.Event → Audit.Event) (w : World) :
    v.note eventType complete w =
      (.ok (), { w with
        eventIds := w.eventIds.rest
        clock := w.clock.rest
        disk := (Audit.log v.storage
          (complete (.plain w.eventIds.next w.clock.next eventType)) w.disk).2 }) := rfl

/-- Noting succeeds and changes the audit directory only. -/
theorem exists_note (h : v.storage.ReadyAt base w.disk) (eventType : Audit.EventType)
    (complete : Audit.Event → Audit.Event) :
    ∃ w', v.note eventType complete w = (.ok (), w') ∧ AuditOnly base w.disk w'.disk :=
  ⟨_, note_eq v eventType complete w, (Audit.extendsAudit_log h _).toAuditOnly⟩

/-! ## Access -/

theorem authorize_of_grants {r : Record kind} (h : r.grants caller = true) :
    v.authorize caller r w = (.ok (), w) := by
  rw [authorize, Record.checkAccess, if_pos h]
  rfl

/-- A caller without access is refused, which is noted. -/
theorem authorize_of_not_grants {r : Record kind} (h : r.grants caller = false) :
    v.authorize caller r w =
      (.error (.permissionDenied caller.userId r.label), (v.noteDenied caller r w).2) := by
  rw [authorize, Record.checkAccess, h]
  rfl

theorem auditOnly_noteDenied (h : v.storage.ReadyAt base w.disk) (caller : Caller)
    (r : Record kind) : AuditOnly base w.disk (v.noteDenied caller r w).2.disk := by
  obtain ⟨w', hw', haudit⟩ := exists_note h .permissionDenied fun e =>
    ((e.withUser caller.userId).withResource kind.name r.id).failed "not the owner"
  rw [noteDenied, hw']
  exact haudit

theorem attempt_of_ok {α : Type} {a : Action α} {x : α} {w' : World} (h : a w = (.ok x, w')) :
    a.attempt w = (.ok (some x), w') := by
  rw [Action.attempt, h]
  rfl

theorem attempt_of_error {α : Type} {a : Action α} {e : VaultError} {w' : World}
    (h : a w = (.error e, w')) : a.attempt w = (.ok none, w') := by
  rw [Action.attempt, h]
  rfl

/-- Attempts go on alike after two runs that end alike. -/
theorem pairedRun_attempt {α β : Type} {R : World → World → Prop} {Q : α → β → Prop}
    {a : Action α} {b : Action β} {w' : World} (h : PairedRun R Q a b w w') :
    PairedRun R (Option.Rel Q) a.attempt b.attempt w w' := by
  refine pairedRun_of_eq rfl rfl (.ok ?_) h.2
  obtain ⟨hresults, -⟩ := h
  generalize (a w).1 = x at hresults
  generalize (b w').1 = y at hresults
  cases hresults with
  | error e => exact .none
  | ok related => exact .some related

theorem ask_of_ok {α : Type} {f : Disk → Except StorageError α} {x : α} (h : f w.disk = .ok x) :
    Action.ask f w = (.ok x, w) := by
  rw [Action.ask, Action.onDisk, DiskAction.ask, h]
  rfl

theorem ask_of_error {α : Type} {f : Disk → Except StorageError α} {e : StorageError}
    (h : f w.disk = .error e) : Action.ask f w = (.error (.ofStorage e), w) := by
  rw [Action.ask, Action.onDisk, DiskAction.ask, h]
  rfl

/-- A successful run of a mapped action is a successful run of the action. -/
theorem of_map_eq_ok {α β : Type} {t : World} {f : α → β} {a : Action α} {y : β}
    (h : (f <$> a) w = (.ok y, t)) : ∃ x, a w = (.ok x, t) ∧ y = f x := by
  rw [run_map] at h
  rcases hrun : a w with ⟨e | x, u⟩
  · rw [hrun] at h
    cases h
  · rw [hrun] at h
    cases h
    exact ⟨x, rfl, rfl⟩

theorem of_ask_eq_ok {α : Type} {f : Disk → Except StorageError α} {x : α} {t : World}
    (h : Action.ask f w = (.ok x, t)) : t = w ∧ f w.disk = .ok x := by
  rw [Action.ask, Action.onDisk, DiskAction.ask] at h
  cases hf : f w.disk with
  | error e =>
    rw [hf] at h
    cases h
  | ok y =>
    rw [hf] at h
    cases h
    exact ⟨rfl, rfl⟩

theorem authorized_of_error {e : StorageError}
    (h : v.storage.getRecord kind id w.disk = .error e) :
    v.authorized kind caller id w = (.error (.ofStorage e), w) :=
  run_bind_of_error (ask_of_error h)

theorem authorized_of_grants {r : Record kind}
    (h : v.storage.getRecord kind id w.disk = .ok r) (hgrants : r.grants caller = true) :
    v.authorized kind caller id w = (.ok r, w) := by
  rw [authorized, run_bind_of_ok (ask_of_ok h), run_bind_of_ok (authorize_of_grants hgrants)]
  rfl

theorem authorized_of_not_grants {r : Record kind}
    (h : v.storage.getRecord kind id w.disk = .ok r) (hgrants : r.grants caller = false) :
    v.authorized kind caller id w =
      (.error (.permissionDenied caller.userId r.label), (v.noteDenied caller r w).2) := by
  rw [authorized, run_bind_of_ok (ask_of_ok h),
    run_bind_of_error (authorize_of_not_grants hgrants)]

/-- A record is found for a caller who may access it, or the operation ends here. -/
theorem authorized_cases
    (h : v.storage.ReadyAt base w.disk) (kind : Kind) (caller : Caller) (id : String) :
    (∃ e w', v.authorized kind caller id w = (.error e, w') ∧ AuditOnly base w.disk w'.disk) ∨
      ∃ r, v.authorized kind caller id w = (.ok r, w) ∧
        v.storage.shelf w.disk kind id = some r ∧ r.grants caller = true := by
  cases hget : v.storage.getRecord kind id w.disk with
  | error e => exact Or.inl ⟨_, w, authorized_of_error hget, .refl base _⟩
  | ok r =>
    cases hgrants : r.grants caller with
    | true =>
      exact Or.inr ⟨r, authorized_of_grants hget hgrants,
        Storage.shelf_eq_some_iff_getRecord.mpr hget, hgrants⟩
    | false =>
      exact Or.inl ⟨_, _, authorized_of_not_grants hget hgrants,
        auditOnly_noteDenied h caller r⟩

/-- Whoever is let through has access to the record that was found. -/
theorem getRecord_of_authorized {r : Record kind} {t : World}
    (h : v.authorized kind caller id w = (.ok r, t)) :
    t = w ∧ v.storage.getRecord kind id w.disk = .ok r ∧ r.grants caller = true := by
  cases hget : v.storage.getRecord kind id w.disk with
  | error e =>
    rw [authorized_of_error hget] at h
    cases h
  | ok found =>
    cases hgrants : found.grants caller with
    | true =>
      rw [authorized_of_grants hget hgrants] at h
      cases h
      exact ⟨rfl, rfl, hgrants⟩
    | false =>
      rw [authorized_of_not_grants hget hgrants] at h
      cases h

/-- Whoever is let through has access to the record that is on the shelf. -/
theorem shelf_of_authorized {r : Record kind} {t : World}
    (h : v.authorized kind caller id w = (.ok r, t)) :
    t = w ∧ v.storage.shelf w.disk kind id = some r ∧ r.grants caller = true := by
  obtain ⟨hsame, hget, hgrants⟩ := getRecord_of_authorized h
  exact ⟨hsame, Storage.shelf_eq_some_iff_getRecord.mpr hget, hgrants⟩

/-! ## Sealing and opening -/

theorem sealFor_eq (v : Vault) (kind : Kind) (owner plaintext : String) (w : World) :
    v.sealFor kind owner plaintext w =
      ((v.service.protect w.initials.next owner plaintext).mapError .sealing,
        { w with initials := w.initials.rest }) := by
  rw [sealFor, Service.encryptOf_eq]
  simp only [Service.encrypt]
  rw [run_bind_of_ok (show Action.newInitial w = _ from rfl), run_bind]
  cases v.service.protect w.initials.next owner plaintext with
  | error e => rfl
  | ok payload => exact congrArg (fun p => (Except.ok p, _)) payload.ofStored_protection_text

/-- The payload of a plaintext is what the service makes of it, or nothing is done. -/
theorem sealFor_cases (v : Vault) (kind : Kind) (owner plaintext : String) (w : World) :
    (∃ e w', v.sealFor kind owner plaintext w = (.error e, w') ∧ w'.disk = w.disk) ∨
      ∃ payload w', v.sealFor kind owner plaintext w = (.ok payload, w') ∧ w'.disk = w.disk ∧
        v.service.protect w.initials.next owner plaintext = .ok payload := by
  rw [sealFor_eq]
  cases v.service.protect w.initials.next owner plaintext with
  | error e => exact Or.inl ⟨_, _, rfl, rfl⟩
  | ok payload => exact Or.inr ⟨payload, _, rfl, rfl, rfl⟩

/-- The payload of a record is opened by the service, whatever its kind. -/
theorem reveal_eq (v : Vault) (caller : Caller) (r : Record kind) (keyOwner : String) :
    v.reveal caller r keyOwner =
      match v.service.reveal keyOwner r.payload with
      | .ok plaintext => pure plaintext
      | .error e => v.noteUnopened caller r e >>= fun _ => throw (.sealing e) := by
  have hopens : v.service.decryptOf kind keyOwner r.payload.protection r.payload.text =
      v.service.reveal keyOwner r.payload := by
    rw [Service.decryptOf_eq, Service.decrypt, Payload.ofStored_protection_text]
  cases hreveal : v.service.reveal keyOwner r.payload with
  | ok plaintext => simp only [reveal, Payload.toStored, hopens, hreveal]
  | error e => simp only [reveal, Payload.toStored, hopens, hreveal]

theorem reveal_of_ok {r : Record kind} {keyOwner plaintext : String}
    (h : v.service.reveal keyOwner r.payload = .ok plaintext) :
    v.reveal caller r keyOwner w = (.ok plaintext, w) := by
  rw [reveal_eq, h]
  rfl

/-- A payload that does not open is noted. -/
theorem reveal_of_error {r : Record kind} {keyOwner : String} {e : SealingError}
    (h : v.service.reveal keyOwner r.payload = .error e) :
    v.reveal caller r keyOwner w = (.error (.sealing e), (v.noteUnopened caller r e w).2) := by
  rw [reveal_eq, h]
  rfl

theorem auditOnly_noteUnopened (h : v.storage.ReadyAt base w.disk) (caller : Caller)
    (r : Record kind) (e : SealingError) :
    AuditOnly base w.disk (v.noteUnopened caller r e w).2.disk := by
  obtain ⟨w', hw', haudit⟩ := exists_note h .decryptionFailed fun event =>
    (((event.withUser caller.userId).withResource kind.name r.id).withDetails
      (failureDetails r.payload e)).failed e.message
  rw [noteUnopened, hw']
  exact haudit

theorem auditOnly_reveal (h : v.storage.ReadyAt base w.disk) (caller : Caller)
    (r : Record kind) (keyOwner : String) :
    AuditOnly base w.disk (v.reveal caller r keyOwner w).2.disk := by
  cases hreveal : v.service.reveal keyOwner r.payload with
  | ok plaintext =>
    rw [reveal_of_ok hreveal]
    exact .refl base _
  | error e =>
    rw [reveal_of_error hreveal]
    exact auditOnly_noteUnopened h caller r e

theorem exists_noteSuccess (h : v.storage.ReadyAt base w.disk) (eventType : Audit.EventType)
    (caller : Caller) (r : Record kind) :
    ∃ w', v.noteSuccess eventType caller r w = (.ok (), w') ∧ AuditOnly base w.disk w'.disk :=
  exists_note h eventType _

/-- What opening several records does to the disk. -/
theorem auditOnly_revealEach (caller : Caller) (keyOwner : Record kind → String)
    (records : List (Record kind)) (h : v.storage.ReadyAt base w.disk) :
    ∃ opened w', v.revealEach caller keyOwner records w = (.ok opened, w') ∧
      AuditOnly base w.disk w'.disk := by
  induction records generalizing w with
  | nil => exact ⟨[], w, rfl, .refl base _⟩
  | cons r rest ih =>
    have hfirst := auditOnly_reveal h caller r (keyOwner r)
    have hattempt : (v.reveal caller r (keyOwner r)).attempt w =
        (.ok (v.reveal caller r (keyOwner r) w).1.toOption,
          (v.reveal caller r (keyOwner r) w).2) := rfl
    obtain ⟨opened, w', hw', haudit⟩ := ih (h.of_keepsDirectories hfirst.keeps)
    rw [revealEach, run_bind_of_ok hattempt, run_bind_of_ok hw']
    cases (v.reveal caller r (keyOwner r) w).1.toOption with
    | none => exact ⟨opened, w', rfl, hfirst.trans haudit⟩
    | some plaintext => exact ⟨_, w', rfl, hfirst.trans haudit⟩

/-! ## Acting on the disk -/

theorem onDisk_of_ok {α : Type} {a : DiskAction α} {x : α} {d' : Disk}
    (h : a w.disk = (.ok x, d')) : Action.onDisk a w = (.ok x, { w with disk := d' }) := by
  rw [Action.onDisk, h]
  rfl

theorem onDisk_of_error {α : Type} {a : DiskAction α} {e : StorageError} {d' : Disk}
    (h : a w.disk = (.error e, d')) :
    Action.onDisk a w = (.error (.ofStorage e), { w with disk := d' }) := by
  rw [Action.onDisk, h]
  rfl

end Vault

end SealedVault
