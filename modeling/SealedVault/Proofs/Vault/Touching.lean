import SealedVault.Proofs.Store.Footprints
import SealedVault.Proofs.Vault.Steps

/-!
# What the steps of operations touch

Whatever the disk holds, the steps that look for records, open them and note what was done change no
file outside the audit directory. The steps that store, replace and delete a record change its own
file at most. So what an operation touches is told by the records that it stores, replaces and
deletes.
-/

namespace SealedVault.Vault

open Layout (recordPlace)

variable {v : Vault} {w : World} {kind : Kind} {caller : Caller} {id : String} {α β : Type}
  {P Q : Place → Option (List UInt8) → Prop}

/-- An action changes no file outside the audit directory. -/
def Spares (v : Vault) (a : Action α) : Prop :=
  ∀ w, v.storage.layout.KeepsFiles w.disk (a w).2.disk

/-- From a world an action changes a file outside the audit directory only where, and to what, `P`
allows. -/
def Touches (v : Vault) (P : Place → Option (List UInt8) → Prop) (w : World) (a : Action α) :
    Prop :=
  v.storage.layout.ChangesFiles P w.disk (a w).2.disk

/-- From a world an action changes files only, and a file only where, and to what, `P` allows. -/
def Rewrites (P : Place → Option (List UInt8) → Prop) (w : World) (a : Action α) : Prop :=
  Disk.Rewrites P w.disk (a w).2.disk

/-! ## Sequences -/

theorem Spares.bind {a : Action α} {f : α → Action β} (h : v.Spares a)
    (hnext : ∀ x, v.Spares (f x)) : v.Spares (a >>= f) := by
  intro w
  apply run_bind_rel (R := fun (s t : World) => v.storage.layout.KeepsFiles s.disk t.disk)
  · intro s t u hfirst hsecond
    exact hfirst.trans hsecond
  · exact h w
  · intro x t _
    exact hnext x t

theorem Spares.map {a : Action α} (h : v.Spares a) (f : α → β) : v.Spares (f <$> a) := by
  intro w
  rw [run_map]
  exact h w

theorem Spares.attempt {a : Action α} (h : v.Spares a) : v.Spares a.attempt := h

theorem Spares.touches {a : Action α} (h : v.Spares a) : v.Touches P w a :=
  (h w).changesFiles

theorem Touches.bind {a : Action α} {f : α → Action β} (h : v.Touches P w a)
    (hnext : ∀ x t, a w = (.ok x, t) → v.Touches P t (f x)) : v.Touches P w (a >>= f) :=
  run_bind_rel (R := fun (s t : World) => v.storage.layout.ChangesFiles P s.disk t.disk)
    (fun _ _ _ hfirst hsecond => hfirst.trans hsecond) h hnext

theorem Touches.mono {a : Action α} (h : v.Touches P w a)
    (hmono : ∀ place content, P place content → Q place content) : v.Touches Q w a :=
  Layout.ChangesFiles.mono h hmono

theorem Touches.map {a : Action α} (h : v.Touches P w a) (f : α → β) :
    v.Touches P w (f <$> a) := by
  rw [Touches, run_map]
  exact h

theorem Rewrites.bind {a : Action α} {f : α → Action β} (h : Rewrites P w a)
    (hnext : ∀ x t, a w = (.ok x, t) → Rewrites P t (f x)) : Rewrites P w (a >>= f) :=
  run_bind_rel (R := fun (s t : World) => Disk.Rewrites P s.disk t.disk)
    (fun _ _ _ hfirst hsecond => hfirst.trans hsecond) h hnext

theorem Rewrites.mono {a : Action α} (h : Rewrites P w a)
    (hmono : ∀ place content, P place content → Q place content) : Rewrites Q w a :=
  Disk.Rewrites.mono h hmono

theorem Rewrites.attempt {a : Action α} (h : Rewrites P w a) : Rewrites P w a.attempt := h

theorem Rewrites.touches {a : Action α} (h : Rewrites P w a) : v.Touches P w a :=
  h.changesFiles _

/-! ## Steps that touch no record -/

theorem spares_of_same_disk {a : Action α} (h : ∀ w, (a w).2.disk = w.disk) : v.Spares a := by
  intro w
  rw [h w]
  exact .refl _ _

theorem rewrites_of_same_disk {a : Action α} (h : (a w).2.disk = w.disk) : Rewrites P w a := by
  rw [Rewrites, h]
  exact .refl _ _

theorem spares_pure (x : α) : v.Spares (pure x : Action α) :=
  spares_of_same_disk fun _ => rfl

theorem spares_throw (e : VaultError) : v.Spares (throw e : Action α) :=
  spares_of_same_disk fun _ => rfl

theorem spares_ask (f : Disk → Except StorageError α) : v.Spares (Action.ask f) :=
  spares_of_same_disk fun _ => rfl

theorem spares_now : v.Spares Action.now := spares_of_same_disk fun _ => rfl

theorem spares_newRecordId : v.Spares Action.newRecordId := spares_of_same_disk fun _ => rfl

theorem spares_sealFor (kind : Kind) (owner plaintext : String) :
    v.Spares (v.sealFor kind owner plaintext) := by
  apply spares_of_same_disk
  intro w
  rw [sealFor_eq]

theorem spares_note (eventType : Audit.EventType) (complete : Audit.Event → Audit.Event) :
    v.Spares (v.note eventType complete) := by
  intro w
  rw [note_eq]
  exact Audit.keepsFiles_log v.storage _ w.disk

theorem spares_noteSuccess (eventType : Audit.EventType) (caller : Caller) (r : Record kind) :
    v.Spares (v.noteSuccess eventType caller r) :=
  spares_note eventType _

theorem spares_authorize (caller : Caller) (r : Record kind) : v.Spares (v.authorize caller r) := by
  rw [authorize]
  cases r.checkAccess caller with
  | ok => exact spares_pure ()
  | error e => exact (spares_note _ _).bind fun _ => spares_throw _

theorem spares_authorized (kind : Kind) (caller : Caller) (id : String) :
    v.Spares (v.authorized kind caller id) :=
  (spares_ask _).bind fun r => (spares_authorize caller r).bind fun _ => spares_pure r

theorem spares_reveal (caller : Caller) (r : Record kind) (keyOwner : String) :
    v.Spares (v.reveal caller r keyOwner) := by
  rw [reveal_eq]
  cases v.service.reveal keyOwner r.payload with
  | ok plaintext => exact spares_pure plaintext
  | error e => exact (spares_note _ _).bind fun _ => spares_throw _

theorem spares_revealEach (caller : Caller) (keyOwner : Record kind → String)
    (records : List (Record kind)) : v.Spares (v.revealEach caller keyOwner records) := by
  induction records with
  | nil => exact spares_pure []
  | cons r rest ih =>
    rw [revealEach]
    apply (spares_reveal caller r (keyOwner r)).attempt.bind
    intro plaintext
    apply ih.bind
    intro opened
    cases plaintext with
    | none => exact spares_pure _
    | some plaintext => exact spares_pure _

/-! ## Steps that touch a record -/

theorem touches_createRecord (r : Record kind)
    (hP : P (recordPlace v.storage.layout.base kind r.id) (some r.toBytes)) :
    v.Touches P w (Action.onDisk (v.storage.createRecord r)) := by
  rw [Touches, Action.onDisk]
  rcases v.storage.createRecord_footprint r w.disk with ⟨e, m, hfails, hsame⟩ | ⟨d', hok, hsets⟩
  · rw [hfails]
    exact (Layout.keepsFiles_of_sameFiles hsame).changesFiles
  · rw [hok]
    exact Layout.changesFiles_of_setsFile hsets hP

theorem rewrites_updateRecord (r : Record kind)
    (hP : P (recordPlace v.storage.layout.base kind r.id) (some r.toBytes)) :
    Rewrites P w (Action.onDisk (v.storage.updateRecord r)) := by
  rw [Rewrites, Action.onDisk]
  rcases v.storage.updateRecord_footprint r w.disk with ⟨e, hfails⟩ | ⟨d', hok, hputs⟩
  · rw [hfails]
    exact .refl _ _
  · rw [hok]
    exact Storage.rewrites_of_puts hputs hP

theorem rewrites_deleteRecord (kind : Kind) (id : String)
    (hP : P (recordPlace v.storage.layout.base kind id) none) :
    Rewrites P w (Action.onDisk (v.storage.deleteRecord kind id)) := by
  rw [Rewrites, Action.onDisk]
  rcases v.storage.deleteRecord_footprint kind id w.disk with ⟨e, hfails⟩ | ⟨d', hok, hremoves⟩
  · rw [hfails]
    exact .refl _ _
  · rw [hok]
    exact Storage.rewrites_of_removes hremoves hP

end SealedVault.Vault
