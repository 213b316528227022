import SealedVault.Proofs.Store.Beside
import SealedVault.Proofs.Store.Refusals
import SealedVault.Proofs.Vault.Steps

/-!
# What the steps of operations note

Where the audit logs can be extended, each step of an operation notes nothing or one event at the
end of the log of its day. Most steps note nothing: they look for records, draw from the sources or
change records. So the events of an operation can be told by following its steps up to the one that
notes something.
-/

namespace SealedVault

open Audit (Event EventType)
open Layout (AuditOnly)

/-- The event tells what became of something that a caller did to a resource. -/
structure Audit.Event.Reports (e : Event) (eventType : EventType) (success : Bool)
    (caller : Caller) (resourceType resourceId : String) : Prop where
  eventType : e.eventType = eventType
  success : e.success = success
  user : e.user = some caller.userId
  resourceType : e.resourceType = some resourceType
  resourceId : e.resourceId = some resourceId

namespace Vault

variable {v : Vault} {w t u : World} {kind : Kind} {caller : Caller} {id : String} {α β : Type}
  {events more : List Event}

/-! ## Noting -/

/-- The clock of a world tells an instant of a day. -/
def Tells (w : World) (day : Calendar.Date) : Prop := ∃ n, (w.clock.value n).date = day

/-- The logs of all days that the clock tells can be extended. -/
def AuditWritable (v : Vault) (w : World) : Prop := v.storage.AuditWritable (Tells w) w.disk

/-- Between two worlds some events were noted, at instants that the clock told between them. -/
structure Notes (v : Vault) (events : List Event) (w t : World) : Prop where
  journals : v.storage.Journals (Tells w) events w.disk t.disk
  clock : t.clock.value = w.clock.value
  drawn : w.clock.drawn ≤ t.clock.drawn
  timely : ∀ e ∈ events, ∃ n, w.clock.drawn ≤ n ∧ n < t.clock.drawn ∧ e.timestamp = w.clock.value n

theorem Notes.nil (hdisk : v.storage.Journals (Tells w) [] w.disk t.disk)
    (hclock : t.clock.value = w.clock.value) (hdrawn : w.clock.drawn ≤ t.clock.drawn) :
    v.Notes [] w t :=
  ⟨hdisk, hclock, hdrawn, by simp⟩

theorem Notes.refl (h : v.AuditWritable w) : v.Notes [] w w :=
  .nil (.refl h) rfl le_rfl

theorem Notes.tells (h : v.Notes events w t) : Tells t = Tells w := by
  funext day
  rw [Tells, h.clock]
  rfl

theorem Notes.auditWritable (h : v.Notes events w t) : v.AuditWritable t := by
  rw [AuditWritable, h.tells]
  exact h.journals.writable

theorem Notes.trans (h : v.Notes events w t) (h' : v.Notes more t u) :
    v.Notes (events ++ more) w u where
  journals := h.journals.trans (h.tells ▸ h'.journals)
  clock := h'.clock.trans h.clock
  drawn := h.drawn.trans h'.drawn
  timely e he := by
    rcases List.mem_append.mp he with he | he
    · obtain ⟨n, hlow, hhigh, hn⟩ := h.timely e he
      exact ⟨n, hlow, hhigh.trans_le h'.drawn, hn⟩
    · obtain ⟨n, hlow, hhigh, hn⟩ := h'.timely e he
      exact ⟨n, h.drawn.trans hlow, hhigh, by rw [hn, h.clock]⟩

/-- The event that is noted next when it is completed in some way. -/
def nextEvent (w : World) (eventType : EventType) (complete : Event → Event) : Event :=
  complete (.plain w.eventIds.next w.clock.next eventType)

theorem notes_note (h : v.AuditWritable w) (eventType : EventType)
    (complete : Event → Event)
    (htimestamp : (nextEvent w eventType complete).timestamp = w.clock.next) :
    v.Notes [nextEvent w eventType complete] w (v.note eventType complete w).2 := by
  obtain ⟨d', hlog, hjournals⟩ := Audit.journals_log h (nextEvent w eventType complete)
    ⟨w.clock.drawn, by rw [htimestamp]; rfl⟩
  rw [nextEvent] at hlog
  rw [note_eq, hlog]
  refine ⟨hjournals, rfl, Nat.le_succ _, fun e he => ?_⟩
  rw [List.mem_singleton.mp he]
  exact ⟨w.clock.drawn, le_rfl, Nat.lt_succ_self _, htimestamp⟩

theorem auditOnly_note (h : v.AuditWritable w) (eventType : EventType)
    (complete : Event → Event) :
    AuditOnly v.storage.layout.base w.disk (v.note eventType complete w).2.disk := by
  rw [note_eq]
  exact (Storage.extendsAudit_append h.auditReadyAt (Calendar.Date.isName_text _) _).toAuditOnly

/-! ## Steps that note nothing -/

/-- An action notes nothing and refuses nobody. -/
structure Quiet (v : Vault) (a : Action α) : Prop where
  notes (w : World) : v.AuditWritable w → v.Notes [] w (a w).2
  neverRefuses (w : World) (e : VaultError) : (a w).1 = .error e → ¬e.IsRefusal

theorem Quiet.bind {a : Action α} {f : α → Action β} (h : v.Quiet a)
    (hnext : ∀ x, v.Quiet (f x)) : v.Quiet (a >>= f) := by
  constructor
  · intro w hw
    have hfirst := h.notes w hw
    rcases hrun : a w with ⟨e | x, t⟩
    · rw [run_bind_of_error hrun]
      rwa [hrun] at hfirst
    · rw [run_bind_of_ok hrun]
      rw [hrun] at hfirst
      exact hfirst.trans ((hnext x).notes t hfirst.auditWritable)
  · intro w e he
    rcases hrun : a w with ⟨e' | x, t⟩
    · rw [run_bind_of_error hrun] at he
      cases he
      exact h.neverRefuses w e (by rw [hrun])
    · rw [run_bind_of_ok hrun] at he
      exact (hnext x).neverRefuses t e he

theorem Quiet.attempt {a : Action α} (h : v.Quiet a) : v.Quiet a.attempt := by
  refine ⟨h.notes, fun w e he => ?_⟩
  rw [Action.attempt] at he
  cases he

theorem quiet_pure (x : α) : v.Quiet (pure x : Action α) :=
  ⟨fun _ hw => .refl hw, fun _ _ h => by cases h⟩

theorem quiet_now : v.Quiet Action.now :=
  ⟨fun _ hw => .nil (.refl hw) rfl (Nat.le_succ _), fun _ _ h => by cases h⟩

theorem quiet_newRecordId : v.Quiet Action.newRecordId :=
  ⟨fun _ hw => .nil (.refl hw) rfl le_rfl, fun _ _ h => by cases h⟩

theorem quiet_sealFor (kind : Kind) (owner plaintext : String) :
    v.Quiet (v.sealFor kind owner plaintext) := by
  constructor
  · intro w hw
    rw [sealFor_eq]
    exact .nil (.refl hw) rfl le_rfl
  · intro w e he
    rw [sealFor_eq] at he
    cases hprotect : v.service.protect w.initials.next owner plaintext with
    | error error =>
      rw [hprotect] at he
      cases he
      exact id
    | ok payload =>
      rw [hprotect] at he
      cases he

theorem quiet_onDisk {a : DiskAction α} (hrefuses : a.NeverRefuses)
    (hjournals : ∀ days d, v.storage.AuditWritable days d → v.storage.Journals days [] d (a d).2) :
    v.Quiet (Action.onDisk a) := by
  constructor
  · intro w hw
    exact .nil (hjournals _ _ hw) rfl le_rfl
  · intro w e he
    have hnever := hrefuses w.disk
    have hrun : (Action.onDisk a w).1 = (a w.disk).1.mapError .ofStorage := rfl
    rw [hrun] at he
    cases hresult : (a w.disk).1 with
    | error error =>
      rw [hresult] at he
      cases he
      exact VaultError.not_isRefusal_ofStorage (hnever error hresult)
    | ok x =>
      rw [hresult] at he
      cases he

theorem quiet_ask {f : Disk → Except StorageError α} (h : ∀ d, NeverRefuses (f d)) :
    v.Quiet (Action.ask f) :=
  quiet_onDisk h fun _ _ hd => .refl hd

theorem quiet_createRecord (r : Record kind) : v.Quiet (Action.onDisk (v.storage.createRecord r)) :=
  quiet_onDisk (v.storage.neverRefuses_createRecord r) fun _ _ hd =>
    Storage.journals_createRecord hd r

theorem quiet_updateRecord (r : Record kind) : v.Quiet (Action.onDisk (v.storage.updateRecord r)) :=
  quiet_onDisk (v.storage.neverRefuses_updateRecord r) fun _ _ hd =>
    Storage.journals_updateRecord hd r

theorem quiet_deleteRecord (kind : Kind) (id : String) :
    v.Quiet (Action.onDisk (v.storage.deleteRecord kind id)) :=
  quiet_onDisk (v.storage.neverRefuses_deleteRecord kind id) fun _ _ hd =>
    Storage.journals_deleteRecord hd kind id

theorem quiet_listRecords (kind : Kind) (keep : Record kind → Bool) :
    v.Quiet (Action.ask (v.storage.listRecords kind keep)) :=
  quiet_ask (v.storage.neverRefuses_listRecords kind keep)

theorem quiet_resealRecord (r : Record kind) (plaintext : String) :
    v.Quiet (v.resealRecord r plaintext) :=
  (quiet_sealFor _ _ _).bind fun _ => quiet_now.bind fun _ => quiet_updateRecord _

theorem quiet_resealEach (records : List (Record kind)) : v.Quiet (v.resealEach records) := by
  induction records with
  | nil => exact quiet_pure _
  | cons r rest ih =>
    have hrest (counts : ResealSummary) : v.Quiet (do
        let counts ← (pure counts : Action ResealSummary)
        let more ← v.resealEach rest
        pure (counts + more)) :=
      (quiet_pure counts).bind fun _ => ih.bind fun _ => quiet_pure _
    rw [resealEach]
    cases r.payload with
    | sealed stored => exact hrest .sealedBefore
    | plain plaintext =>
      apply (quiet_resealRecord r plaintext).attempt.bind
      intro done
      cases done with
      | none => exact hrest .notSealed
      | some => exact hrest .sealedNow

theorem quiet_resealKinds (kinds : List Kind) : v.Quiet (v.resealKinds kinds) := by
  induction kinds with
  | nil => exact quiet_pure _
  | cons kind rest ih =>
    exact ((quiet_listRecords kind _).bind quiet_resealEach).bind fun counts =>
      ih.bind fun more => quiet_pure _

theorem quiet_deleteEach (kind : Kind) (ids : List String) : v.Quiet (v.deleteEach kind ids) := by
  induction ids with
  | nil => exact quiet_pure ()
  | cons id rest ih => exact (quiet_deleteRecord kind id).bind fun _ => ih

theorem quiet_deleteHanging (kind : Kind) (documentId : String) :
    v.Quiet (v.deleteHanging kind documentId) :=
  (quiet_listRecords kind _).bind fun _ => (quiet_deleteEach kind _).bind fun _ => quiet_pure _

/-! ## Outcomes -/

/-- The action ends with a result on a disk, and notes events, for which `P` holds. -/
def Settles (v : Vault) (P : Except VaultError α → Disk → List Event → Prop) (w : World)
    (a : Action α) : Prop :=
  ∃ events, P (a w).1 (a w).2.disk events ∧ v.Notes events w (a w).2

variable {P : Except VaultError α → Disk → List Event → Prop}

theorem Settles.map {f : α → β} {a : Action α}
    {P : Except VaultError β → Disk → List Event → Prop}
    (h : v.Settles (fun result => P (result.map f)) w a) : v.Settles P w (f <$> a) := by
  rw [Settles, run_map]
  exact h

theorem Settles.of_bind_pure {a : Action α} (h : v.Settles P w (a >>= pure)) : v.Settles P w a := by
  rwa [bind_pure] at h

theorem settles_of_run {a : Action α} {result : Except VaultError α} (hrun : a w = (result, t))
    (hP : P result t.disk events) (hnotes : v.Notes events w t) : v.Settles P w a := by
  rw [Settles, hrun]
  exact ⟨events, hP, hnotes⟩

theorem settles_pure (h : v.AuditWritable w) {x : α} (hP : P (.ok x) w.disk []) :
    v.Settles P w (pure x : Action α) :=
  ⟨[], hP, .refl h⟩

/-- After a step that notes nothing, the events are those that the rest of the action notes. -/
theorem Settles.after {a : Action β} {f : β → Action α}
    (h : v.AuditWritable w) (ha : v.Quiet a)
    (herror : ∀ e t, a w = (.error e, t) → ¬e.IsRefusal → P (.error e) t.disk [])
    (hnext : ∀ x t, a w = (.ok x, t) → v.AuditWritable t → v.Settles P t (f x)) :
    v.Settles P w (a >>= f) := by
  have hnotes := ha.notes w h
  rcases hrun : a w with ⟨e | x, t⟩
  · rw [hrun] at hnotes
    exact settles_of_run (run_bind_of_error hrun)
      (herror e t hrun (ha.neverRefuses w e (by rw [hrun]))) hnotes
  · rw [hrun] at hnotes
    obtain ⟨events, hP, hmore⟩ := hnext x t hrun hnotes.auditWritable
    rw [Settles, run_bind_of_ok hrun]
    exact ⟨events, hP, hnotes.trans hmore⟩

/-- What is asked of the disk does not change it. -/
theorem Settles.after_ask {g : Disk → Except StorageError β} {f : β → Action α}
    (h : v.AuditWritable w) (hg : ∀ d, NeverRefuses (g d))
    (herror : ∀ e, g w.disk = .error e → ¬e.IsRefusal → P (.error (.ofStorage e)) w.disk [])
    (hnext : ∀ x, g w.disk = .ok x → v.Settles P w (f x)) :
    v.Settles P w (Action.ask g >>= f) := by
  have hask : Action.ask g w = ((g w.disk).mapError .ofStorage, w) := rfl
  cases hresult : g w.disk with
  | error e =>
    rw [hresult] at hask
    exact settles_of_run (run_bind_of_error hask) (herror e hresult (hg w.disk e hresult))
      (.refl h)
  | ok x =>
    rw [hresult] at hask
    obtain ⟨events, hP, hnotes⟩ := hnext x hresult
    rw [Settles, run_bind_of_ok hask]
    exact ⟨events, hP, hnotes⟩

/-- Noting an event before ending with a result. -/
theorem settles_note {f : Unit → Action α} {result : Except VaultError α}
    (hf : ∀ t, f () t = (result, t)) (h : v.AuditWritable w) {eventType : EventType}
    {complete : Event → Event}
    (htimestamp : (nextEvent w eventType complete).timestamp = w.clock.next)
    (hP : ∀ d, AuditOnly v.storage.layout.base w.disk d →
      P result d [nextEvent w eventType complete]) :
    v.Settles P w (v.note eventType complete >>= f) :=
  settles_of_run ((run_bind_of_ok (note_eq v eventType complete w)).trans (hf _))
    (hP _ (auditOnly_note h eventType complete)) (notes_note h eventType complete htimestamp)

/-- A record that is asked for is not there, or the caller is refused, which is noted, or the action
goes on with the record. -/
theorem Settles.authorized {f : Record kind → Action α} (h : v.AuditWritable w)
    (hmissing : ∀ e, v.storage.getRecord kind id w.disk = .error e → ¬e.IsRefusal →
      P (.error (.ofStorage e)) w.disk [])
    (hrefused : ∀ resource d resourceId event,
      event.Reports .permissionDenied false caller kind.name resourceId →
      P (.error (.permissionDenied caller.userId resource)) d [event])
    (hnext : ∀ r, v.storage.getRecord kind id w.disk = .ok r → v.Settles P w (f r)) :
    v.Settles P w (v.authorized kind caller id >>= f) := by
  cases hget : v.storage.getRecord kind id w.disk with
  | error e =>
    exact settles_of_run (run_bind_of_error (authorized_of_error hget))
      (hmissing e hget (v.storage.neverRefuses_getRecord kind id w.disk e hget)) (.refl h)
  | ok r =>
    cases hgrants : r.grants caller with
    | true =>
      obtain ⟨events, hP, hnotes⟩ := hnext r hget
      rw [Settles, run_bind_of_ok (authorized_of_grants hget hgrants)]
      exact ⟨events, hP, hnotes⟩
    | false =>
      exact settles_of_run (run_bind_of_error (authorized_of_not_grants hget hgrants))
        (hrefused _ _ r.id _ ⟨rfl, rfl, rfl, rfl, rfl⟩) (notes_note h _ _ rfl)

/-- A payload does not open, which is noted, or the action goes on with the text. -/
theorem Settles.reveal {f : String → Action α} {r : Record kind} {keyOwner : String}
    (h : v.AuditWritable w)
    (hunopened : ∀ error d event, v.service.reveal keyOwner r.payload = .error error →
      event.Reports .decryptionFailed false caller kind.name r.id →
      event.details = some (failureDetails r.payload error) →
      P (.error (.sealing error)) d [event])
    (hnext : ∀ plaintext, v.Settles P w (f plaintext)) :
    v.Settles P w (v.reveal caller r keyOwner >>= f) := by
  cases hreveal : v.service.reveal keyOwner r.payload with
  | error error =>
    exact settles_of_run (run_bind_of_error (reveal_of_error hreveal))
      (hunopened error _ _ hreveal ⟨rfl, rfl, rfl, rfl, rfl⟩ rfl) (notes_note h _ _ rfl)
  | ok plaintext =>
    obtain ⟨events, hP, hnotes⟩ := hnext plaintext
    rw [Settles, run_bind_of_ok (reveal_of_ok hreveal)]
    exact ⟨events, hP, hnotes⟩

/-- What was done to a record is noted in the end. -/
theorem settles_noteSuccess (h : v.AuditWritable w) (eventType : EventType)
    (caller : Caller) (r : Record kind) {x : α}
    (hP : ∀ d event, event.Reports eventType true caller kind.name r.id → P (.ok x) d [event]) :
    v.Settles P w (v.noteSuccess eventType caller r >>= fun _ => pure x) :=
  settles_note (fun _ => rfl) h rfl fun d _ => hP d _ ⟨rfl, rfl, rfl, rfl, rfl⟩

end Vault

end SealedVault
