import SealedVault.Proofs.Vault.Authority

/-!
# Accountability

Whoever reads a single record leaves a line about it in the audit log of the day, if that log can be
extended. A listing opens records in the same way, but notes those only that do not open: where all
of them open, it leaves no trace of what it disclosed.
-/

namespace SealedVault

open Audit (Event)

/-- The requests that open several records at a time. -/
def Request.lists : Request → Bool
  | listClaims .. => true
  | listDocuments .. => true
  | listPhotos .. => true
  | listAttachments .. => true
  | _ => false

/-- The answer has a record together with its text. -/
inductive Answer.Discloses {kind : Kind} (r : Record kind) : Answer → Prop
  | opened (plaintext : String) : Discloses r (.opened ⟨r, plaintext⟩)
  | listed {entries : List (Opened kind)} {plaintext : String}
    (mem : ⟨r, plaintext⟩ ∈ entries) : Discloses r (.listed entries)

/-- The event tells that a caller has read a record. -/
structure Audit.Event.TellsRead {kind : Kind} (e : Event) (caller : Caller) (r : Record kind) :
    Prop where
  eventType : e.eventType = .recordRead
  success : e.success = true
  user : e.user = some caller.userId
  resourceType : e.resourceType = some kind.name
  resourceId : e.resourceId = some r.id

namespace Vault

variable {v : Vault} {w t : World} {kind : Kind} {caller : Caller} {id : String}

/-! ## Reading one record -/

/-- The log of the day ends with a line about the reading of a record, and has otherwise not
changed. -/
def NotesRead (v : Vault) (caller : Caller) (r : Record kind) (w t : World) : Prop :=
  ∃ e : Event, e.TellsRead caller r ∧ e.timestamp = w.clock.next ∧
    v.storage.logBytes w.clock.next.date t.disk =
      v.storage.logBytes w.clock.next.date w.disk ++ Text.utf8Bytes e.line

theorem notesRead_noteSuccess
    (hlog : v.storage.LogWritable w.clock.next.date w.disk) (caller : Caller) (r : Record kind) :
    v.NotesRead caller r w (v.noteSuccess .recordRead caller r w).2 := by
  refine ⟨((Event.plain w.eventIds.next w.clock.next .recordRead).withUser
    caller.userId).withResource kind.name r.id |>.withDetails (protectionDetails r.payload),
    ⟨rfl, rfl, rfl, rfl, rfl⟩, rfl, ?_⟩
  rw [noteSuccess, note_eq]
  exact Audit.logBytes_log hlog

theorem readOwn_notes {o : Opened kind}
    (hlog : v.storage.LogWritable w.clock.next.date w.disk)
    (h : v.readOwn kind caller id w = (.ok o, t)) : v.NotesRead caller o.record w t := by
  obtain ⟨-, -, -, rfl⟩ := of_readOwn_eq_ok h
  exact notesRead_noteSuccess hlog caller o.record

theorem readHanging_notes {o : Opened kind} {documentOf : kind.Fields → String}
    (hlog : v.storage.LogWritable w.clock.next.date w.disk)
    (h : v.readHanging kind caller id documentOf w = (.ok o, t)) :
    v.NotesRead caller o.record w t := by
  obtain ⟨-, -, -, -, -, rfl⟩ := of_readHanging_eq_ok h
  exact notesRead_noteSuccess hlog caller o.record

/-- An answer with one opened record discloses that record only. -/
theorem noted_of_opened {kind' : Kind} {a : Action (Opened kind')} {answer : Answer}
    {r : Record kind} (hanswer : (Answer.opened <$> a) w = (.ok answer, t))
    (hdiscloses : answer.Discloses r)
    (hnotes : ∀ o : Opened kind', a w = (.ok o, t) → v.NotesRead caller o.record w t) :
    v.NotesRead caller r w t := by
  obtain ⟨o, hrun, rfl⟩ := of_map_eq_ok hanswer
  cases hdiscloses
  exact hnotes _ hrun

/-- Every record that a request other than a listing discloses is noted: the log of the day, if it
can be extended, then ends with an event that tells that the caller has read the record. -/
theorem disclosed_record_is_noted (v : Vault) (w t : World) (caller : Caller) (request : Request)
    (hcaller : request.caller? = some caller) (hlists : request.lists = false)
    (hlog : v.storage.LogWritable w.clock.next.date w.disk)
    (answer : Answer) (hanswer : v.perform request w = (.ok answer, t))
    (kind : Kind) (r : Record kind) (hdiscloses : answer.Discloses r) :
    v.NotesRead caller r w t := by
  cases request with
  | readClaims _ id =>
    cases hcaller
    exact noted_of_opened hanswer hdiscloses fun _ => readOwn_notes hlog
  | readDocument _ id =>
    cases hcaller
    exact noted_of_opened hanswer hdiscloses fun _ => readOwn_notes hlog
  | readPhoto _ id =>
    cases hcaller
    exact noted_of_opened hanswer hdiscloses fun _ => readHanging_notes hlog
  | readAttachment _ id =>
    cases hcaller
    exact noted_of_opened hanswer hdiscloses fun _ => readHanging_notes hlog
  | listClaims _ => cases hlists
  | listDocuments _ => cases hlists
  | listPhotos _ _ => cases hlists
  | listAttachments _ _ => cases hlists
  | _ =>
    obtain ⟨_, -, rfl⟩ := of_map_eq_ok hanswer
    cases hdiscloses

theorem logWritable_claimsSession :
    claimsSession.vault.storage.LogWritable claimsSession.world.clock.next.date
      claimsSession.world.disk := by
  rw [Storage.LogWritable]
  decide +kernel

theorem exists_perform_readClaims (h : (v.readClaims caller id w).1.toOption.isSome = true) :
    ∃ (r : Record .claims) (plaintext : String) (t : World),
      v.perform (.readClaims caller id) w = (.ok (.opened ⟨r, plaintext⟩), t) := by
  rcases hrun : v.readClaims caller id w with ⟨e | ⟨r, plaintext⟩, t⟩
  · rw [hrun] at h
    cases h
  · refine ⟨r, plaintext, t, ?_⟩
    rw [perform, run_map, hrun]
    rfl

/-- What alice reads of her claims is noted. -/
theorem disclosed_claims_are_noted :
    ∃ (r : Record .claims) (plaintext : String) (t : World),
      claimsSession.vault.perform (.readClaims ⟨"alice", .user⟩ "record-0") claimsSession.world =
        (.ok (.opened ⟨r, plaintext⟩), t) ∧
      claimsSession.vault.NotesRead ⟨"alice", .user⟩ r claimsSession.world t := by
  have hread : (claimsSession.vault.readClaims ⟨"alice", .user⟩ "record-0"
      claimsSession.world).1.toOption.isSome = true := by
    decide +kernel
  obtain ⟨r, plaintext, t, hanswer⟩ := exists_perform_readClaims hread
  exact ⟨r, plaintext, t, hanswer,
    disclosed_record_is_noted claimsSession.vault claimsSession.world t ⟨"alice", .user⟩
      (.readClaims ⟨"alice", .user⟩ "record-0") rfl rfl logWritable_claimsSession _ hanswer
      .claims r (.opened plaintext)⟩

/-! ## Listings -/

/-- Records that all open are opened without a change. -/
theorem revealEach_of_opens {keyOwner : Record kind → String} {records : List (Record kind)}
    (hopens : ∀ r ∈ records, ∃ plaintext,
      v.service.reveal (keyOwner r) r.payload = .ok plaintext) :
    ∃ entries, v.revealEach caller keyOwner records w = (.ok entries, w) ∧
      entries.map (·.record) = records := by
  induction records with
  | nil => exact ⟨[], rfl, rfl⟩
  | cons r rest ih =>
    obtain ⟨plaintext, hopen⟩ := hopens r List.mem_cons_self
    obtain ⟨entries, hrest, hrecords⟩ := ih fun r' hr' => hopens r' (List.mem_cons_of_mem _ hr')
    have hattempt : (v.reveal caller r (keyOwner r)).attempt w = (.ok (some plaintext), w) :=
      attempt_of_ok (reveal_of_ok hopen)
    refine ⟨⟨r, plaintext⟩ :: entries, ?_, ?_⟩
    · rw [revealEach, run_bind_of_ok hattempt, run_bind_of_ok hrest]
      rfl
    · rw [List.map_cons, hrecords]

/-- A listing of own records that all open discloses each of them and leaves the world, its audit
log included, as it was. -/
theorem listOwn_of_opens {records : List (Record kind)}
    (hlist : v.storage.listByOwner kind caller.userId w.disk = .ok records)
    (hopens : ∀ r ∈ records, ∃ plaintext, v.service.reveal r.owner r.payload = .ok plaintext) :
    ∃ entries, v.listOwn kind caller w = (.ok entries, w) ∧
      entries.map (·.record) = records := by
  rw [listOwn, run_bind_of_ok (ask_of_ok hlist)]
  exact revealEach_of_opens hopens

theorem exists_perform_listClaims {text : String}
    (hcaller : Sealing.checkOwner caller.userId = .ok ())
    (h : (v.storage.listByOwner .claims caller.userId w.disk).toOption.map
      (List.map (·.payload)) = some [.plain text]) :
    ∃ (r : Record .claims) (plaintext : String),
      v.perform (.listClaims caller) w = (.ok (.listed [⟨r, plaintext⟩]), w) := by
  obtain ⟨records, hrecords, hpayloads⟩ := Option.map_eq_some_iff.mp h
  obtain ⟨r, rfl, hpayload⟩ := List.map_eq_singleton_iff.mp hpayloads
  have hlist : v.storage.listByOwner .claims caller.userId w.disk = .ok [r] := by
    cases hresult : v.storage.listByOwner .claims caller.userId w.disk with
    | error e =>
      rw [hresult] at hrecords
      cases hrecords
    | ok found =>
      rw [hresult] at hrecords
      exact congrArg Except.ok (Option.some.inj hrecords)
  have hopens : ∀ r' ∈ [r], ∃ plaintext,
      v.service.reveal r'.owner r'.payload = .ok plaintext := by
    intro r' hr'
    obtain rfl := List.mem_singleton.mp hr'
    have howner : r'.owner = caller.userId := by
      simpa using (Storage.exists_getRecord_of_mem hlist hr').1
    rw [hpayload, howner]
    exact ⟨text, Sealing.Service.reveal_plain v.service hcaller text⟩
  obtain ⟨entries, hrun, hentries⟩ := listOwn_of_opens hlist hopens
  obtain ⟨⟨r', plaintext⟩, rfl, -⟩ := List.map_eq_singleton_iff.mp hentries
  refine ⟨r', plaintext, ?_⟩
  rw [perform, run_map, listClaims, hrun]
  rfl

/-- Nothing in the audit log, which can be extended, tells that alice has listed her claims. -/
theorem listed_claims_are_not_noted :
    claimsSession.vault.storage.LogWritable claimsSession.world.clock.next.date
        claimsSession.world.disk ∧
      ∃ (answer : Answer) (r : Record .claims),
        claimsSession.vault.perform (.listClaims ⟨"alice", .user⟩) claimsSession.world =
          (.ok answer, claimsSession.world) ∧
        answer.Discloses r := by
  have hlisted : (claimsSession.vault.storage.listByOwner .claims "alice"
      claimsSession.world.disk).toOption.map (List.map (·.payload)) = some [.plain "one"] := by
    decide +kernel
  obtain ⟨r, plaintext, hanswer⟩ : ∃ (r : Record .claims) (plaintext : String),
      claimsSession.vault.perform (.listClaims ⟨"alice", .user⟩) claimsSession.world =
        (.ok (.listed [⟨r, plaintext⟩]), claimsSession.world) :=
    exists_perform_listClaims (by decide) hlisted
  exact ⟨logWritable_claimsSession, _, r, hanswer, .listed List.mem_cons_self⟩

end Vault

end SealedVault
