import SealedVault.Proofs.Vault.Accountability

/-!
# Auditors

The role of an auditor opens no record. What an auditor gets to read is shown to any caller of that
name: claims and documents whose owner is the auditor, and what hangs on these documents. An auditor
who owns nothing in the data directory, and stores nothing, never gets to read a record.
-/

namespace SealedVault

open Layout (recordPlace)
open Storage (Holds)

/-- The requests that store a record of the caller's own. -/
def Request.stores : Request → Bool
  | storeClaims .. => true
  | storeDocument .. => true
  | _ => false

/-- A record that is found in the data directory and shown to the user there. -/
def Storage.Presents {kind : Kind} (s : Storage) (d : Disk) (user : String) (r : Record kind) :
    Prop :=
  (∃ id, s.getRecord kind id d = .ok r) ∧ s.Shows d user r

namespace Vault

variable {v : Vault} {w t : World} {kind : Kind} {caller : Caller} {id documentId : String}

/-! ## What is disclosed -/

/-- Whatever is opened one by one is among the records that were to be opened. -/
theorem mem_of_revealEach {keyOwner : Record kind → String} {records : List (Record kind)}
    {entries : List (Opened kind)} (h : v.revealEach caller keyOwner records w = (.ok entries, t))
    {o : Opened kind} (ho : o ∈ entries) : o.record ∈ records := by
  induction records generalizing entries w t with
  | nil =>
    cases h
    cases ho
  | cons r rest ih =>
    rw [revealEach, run_bind_eq_ok_iff] at h
    obtain ⟨plaintext, u, -, h⟩ := h
    rw [run_bind_eq_ok_iff] at h
    obtain ⟨opened, u', hrest, h⟩ := h
    cases plaintext with
    | none =>
      cases h
      exact List.mem_cons_of_mem r (ih hrest ho)
    | some plaintext =>
      cases h
      rcases List.mem_cons.mp ho with rfl | ho
      · exact List.mem_cons_self
      · exact List.mem_cons_of_mem r (ih hrest ho)

theorem presents_of_readOwn {o : Opened kind} (hrole : caller.role ≠ .admin)
    (hparent : ∀ r : Record kind, r.parent? = none)
    (h : v.readOwn kind caller id w = (.ok o, t)) :
    v.storage.Presents w.disk caller.userId o.record := by
  obtain ⟨hget, hgrants, -, -⟩ := of_readOwn_eq_ok h
  exact ⟨⟨id, hget⟩, shows_of_grants hrole (hparent o.record) hgrants⟩

theorem presents_of_readHanging {o : Opened kind} {documentOf : kind.Fields → String}
    (hrole : caller.role ≠ .admin)
    (hparent : ∀ r : Record kind, r.parent? = some (documentOf r.fields))
    (h : v.readHanging kind caller id documentOf w = (.ok o, t)) :
    v.storage.Presents w.disk caller.userId o.record := by
  obtain ⟨hget, document, hdocument, hgrants, -, -⟩ := of_readHanging_eq_ok h
  exact ⟨⟨id, hget⟩, shows_of_document hrole (hparent o.record) hdocument hgrants⟩

theorem presents_of_listOwn {entries : List (Opened kind)} {o : Opened kind}
    (hparent : ∀ r : Record kind, r.parent? = none)
    (h : v.listOwn kind caller w = (.ok entries, t)) (ho : o ∈ entries) :
    v.storage.Presents w.disk caller.userId o.record := by
  rw [listOwn, run_bind_eq_ok_iff] at h
  obtain ⟨records, u, hasked, hrevealed⟩ := h
  obtain ⟨rfl, hrecords⟩ := of_ask_eq_ok hasked
  obtain ⟨howner, hget⟩ :=
    Storage.exists_getRecord_of_mem hrecords (mem_of_revealEach hrevealed ho)
  refine ⟨hget, ?_⟩
  rw [Storage.Shows, hparent]
  exact of_decide_eq_true howner

theorem presents_of_listHanging {entries : List (Opened kind)} {o : Opened kind}
    (hrole : caller.role ≠ .admin)
    (h : v.listHanging kind caller documentId w = (.ok entries, t)) (ho : o ∈ entries) :
    v.storage.Presents w.disk caller.userId o.record := by
  rw [listHanging, run_bind_eq_ok_iff] at h
  obtain ⟨document, u, hfound, h⟩ := h
  obtain ⟨rfl, hdocument, hgrants⟩ := getRecord_of_authorized hfound
  rw [run_bind_eq_ok_iff] at h
  obtain ⟨records, u', hasked, hrevealed⟩ := h
  obtain ⟨rfl, hrecords⟩ := of_ask_eq_ok hasked
  obtain ⟨hhangs, hget⟩ :=
    Storage.exists_getRecord_of_mem hrecords (mem_of_revealEach hrevealed ho)
  exact ⟨hget, shows_of_document hrole (of_decide_eq_true hhangs) hdocument hgrants⟩

theorem presents_of_opened {kind' : Kind} {a : Action (Opened kind')} {answer : Answer}
    {r : Record kind} (hanswer : (Answer.opened <$> a) w = (.ok answer, t))
    (hdiscloses : answer.Discloses r)
    (hpresents : ∀ o, a w = (.ok o, t) → v.storage.Presents w.disk caller.userId o.record) :
    v.storage.Presents w.disk caller.userId r := by
  obtain ⟨o, hrun, rfl⟩ := of_map_eq_ok hanswer
  cases hdiscloses
  exact hpresents _ hrun

theorem presents_of_listed {kind' : Kind} {a : Action (List (Opened kind'))} {answer : Answer}
    {r : Record kind} (hanswer : (Answer.listed <$> a) w = (.ok answer, t))
    (hdiscloses : answer.Discloses r)
    (hpresents : ∀ entries o, a w = (.ok entries, t) → o ∈ entries →
      v.storage.Presents w.disk caller.userId o.record) :
    v.storage.Presents w.disk caller.userId r := by
  obtain ⟨entries, hrun, rfl⟩ := of_map_eq_ok hanswer
  cases hdiscloses with
  | listed mem => exact hpresents _ _ hrun mem

/-- Every record that is disclosed to a caller who is not an admin is found in the data directory,
and shown to the caller there. -/
theorem presents_of_discloses {request : Request} {answer : Answer} {r : Record kind}
    (hrole : caller.role ≠ .admin) (hcaller : request.caller? = some caller)
    (hanswer : v.perform request w = (.ok answer, t)) (hdiscloses : answer.Discloses r) :
    v.storage.Presents w.disk caller.userId r := by
  cases request with
  | readClaims _ id =>
    cases hcaller
    exact presents_of_opened hanswer hdiscloses fun _ => presents_of_readOwn hrole fun _ => rfl
  | listClaims _ =>
    cases hcaller
    exact presents_of_listed hanswer hdiscloses fun _ _ => presents_of_listOwn fun _ => rfl
  | readDocument _ id =>
    cases hcaller
    exact presents_of_opened hanswer hdiscloses fun _ => presents_of_readOwn hrole fun _ => rfl
  | listDocuments _ =>
    cases hcaller
    exact presents_of_listed hanswer hdiscloses fun _ _ => presents_of_listOwn fun _ => rfl
  | readPhoto _ id =>
    cases hcaller
    exact presents_of_opened hanswer hdiscloses fun _ => presents_of_readHanging hrole fun _ => rfl
  | listPhotos _ documentId =>
    cases hcaller
    exact presents_of_listed hanswer hdiscloses fun _ _ => presents_of_listHanging hrole
  | readAttachment _ id =>
    cases hcaller
    exact presents_of_opened hanswer hdiscloses fun _ => presents_of_readHanging hrole fun _ => rfl
  | listAttachments _ documentId =>
    cases hcaller
    exact presents_of_listed hanswer hdiscloses fun _ _ => presents_of_listHanging hrole
  | _ =>
    obtain ⟨_, -, rfl⟩ := of_map_eq_ok hanswer
    cases hdiscloses

end Vault

/-! ## Owning nothing -/

namespace Storage

variable {s : Storage} {user : String} {d d' : Disk}

/-- No file in the data directory holds claims or a document of the user's. -/
def OwnsNothing (s : Storage) (user : String) (d : Disk) : Prop :=
  ∀ (kind : Kind) (id : String) (r : Record kind),
    Holds d (recordPlace s.layout.base kind id) r → r.parent? = none → r.owner ≠ user

theorem OwnsNothing.not_shows {kind : Kind} {id : String} {r : Record kind}
    (h : s.OwnsNothing user d) (hr : s.getRecord kind id d = .ok r) : ¬s.Shows d user r := by
  rw [Shows]
  cases hparent : r.parent? with
  | none => exact h kind id r (holds_of_getRecord hr) hparent
  | some documentId =>
    rintro ⟨document, hdocument, howner⟩
    exact h .document documentId document (holds_of_getRecord hdocument) rfl howner

theorem OwnsNothing.not_presents {kind : Kind} {r : Record kind} (h : s.OwnsNothing user d) :
    ¬s.Presents d user r := by
  rintro ⟨⟨id, hr⟩, hshows⟩
  exact h.not_shows hr hshows

theorem OwnsNothing.of_keepsFiles (h : s.OwnsNothing user d)
    (hkeeps : s.layout.KeepsFiles d d') : s.OwnsNothing user d' := by
  intro kind id r hholds
  apply h kind id r
  rw [Holds, ← hkeeps _ (Layout.recordPlace_ne_auditPlace kind id)]
  exact hholds

end Storage

namespace Vault

variable {v : Vault} {w t : World} {kind : Kind} {caller : Caller} {id : String}
  {request : Request}

theorem keepsFiles_of_touches_nothing {α : Type} {a : Action α}
    (h : v.Touches (fun _ _ => False) w a) : v.storage.layout.KeepsFiles w.disk (a w).2.disk :=
  fun place houtside => Classical.byContradiction fun hne => h place houtside hne

/-- Nothing is hung on a document by a caller who has no access to any. -/
theorem touches_addHanging_of_ownsNothing (howns : v.storage.OwnsNothing caller.userId w.disk)
    (hrole : caller.role ≠ .admin) (documentId plaintext : String)
    (fields : Record .document → kind.Fields) :
    v.Touches (fun _ _ => False) w (v.addHanging kind caller documentId plaintext fields) := by
  rw [addHanging]
  refine Touches.bind (spares_authorized .document caller documentId).touches ?_
  intro document u hfound
  obtain ⟨-, hget, hgrants⟩ := getRecord_of_authorized hfound
  exact absurd (shows_of_grants hrole rfl hgrants) (howns.not_shows hget)

/-- Where a caller owns nothing, a request of the caller that stores nothing changes no file of a
record. -/
theorem keepsFiles_perform (howns : v.storage.OwnsNothing caller.userId w.disk)
    (hrole : caller.role ≠ .admin) (hcaller : request.caller? = some caller)
    (hstores : request.stores = false) :
    v.storage.layout.KeepsFiles w.disk (v.perform request w).2.disk := by
  by_cases hreads : request.onlyReads = true
  · exact spares_perform hreads w
  apply keepsFiles_of_touches_nothing
  by_cases hrewrites : request.rewrites = true
  · refine (touches_of_rewrites hrewrites).mono fun place content hwrites => ?_
    obtain ⟨kind, id, r, hselects, -⟩ := hwrites
    exact howns.not_shows hselects.getRecord (hselects.shows hrole hcaller)
  cases request with
  | addPhoto _ documentId contentType data =>
    cases hcaller
    exact (touches_addHanging_of_ownsNothing howns hrole documentId data _).map _
  | addAttachment _ documentId fileName contentType data =>
    cases hcaller
    exact (touches_addHanging_of_ownsNothing howns hrole documentId data _).map _
  | storeClaims _ _ => cases hstores
  | storeDocument _ _ _ _ => cases hstores
  | reseal => cases hcaller
  | _ => first | exact absurd rfl hreads | exact absurd rfl hrewrites

end Vault

/-! ## Auditors -/

namespace Session

variable {s : Session} {caller : Caller}

theorem presents_of_answer {request : Request} {answer : Answer} {kind : Kind} {r : Record kind}
    (hrole : caller.role ≠ .admin) (hcaller : request.caller? = some caller)
    (hanswer : s.answer request = .ok answer) (hdiscloses : answer.Discloses r) :
    s.vault.storage.Presents s.world.disk caller.userId r :=
  Vault.presents_of_discloses (t := (s.vault.perform request s.world).2) hrole hcaller
    (Prod.ext hanswer rfl) hdiscloses

/-- A caller who owns nothing and stores nothing is shown no record. -/
theorem discloses_nothing_of_ownsNothing (hrole : caller.role ≠ .admin)
    (howns : s.vault.storage.OwnsNothing caller.userId s.world.disk) {requests : List Request}
    (hrequests : ∀ request ∈ requests, request.caller? = some caller ∧ request.stores = false)
    {answer : Answer} (hanswer : .ok answer ∈ s.answers requests) {kind : Kind} (r : Record kind) :
    ¬answer.Discloses r := by
  induction requests generalizing s with
  | nil => cases hanswer
  | cons request rest ih =>
    obtain ⟨⟨hcaller, hstores⟩, hrest⟩ := List.forall_mem_cons.mp hrequests
    rcases List.mem_cons.mp hanswer with hfirst | hlater
    · intro hdiscloses
      exact howns.not_presents (presents_of_answer hrole hcaller hfirst.symm hdiscloses)
    · have hkeeps := Vault.keepsFiles_perform howns hrole hcaller hstores
      exact ih (s := s.after (.request request)) (howns.of_keepsFiles hkeeps) hrest hlater

/-- In a sound session whoever lists no claims and no documents owns nothing. -/
theorem Sound.ownsNothing {base : Place} {keys : List Sealing.MasterKey} {user : String}
    (h : s.Sound base keys)
    (hclaims : s.vault.storage.listByOwner .claims user s.world.disk = .ok [])
    (hdocuments : s.vault.storage.listByOwner .document user s.world.disk = .ok []) :
    s.vault.storage.OwnsNothing user s.world.disk := by
  have hready := h.kept.consistent.ready
  have hlisted {kind : Kind} (hnone : s.vault.storage.listByOwner kind user s.world.disk = .ok [])
      {id : String} {r : Record kind} (hr : s.vault.storage.shelf s.world.disk kind id = some r) :
      r.owner ≠ user := by
    obtain ⟨records, hrecords, hmem, -⟩ :=
      Storage.exists_listRecords hready kind fun r : Record kind => decide (r.owner = user)
    rw [Storage.listByOwner, hrecords] at hnone
    cases hnone
    intro howner
    exact List.not_mem_nil ((hmem r).mpr ⟨decide_eq_true howner, id, hr⟩)
  intro kind id r hholds hparent
  have hbase : base = s.vault.storage.layout.base :=
    Disk.eq_follow_of_descend hready.stands.root
  rw [← hbase, Holds] at hholds
  obtain ⟨bytes, hfile, hbytes⟩ := Option.bind_eq_some_iff.mp hholds
  obtain ⟨r', -, hr, hbytes'⟩ := h.kept.exists_of_file (Disk.fileAt?_eq_some_iff.mp hfile)
  rw [hbytes] at hbytes'
  cases hbytes'
  cases kind with
  | claims => exact hlisted hclaims hr
  | document => exact hlisted hdocuments hr
  | photo => cases hparent
  | attachment => cases hparent

/-- What is disclosed to an auditor, whatever happened before, is a record that the data directory
shows to any caller with the user id of the auditor. An auditor who owns nothing when a sequence of
requests begins, and stores nothing by these requests, is disclosed no record by any of them. -/
theorem auditor_opens_own_only (s : Session) (caller : Caller) (hrole : caller.role = .auditor) :
    (∀ (steps : List Step) (request : Request) (answer : Answer),
        request.caller? = some caller → (s.run steps).answer request = .ok answer →
          ∀ (kind : Kind) (r : Record kind), answer.Discloses r →
            (s.run steps).vault.storage.Presents (s.run steps).world.disk caller.userId r) ∧
      (s.vault.storage.OwnsNothing caller.userId s.world.disk →
        ∀ requests : List Request,
          (∀ request ∈ requests, request.caller? = some caller ∧ request.stores = false) →
            ∀ answer, .ok answer ∈ s.answers requests →
              ∀ (kind : Kind) (r : Record kind), ¬answer.Discloses r) := by
  have hnot : caller.role ≠ .admin := by
    rw [hrole]
    decide
  constructor
  · intro steps request answer hcaller hanswer kind r hdiscloses
    exact presents_of_answer hnot hcaller hanswer hdiscloses
  · intro howns requests hrequests answer hanswer kind r
    exact discloses_nothing_of_ownsNothing hnot howns hrequests hanswer r

/-- Nothing is disclosed to the auditor carol while there are only the claims of alice. -/
theorem auditor_opens_own_only_of_carol :
    Vault.claimsSession.vault.storage.OwnsNothing "carol" Vault.claimsSession.world.disk ∧
      ∀ answer, .ok answer ∈ Vault.claimsSession.answers
          [.listClaims ⟨"carol", .auditor⟩, .readClaims ⟨"carol", .auditor⟩ "record-0"] →
        ∀ (kind : Kind) (r : Record kind), ¬answer.Discloses r := by
  obtain ⟨base, hsound, -⟩ := (sample_begins .disabled).exists_sound
  have hreached : Vault.claimsSession.Sound base _ :=
    hsound.run [.request (.storeClaims ⟨"alice", .user⟩ "one")]
  have howns : Vault.claimsSession.vault.storage.OwnsNothing "carol"
      Vault.claimsSession.world.disk :=
    hreached.ownsNothing (by decide +kernel) (by decide +kernel)
  exact ⟨howns, (auditor_opens_own_only Vault.claimsSession ⟨"carol", .auditor⟩ rfl).2 howns _
    (by simp [Request.caller?, Request.stores])⟩

/-- An auditor with the user id of alice is disclosed the claims of alice. -/
theorem auditor_opens_own_claims :
    ∃ r : Record .claims,
      Vault.claimsSession.answer (.readClaims ⟨"alice", .auditor⟩ "record-0") =
          .ok (.opened ⟨r, "one"⟩) ∧
        Answer.Discloses r (.opened ⟨r, "one"⟩) := by
  have hread : (Vault.claimsSession.vault.readClaims ⟨"alice", .auditor⟩ "record-0"
      Vault.claimsSession.world).1.toOption.map (·.plaintext) = some "one" := by
    decide +kernel
  rcases hrun : Vault.claimsSession.vault.readClaims ⟨"alice", .auditor⟩ "record-0"
    Vault.claimsSession.world with ⟨e | ⟨r, plaintext⟩, t⟩
  · rw [hrun] at hread
    cases hread
  · rw [hrun] at hread
    cases hread
    refine ⟨r, ?_, .opened "one"⟩
    rw [answer, Vault.perform, run_map, hrun]
    rfl

end Session

end SealedVault
