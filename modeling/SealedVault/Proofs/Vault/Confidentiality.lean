import SealedVault.Proofs.Vault.Coupling
import SealedVault.Proofs.Vault.Integrity
import SealedVault.Proofs.Vault.Visibility

/-!
# Confidentiality

What a caller who is not an admin is answered does not depend on the texts of records that are not
shown to the caller. From worlds that look alike to the caller every operation of the caller has the
same result, writes the same to the audit log, and leaves worlds that look alike.
-/

namespace SealedVault

open Storage (AlikeAt)

namespace Vault

open SealedVault.Action (coupled_ask coupled_now coupled_onDisk)

variable {v : Vault} {base : Place} {user : String} {caller : Caller} {w w' : World} {kind : Kind}
  {α : Type}

/-- The worlds differ in their disks only, and these look alike to the user. -/
def Alike (v : Vault) (base : Place) (user : String) (w w' : World) : Prop :=
  ∃ d', w' = { w with disk := d' } ∧ v.storage.AlikeAt base user w.disk d'

theorem Alike.disk (h : v.Alike base user w w') :
    v.storage.AlikeAt base user w.disk w'.disk := by
  obtain ⟨d', rfl, h⟩ := h
  exact h

/-- What is done to records and noted in both worlds keeps them alike. -/
theorem keepsAlike : v.storage.KeepsRelated (v.storage.AlikeAt base user) :=
  v.storage.keepsRelated_alikeAt base user

/-! ## Operations on one record -/

/-- A caller who is not an admin is refused a record of someone else whatever its text is. -/
theorem coupled_authorized (hrole : caller.role ≠ .admin) (kind : Kind) (id : String) :
    Coupled (v.Alike base caller.userId) (v.authorized kind caller id) := by
  rintro w _ ⟨d', rfl, h⟩
  rcases h.getRecord_cases kind id with ⟨e, he, he'⟩ | ⟨r, r', hr, hr', hsame, hshown⟩
  · exact sameRun_of_eq (authorized_of_error he)
      (authorized_of_error (w := { w with disk := d' }) he') ⟨d', rfl, h⟩
  have hgrants_eq : r'.grants caller = r.grants caller := by
    rw [Record.grants, Record.grants, hsame.owner_eq]
  cases hgrants : r.grants caller with
  | true =>
    have howner : r.owner = caller.userId := (Record.grants_iff.mp hgrants).resolve_right hrole
    obtain rfl := hshown howner
    exact sameRun_of_eq (authorized_of_grants hr hgrants)
      (authorized_of_grants (w := { w with disk := d' }) hr' hgrants) ⟨d', rfl, h⟩
  | false =>
    rw [hgrants] at hgrants_eq
    have hnoted : SameRun (v.Alike base caller.userId) (v.noteDenied caller r) w
        { w with disk := d' } :=
      keepsAlike.coupled_note _ _ _ _ ⟨d', rfl, h⟩
    have hdenied := authorized_of_not_grants hr hgrants
    have hdenied' := authorized_of_not_grants (w := { w with disk := d' }) hr' hgrants_eq
    have hlabel : r'.label = r.label := by rw [Record.label, Record.label, hsame.id_eq]
    have hnote : v.noteDenied caller r' = v.noteDenied caller r := by
      rw [noteDenied, noteDenied, hsame.id_eq]
    rw [hlabel, hnote] at hdenied'
    exact sameRun_of_eq hdenied hdenied' hnoted.2

theorem coupled_readOwn (hrole : caller.role ≠ .admin) (kind : Kind) (id : String) :
    Coupled (v.Alike base caller.userId) (v.readOwn kind caller id) := by
  rw [readOwn]
  apply (coupled_authorized hrole kind id).bind
  intro r
  apply (keepsAlike.coupled_reveal caller r r.owner).bind
  intro plaintext
  exact (keepsAlike.coupled_note _ _).bind fun _ => coupled_pure _

theorem coupled_updateClaims (hrole : caller.role ≠ .admin) (id claims : String) :
    Coupled (v.Alike base caller.userId) (v.updateClaims caller id claims) := by
  rw [updateClaims]
  apply (coupled_authorized hrole .claims id).bind
  intro r
  apply (v.coupled_sealFor .claims r.owner claims).bind
  intro payload
  apply coupled_now.bind
  intro now
  apply (coupled_onDisk (keepsAlike.update _)).bind
  intro _
  exact (keepsAlike.coupled_note _ _).bind fun _ => coupled_pure _

theorem coupled_deleteClaims (hrole : caller.role ≠ .admin) (id : String) :
    Coupled (v.Alike base caller.userId) (v.deleteClaims caller id) := by
  rw [deleteClaims]
  apply (coupled_authorized hrole .claims id).bind
  intro r
  apply (coupled_onDisk (keepsAlike.delete .claims id)).bind
  intro _
  exact keepsAlike.coupled_note _ _

theorem coupled_listOwn (kind : Kind) (caller : Caller) :
    Coupled (v.Alike base caller.userId) (v.listOwn kind caller) := by
  rw [listOwn]
  refine Coupled.bind (coupled_ask fun d d' h => ?_) fun records =>
    keepsAlike.coupled_revealEach caller (·.owner) records
  refine h.listRecords_eq ?_ ?_
  · intro r r' hsame
    rw [hsame.owner_eq]
  · intro id r _ hkept
    exact of_decide_eq_true hkept

theorem coupled_addHanging (hrole : caller.role ≠ .admin) (kind : Kind)
    (documentId plaintext : String) (fields : Record .document → kind.Fields) :
    Coupled (v.Alike base caller.userId)
      (v.addHanging kind caller documentId plaintext fields) := by
  rw [addHanging]
  apply (coupled_authorized hrole .document documentId).bind
  intro document
  exact keepsAlike.coupled_store caller document.owner plaintext _

theorem coupled_auditEvents (caller : Caller) (date : String) :
    Coupled (v.Alike base user) (v.auditEvents caller date) := by
  apply keepsAlike.coupled_auditEvents
  intro day d d' h
  have hbytes := Storage.readBytes_auditLog_congr h.ready.auditReadyAt h.ready'.auditReadyAt
    day.isName_text h.auditView_eq
  rw [dayEvents, dayEvents, Audit.readDay, Audit.readDay, Audit.logPath, hbytes]

/-! ## Operations on what hangs on a document -/

/-- What hangs on a document that a caller may access belongs to the caller, unless that is an
admin. -/
theorem owner_of_hangs (hd : Consistent v.storage base w.disk) (hrole : caller.role ≠ .admin)
    {document : Record .document} {r : Record kind} {id documentId : String}
    (hdocument : v.storage.shelf w.disk .document documentId = some document)
    (hgrants : document.grants caller = true) (hr : v.storage.shelf w.disk kind id = some r)
    (hparent : r.parent? = some documentId) : r.owner = caller.userId := by
  rw [← hd.owner_eq hr hparent hdocument]
  exact (Record.grants_iff.mp hgrants).resolve_right hrole

theorem sameRun_readHanging (h : v.Alike base caller.userId w w')
    (hd : Consistent v.storage base w.disk) (hrole : caller.role ≠ .admin) (kind : Kind)
    (id : String) (documentOf : kind.Fields → String)
    (hparent : ∀ r : Record kind, r.parent? = some (documentOf r.fields)) :
    SameRun (v.Alike base caller.userId) (v.readHanging kind caller id documentOf) w w' := by
  rcases h.disk.getRecord_cases kind id with ⟨e, he, he'⟩ | ⟨r, r', hr, hr', hsame, hshown⟩
  · exact sameRun_of_eq (run_bind_of_error (ask_of_error he))
      (run_bind_of_error (ask_of_error he')) h
  have hauthorized := coupled_authorized hrole .document (documentOf r.fields) w w' h
  rw [SameRun, readHanging, run_bind_of_ok (ask_of_ok hr), run_bind_of_ok (ask_of_ok hr'),
    hsame.fields_eq]
  by_cases howner : r.owner = caller.userId
  · obtain rfl := hshown howner
    apply hauthorized.bind
    intro document t t' _ _ halike
    refine Coupled.bind (keepsAlike.coupled_reveal caller r' document.owner) ?_ t t' halike
    intro plaintext
    exact (keepsAlike.coupled_note _ _).bind fun _ => coupled_pure _
  -- the document belongs to someone else too, so both runs end with the refusal
  rcases authorized_cases h.disk.ready .document caller (documentOf r.fields) with
    ⟨e, t, hfail, -⟩ | ⟨document, -, hdocument, hgrants⟩
  · obtain ⟨hresult, halike⟩ := hauthorized
    rcases hfail' : v.authorized .document caller (documentOf r.fields) w' with ⟨result, t'⟩
    rw [hfail, hfail'] at hresult halike
    obtain rfl : result = .error e := hresult
    rw [run_bind_of_error hfail, run_bind_of_error hfail']
    exact ⟨rfl, halike⟩
  · exact absurd (owner_of_hangs hd hrole hdocument hgrants
      (Storage.shelf_eq_some_iff_getRecord.mpr hr) (hparent r)) howner

/-- The records that hang on a document of the caller are the same in both runs. -/
theorem listByDocument_eq (h : v.Alike base caller.userId w w')
    (hd : Consistent v.storage base w.disk) (hrole : caller.role ≠ .admin)
    {document : Record .document} {documentId : String}
    (hdocument : v.storage.shelf w.disk .document documentId = some document)
    (hgrants : document.grants caller = true) (kind : Kind) :
    v.storage.listByDocument kind documentId w'.disk =
      v.storage.listByDocument kind documentId w.disk := by
  refine h.disk.listRecords_eq ?_ ?_
  · intro r r' hsame
    rw [hsame.parent?_eq]
  · intro id r hr hkept
    exact owner_of_hangs hd hrole hdocument hgrants hr (of_decide_eq_true hkept)

theorem sameRun_ask {f : Disk → Except StorageError α} (h : v.Alike base user w w')
    (hf : f w'.disk = f w.disk) : SameRun (v.Alike base user) (Action.ask f) w w' := by
  rw [SameRun, Action.ask, Action.onDisk, Action.onDisk, DiskAction.ask, DiskAction.ask, hf]
  exact ⟨rfl, h⟩

theorem sameRun_listHanging (h : v.Alike base caller.userId w w')
    (hd : Consistent v.storage base w.disk) (hrole : caller.role ≠ .admin) (kind : Kind)
    (documentId : String) :
    SameRun (v.Alike base caller.userId) (v.listHanging kind caller documentId) w w' := by
  have hauthorized := coupled_authorized hrole .document documentId w w' h
  rw [listHanging]
  apply hauthorized.bind
  intro document t t' hfound _ halike
  obtain ⟨rfl, hdocument, hgrants⟩ := shelf_of_authorized hfound
  apply (sameRun_ask halike (listByDocument_eq halike hd hrole hdocument hgrants kind)).bind
  intro records u u' _ _ halike'
  exact keepsAlike.coupled_revealEach caller _ records u u' halike'

theorem sameRun_deleteHanging (h : v.Alike base caller.userId w w')
    (hd : Consistent v.storage base w.disk) (hrole : caller.role ≠ .admin)
    {document : Record .document} {documentId : String}
    (hdocument : v.storage.shelf w.disk .document documentId = some document)
    (hgrants : document.grants caller = true) (kind : Kind) :
    SameRun (v.Alike base caller.userId) (v.deleteHanging kind documentId) w w' := by
  rw [deleteHanging]
  apply (sameRun_ask h (listByDocument_eq h hd hrole hdocument hgrants kind)).bind
  intro records t t' _ _ halike
  exact (keepsAlike.coupled_deleteEach kind _).bind (fun _ => coupled_pure _) t t' halike

/-- The data directory is consistent after the records that hang on a document are gone, and the
document is still there. -/
theorem consistent_of_deleteHanging {t : World} {ids : List String}
    (hd : Consistent v.storage base w.disk) (hkind : kind ≠ .document) {documentId : String}
    (hdeleted : v.deleteHanging kind documentId w = (.ok ids, t)) :
    Consistent v.storage base t.disk ∧
      ∀ id, v.storage.shelf t.disk .document id = v.storage.shelf w.disk .document id := by
  obtain ⟨ids', t', hdeleted', heffects, -, hkept⟩ :=
    exists_deleteHanging hd kind hkind documentId
  rw [hdeleted'] at hdeleted
  cases hdeleted
  refine ⟨heffects.consistent hd, fun id => hkept .document id ?_⟩
  rintro ⟨rfl, -⟩
  exact hkind rfl

theorem sameRun_deleteDocument (h : v.Alike base caller.userId w w')
    (hd : Consistent v.storage base w.disk) (hrole : caller.role ≠ .admin) (id : String) :
    SameRun (v.Alike base caller.userId) (v.deleteDocument caller id) w w' := by
  have hauthorized := coupled_authorized hrole .document id w w' h
  rw [deleteDocument]
  apply hauthorized.bind
  intro document t t' hfound _ halike
  obtain ⟨rfl, hdocument, hgrants⟩ := shelf_of_authorized hfound
  apply (sameRun_deleteHanging halike hd hrole hdocument hgrants .photo).bind
  intro photoIds t₁ t₁' hphotos _ halike₁
  obtain ⟨hd₁, hkept⟩ := consistent_of_deleteHanging hd (by decide) hphotos
  rw [← hkept] at hdocument
  apply (sameRun_deleteHanging halike₁ hd₁ hrole hdocument hgrants .attachment).bind
  intro attachmentIds t₂ t₂' _ _ halike₂
  refine Coupled.bind (coupled_onDisk (keepsAlike.delete .document id)) ?_ t₂ t₂' halike₂
  intro _
  exact keepsAlike.coupled_note _ _

end Vault

/-! ## Requests -/

/-- Who makes a request. Sealing what is not sealed is nobody's request. -/
def Request.caller? : Request → Option Caller
  | storeClaims caller _ => some caller
  | readClaims caller _ => some caller
  | updateClaims caller _ _ => some caller
  | deleteClaims caller _ => some caller
  | listClaims caller => some caller
  | storeDocument caller _ _ _ => some caller
  | readDocument caller _ => some caller
  | deleteDocument caller _ => some caller
  | listDocuments caller => some caller
  | addPhoto caller _ _ _ => some caller
  | readPhoto caller _ => some caller
  | listPhotos caller _ => some caller
  | addAttachment caller _ _ _ _ => some caller
  | readAttachment caller _ => some caller
  | listAttachments caller _ => some caller
  | reseal => none
  | auditEvents caller _ => some caller

/-- Every request of a caller who is not an admin is answered in the same way in worlds that look
alike to the caller, and leaves worlds that look alike. -/
theorem Vault.sameRun_perform {v : Vault} {base : Place} {caller : Caller} {w w' : World}
    (h : v.Alike base caller.userId w w') (hd : Consistent v.storage base w.disk)
    (hrole : caller.role ≠ .admin) (request : Request)
    (hcaller : request.caller? = some caller) :
    SameRun (v.Alike base caller.userId) (v.perform request) w w' := by
  cases request with
  | reseal => cases hcaller
  | storeClaims _ claims =>
    cases hcaller
    exact (keepsAlike.coupled_store caller caller.userId claims _ w w' h).map _
  | readClaims _ id =>
    cases hcaller
    exact (coupled_readOwn hrole .claims id w w' h).map _
  | updateClaims _ id claims =>
    cases hcaller
    exact (coupled_updateClaims hrole id claims w w' h).map _
  | deleteClaims _ id =>
    cases hcaller
    exact (coupled_deleteClaims hrole id w w' h).map _
  | listClaims _ =>
    cases hcaller
    exact (coupled_listOwn .claims caller w w' h).map _
  | storeDocument _ title contentType data =>
    cases hcaller
    exact (keepsAlike.coupled_store caller caller.userId data _ w w' h).map _
  | readDocument _ id =>
    cases hcaller
    exact (coupled_readOwn hrole .document id w w' h).map _
  | deleteDocument _ id =>
    cases hcaller
    exact (sameRun_deleteDocument h hd hrole id).map _
  | listDocuments _ =>
    cases hcaller
    exact (coupled_listOwn .document caller w w' h).map _
  | addPhoto _ documentId contentType data =>
    cases hcaller
    exact (coupled_addHanging hrole .photo documentId data _ w w' h).map _
  | readPhoto _ id =>
    cases hcaller
    exact (sameRun_readHanging h hd hrole .photo id _ fun _ => rfl).map _
  | listPhotos _ documentId =>
    cases hcaller
    exact (sameRun_listHanging h hd hrole .photo documentId).map _
  | addAttachment _ documentId fileName contentType data =>
    cases hcaller
    exact (coupled_addHanging hrole .attachment documentId data _ w w' h).map _
  | readAttachment _ id =>
    cases hcaller
    exact (sameRun_readHanging h hd hrole .attachment id _ fun _ => rfl).map _
  | listAttachments _ documentId =>
    cases hcaller
    exact (sameRun_listHanging h hd hrole .attachment documentId).map _
  | auditEvents _ date =>
    cases hcaller
    exact (coupled_auditEvents caller date w w' h).map _

namespace Session

/-- What some requests are answered with, one after the other. -/
def answers (s : Session) : List Request → List (Except VaultError Answer)
  | [] => []
  | r :: rest => s.answer r :: (s.after (.request r)).answers rest

/-- A whole run of requests of a caller who is not an admin. -/
theorem sameRun_answers {v : Vault} {base : Place} {caller : Caller} {w w' : World}
    (h : v.Alike base caller.userId w w') (hd : Consistent v.storage base w.disk)
    (hrole : caller.role ≠ .admin) (requests : List Request)
    (hcaller : ∀ r ∈ requests, r.caller? = some caller) :
    (⟨v, w'⟩ : Session).answers requests = (⟨v, w⟩ : Session).answers requests ∧
      Consistent v.storage base ((⟨v, w⟩ : Session).run (requests.map .request)).world.disk ∧
      v.Alike base caller.userId ((⟨v, w⟩ : Session).run (requests.map .request)).world
        ((⟨v, w'⟩ : Session).run (requests.map .request)).world := by
  induction requests generalizing w w' with
  | nil => exact ⟨rfl, hd, h⟩
  | cons r rest ih =>
    obtain ⟨hanswer, halike⟩ :=
      Vault.sameRun_perform h hd hrole r (hcaller r List.mem_cons_self)
    have hconsistent := (Vault.effects_perform hd r).consistent hd
    obtain ⟨hanswers, hfinal, hrun⟩ :=
      ih halike hconsistent fun r' hr' => hcaller r' (List.mem_cons_of_mem r hr')
    refine ⟨?_, hfinal, hrun⟩
    rw [answers, answers, List.cons.injEq]
    exact ⟨hanswer, hanswers⟩

/-- Two worlds may differ in the texts of records that are not shown to a caller who is not an
admin. Then any requests of the caller have the same answers in both and leave the same audit logs,
and the worlds still differ in no other way. -/
theorem answers_eq_of_looksAlike (v : Vault) (w w' : World) (caller : Caller)
    (hrole : caller.role ≠ .admin)
    (hconsistent : ∃ base, Consistent v.storage base w.disk)
    (hsources : w' = { w with disk := w'.disk })
    (hlook : v.storage.LooksAlike caller.userId w.disk w'.disk)
    (requests : List Request) (hcaller : ∀ r ∈ requests, r.caller? = some caller) :
    (⟨v, w'⟩ : Session).answers requests = (⟨v, w⟩ : Session).answers requests ∧
      (∀ day : Calendar.Date,
        v.storage.readBytes (v.storage.layout.auditLog day.text)
            ((⟨v, w'⟩ : Session).run (requests.map .request)).world.disk =
          v.storage.readBytes (v.storage.layout.auditLog day.text)
            ((⟨v, w⟩ : Session).run (requests.map .request)).world.disk) ∧
      v.storage.LooksAlike caller.userId
        ((⟨v, w⟩ : Session).run (requests.map .request)).world.disk
        ((⟨v, w'⟩ : Session).run (requests.map .request)).world.disk := by
  obtain ⟨base, hd⟩ := hconsistent
  have halike : v.Alike base caller.userId w w' :=
    ⟨w'.disk, hsources, Storage.alikeAt_of_looksAlike hd hlook⟩
  obtain ⟨hanswers, hfinal, hrun⟩ := sameRun_answers halike hd hrole requests hcaller
  refine ⟨hanswers, fun day => ?_, hrun.disk.looksAlike hfinal⟩
  exact Storage.readBytes_auditLog_congr hrun.disk.ready'.auditReadyAt
    hrun.disk.ready.auditReadyAt day.isName_text
    hrun.disk.auditView_eq.symm

/-- Claims of a user who is called bob. -/
def bobsClaims (text : String) : Record .claims :=
  ⟨"bobs", "bob", .plain text, sampleInstant, ({ updatedAt := sampleInstant } : ClaimsFields)⟩

/-- The sample world after these claims were stored. -/
def bobsWorld (text : String) : World :=
  { (sample .disabled).world with
    disk := ((sample .disabled).vault.storage.createRecord (bobsClaims text)
      (sample .disabled).world.disk).2 }

theorem storable_bobsClaims {base : Place} {text : String}
    (h : (sample .disabled).vault.storage.ReadyAt base (sample .disabled).world.disk)
    (hok : ((sample .disabled).vault.storage.createRecord (bobsClaims text)
      (sample .disabled).world.disk).1.toOption = some ()) :
    (sample .disabled).vault.Storable base (sample .disabled).world.disk (bobsClaims text) ∧
      Storage.PutsRecord base (bobsClaims text) (sample .disabled).world.disk
        (bobsWorld text).disk := by
  rcases Storage.createRecord_cases h (bobsClaims text) with
    ⟨e, he⟩ | ⟨m, hm, hvalid, hwritable, hfits, habsent, hputs⟩
  · rw [he] at hok
    cases hok
  refine ⟨⟨hvalid, hfits, hwritable, habsent, ⟨default, text, ?_⟩, ?_⟩, ?_⟩
  · have howner : Sealing.checkOwner "bob" = .ok () := by decide
    exact Sealing.Service.protect_of_disabled howner default text
  · intro id hparent
    cases hparent
  · rw [bobsWorld, hm]
    exact hputs

/-- Nothing that alice asks for tells her which of two texts the claims of bob have. -/
theorem answers_eq_for_alice :
    (bobsWorld "one").disk ≠ (bobsWorld "two").disk ∧
      (∃ base, Consistent (sample .disabled).vault.storage base (bobsWorld "one").disk) ∧
      (sample .disabled).vault.storage.LooksAlike "alice" (bobsWorld "one").disk
        (bobsWorld "two").disk ∧
      (⟨(sample .disabled).vault, bobsWorld "two"⟩ : Session).answers
          [.readClaims ⟨"alice", .user⟩ "bobs", .listClaims ⟨"alice", .user⟩] =
        (⟨(sample .disabled).vault, bobsWorld "one"⟩ : Session).answers
          [.readClaims ⟨"alice", .user⟩ "bobs", .listClaims ⟨"alice", .user⟩] := by
  obtain ⟨base, hsound, -⟩ := (sample_begins .disabled).exists_sound
  have hempty : Consistent (sample .disabled).vault.storage base (sample .disabled).world.disk :=
    hsound.kept.consistent
  have hready := hempty.ready
  have hone : ((sample .disabled).vault.storage.createRecord (bobsClaims "one")
      (sample .disabled).world.disk).1.toOption = some () := by
    decide +kernel
  have htwo : ((sample .disabled).vault.storage.createRecord (bobsClaims "two")
      (sample .disabled).world.disk).1.toOption = some () := by
    decide +kernel
  obtain ⟨hstorable, hputs⟩ := storable_bobsClaims hready hone
  obtain ⟨hstorable', hputs'⟩ := storable_bobsClaims hready htwo
  have hconsistent : Consistent (sample .disabled).vault.storage base (bobsWorld "one").disk :=
    (Vault.Effect.store (bobsClaims "one") hstorable hputs).consistent hempty
  have hsame : (bobsClaims "one").SameButText (bobsClaims "two") := ⟨rfl, rfl⟩
  have hother : (bobsClaims "one").owner = "alice" → bobsClaims "two" = bobsClaims "one" :=
    fun howner => absurd howner (by decide)
  have hlook : (sample .disabled).vault.storage.LooksAlike "alice" (bobsWorld "one").disk
      (bobsWorld "two").disk :=
    ((AlikeAt.refl hready "alice").of_puts hstorable.valid hstorable.fits hsame hother hputs
      hputs').looksAlike hconsistent
  have hdiffer : (bobsWorld "one").disk ≠ (bobsWorld "two").disk := by
    intro heq
    have hshelf := hputs.shelf_self hready hstorable.valid hstorable.fits
    have hshelf' := hputs'.shelf_self hready hstorable'.valid hstorable'.fits
    rw [← heq] at hshelf'
    have hclaims : bobsClaims "one" = bobsClaims "two" :=
      Option.some.inj (hshelf.symm.trans hshelf')
    exact absurd (congrArg Record.payload hclaims) (by decide)
  have hsources : bobsWorld "two" = { bobsWorld "one" with disk := (bobsWorld "two").disk } := by
    simp only [bobsWorld]
  have hanswers := (answers_eq_of_looksAlike (sample .disabled).vault (bobsWorld "one")
    (bobsWorld "two") ⟨"alice", .user⟩ (by decide) ⟨base, hconsistent⟩ hsources hlook
    [.readClaims ⟨"alice", .user⟩ "bobs", .listClaims ⟨"alice", .user⟩] (by decide)).1
  exact ⟨hdiffer, ⟨base, hconsistent⟩, hlook, hanswers⟩

end Session

end SealedVault
