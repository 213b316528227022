import SealedVault.Proofs.Vault.Effects

/-!
# Reading and listing

Reading leaves every record as it is. A record that is found for a caller with access is answered
with its text, or with the failure to open it.
-/

namespace SealedVault.Vault

open Layout (AuditOnly)

variable {v : Vault} {base : Place} {w : World} {kind : Kind} {caller : Caller} {id : String}

/-- What is answered about a record that was found. -/
def openedBy (v : Vault) (keyOwner : String) (r : Record kind) :
    Except VaultError (Opened kind) :=
  ((v.service.reveal keyOwner r.payload).map fun plaintext => ⟨r, plaintext⟩).mapError .sealing

/-- A record is opened, and that or the failure is noted. -/
theorem exists_revealAndNote
    (h : v.storage.ReadyAt base w.disk) (caller : Caller) (r : Record kind) (keyOwner : String) :
    ∃ w',
      (do
        let plaintext ← v.reveal caller r keyOwner
        v.noteSuccess .recordRead caller r
        return (⟨r, plaintext⟩ : Opened kind) : Action (Opened kind)) w =
          (v.openedBy keyOwner r, w') ∧
        AuditOnly base w.disk w'.disk := by
  cases hreveal : v.service.reveal keyOwner r.payload with
  | ok plaintext =>
    obtain ⟨w', hw', haudit⟩ := exists_noteSuccess h .recordRead caller r
    refine ⟨w', ?_, haudit⟩
    rw [run_bind_of_ok (reveal_of_ok hreveal), run_bind_of_ok hw', openedBy, hreveal]
    rfl
  | error e =>
    refine ⟨_, ?_, auditOnly_noteUnopened h caller r e⟩
    rw [run_bind_of_error (reveal_of_error hreveal), openedBy, hreveal]
    rfl

/-- Reading an own record answers with what the service makes of its payload. -/
theorem exists_readOwn
    (h : v.storage.ReadyAt base w.disk) {r : Record kind}
    (hr : v.storage.shelf w.disk kind id = some r) (hgrants : r.grants caller = true) :
    ∃ w', v.readOwn kind caller id w = (v.openedBy r.owner r, w') ∧
      AuditOnly base w.disk w'.disk := by
  have hfound := authorized_of_grants (Storage.shelf_eq_some_iff_getRecord.mp hr) hgrants
  rw [readOwn, run_bind_of_ok hfound]
  exact exists_revealAndNote h caller r r.owner

/-- Reading what hangs on a document needs access to the document, whose owner has the key. -/
theorem exists_readHanging
    (h : v.storage.ReadyAt base w.disk) {documentOf : kind.Fields → String} {r : Record kind}
    {document : Record .document} (hr : v.storage.shelf w.disk kind id = some r)
    (hdocument : v.storage.shelf w.disk .document (documentOf r.fields) = some document)
    (hgrants : document.grants caller = true) :
    ∃ w', v.readHanging kind caller id documentOf w = (v.openedBy document.owner r, w') ∧
      AuditOnly base w.disk w'.disk := by
  have hfound := ask_of_ok (Storage.shelf_eq_some_iff_getRecord.mp hr)
  have hauthorized := authorized_of_grants
    (Storage.shelf_eq_some_iff_getRecord.mp hdocument) hgrants
  rw [readHanging, run_bind_of_ok hfound, run_bind_of_ok hauthorized]
  exact exists_revealAndNote h caller r document.owner

/-! ## What was answered -/

/-- A record that was opened was noted in the world in which it was found. -/
theorem of_revealAndNote_eq_ok {r : Record kind} {keyOwner : String} {o : Opened kind} {t : World}
    (h : (do
      let plaintext ← v.reveal caller r keyOwner
      v.noteSuccess .recordRead caller r
      return (⟨r, plaintext⟩ : Opened kind) : Action (Opened kind)) w = (.ok o, t)) :
    o.record = r ∧ v.service.reveal keyOwner r.payload = .ok o.plaintext ∧
      t = (v.noteSuccess .recordRead caller r w).2 := by
  cases hreveal : v.service.reveal keyOwner r.payload with
  | ok plaintext =>
    have hnoted : v.noteSuccess .recordRead caller r w =
        (.ok (), (v.noteSuccess .recordRead caller r w).2) := by
      rw [noteSuccess, note_eq]
    rw [run_bind_of_ok (reveal_of_ok hreveal), run_bind_of_ok hnoted] at h
    cases h
    exact ⟨rfl, rfl, rfl⟩
  | error e =>
    rw [run_bind_of_error (reveal_of_error hreveal)] at h
    cases h

/-- A record that was read was found, and the key of its owner opened it. -/
theorem of_readOwn_eq_ok {o : Opened kind} {t : World}
    (h : v.readOwn kind caller id w = (.ok o, t)) :
    v.storage.getRecord kind id w.disk = .ok o.record ∧ o.record.grants caller = true ∧
      v.service.reveal o.record.owner o.record.payload = .ok o.plaintext ∧
      t = (v.noteSuccess .recordRead caller o.record w).2 := by
  rw [readOwn, run_bind_eq_ok_iff] at h
  obtain ⟨r, u, hfound, h⟩ := h
  obtain ⟨rfl, hget, hgrants⟩ := getRecord_of_authorized hfound
  obtain ⟨rfl, hreveal, ht⟩ := of_revealAndNote_eq_ok h
  exact ⟨hget, hgrants, hreveal, ht⟩

/-- What was read of a document was opened by the key of the owner of the document. -/
theorem of_readHanging_eq_ok {documentOf : kind.Fields → String} {o : Opened kind} {t : World}
    (h : v.readHanging kind caller id documentOf w = (.ok o, t)) :
    v.storage.getRecord kind id w.disk = .ok o.record ∧
      ∃ document, v.storage.getRecord .document (documentOf o.record.fields) w.disk =
          .ok document ∧ document.grants caller = true ∧
        v.service.reveal document.owner o.record.payload = .ok o.plaintext ∧
        t = (v.noteSuccess .recordRead caller o.record w).2 := by
  rw [readHanging, run_bind_eq_ok_iff] at h
  obtain ⟨r, u, hasked, h⟩ := h
  obtain ⟨rfl, hget⟩ := of_ask_eq_ok hasked
  rw [run_bind_eq_ok_iff] at h
  obtain ⟨document, u, hfound, h⟩ := h
  obtain ⟨rfl, hdocument, hgrants⟩ := getRecord_of_authorized hfound
  obtain ⟨rfl, hreveal, ht⟩ := of_revealAndNote_eq_ok h
  exact ⟨hget, document, hdocument, hgrants, hreveal, ht⟩

/-! ## Every outcome -/

theorem auditOnly_readOwn
    (h : v.storage.ReadyAt base w.disk) (kind : Kind) (caller : Caller) (id : String) :
    AuditOnly base w.disk (v.readOwn kind caller id w).2.disk := by
  rcases authorized_cases h kind caller id with ⟨e, w', hfound, haudit⟩ | ⟨r, -, hr, hgrants⟩
  · rw [readOwn, run_bind_of_error hfound]
    exact haudit
  · obtain ⟨w', hw', haudit⟩ := exists_readOwn h hr hgrants
    rw [hw']
    exact haudit

theorem auditOnly_readHanging
    (h : v.storage.ReadyAt base w.disk) (kind : Kind) (caller : Caller) (id : String)
    (documentOf : kind.Fields → String) :
    AuditOnly base w.disk (v.readHanging kind caller id documentOf w).2.disk := by
  cases hget : v.storage.getRecord kind id w.disk with
  | error e =>
    rw [readHanging, run_bind_of_error (ask_of_error hget)]
    exact .refl base _
  | ok r =>
    rcases authorized_cases h .document caller (documentOf r.fields) with
      ⟨e, w', hfound, haudit⟩ | ⟨document, -, hdocument, hgrants⟩
    · rw [readHanging, run_bind_of_ok (ask_of_ok hget), run_bind_of_error hfound]
      exact haudit
    · obtain ⟨w', hw', haudit⟩ :=
        exists_readHanging h (Storage.shelf_eq_some_iff_getRecord.mpr hget) hdocument hgrants
      rw [hw']
      exact haudit

theorem auditOnly_listOwn
    (h : v.storage.ReadyAt base w.disk) (kind : Kind) (caller : Caller) :
    AuditOnly base w.disk (v.listOwn kind caller w).2.disk := by
  obtain ⟨records, hlist, -⟩ := Storage.exists_listRecords h kind
    fun r => decide (r.owner = caller.userId)
  have hask : Action.ask (v.storage.listByOwner kind caller.userId) w = (.ok records, w) :=
    ask_of_ok hlist
  obtain ⟨opened, w', hw', haudit⟩ := auditOnly_revealEach caller (·.owner) records h
  rw [listOwn, run_bind_of_ok hask, hw']
  exact haudit

theorem auditOnly_listHanging
    (h : v.storage.ReadyAt base w.disk) (kind : Kind) (caller : Caller) (documentId : String) :
    AuditOnly base w.disk (v.listHanging kind caller documentId w).2.disk := by
  rcases authorized_cases h .document caller documentId with
    ⟨e, w', hfound, haudit⟩ | ⟨document, hfound, -, -⟩
  · rw [listHanging, run_bind_of_error hfound]
    exact haudit
  obtain ⟨records, hlist, -⟩ := Storage.exists_listRecords h kind
    fun r => decide (r.parent? = some documentId)
  have hask : Action.ask (v.storage.listByDocument kind documentId) w = (.ok records, w) :=
    ask_of_ok hlist
  obtain ⟨opened, w', hw', haudit⟩ :=
    auditOnly_revealEach caller (fun _ => document.owner) records h
  rw [listHanging, run_bind_of_ok hfound, run_bind_of_ok hask, hw']
  exact haudit

theorem auditOnly_auditEvents
    (h : v.storage.ReadyAt base w.disk) (caller : Caller) (date : String) :
    AuditOnly base w.disk (v.auditEvents caller date w).2.disk := by
  rw [auditEvents]
  cases Calendar.Date.read date with
  | error fault => exact .refl base _
  | ok day =>
    by_cases hprivilege : caller.role.hasPrivilege .auditor = true
    · simp only [if_pos hprivilege]
      cases hevents : v.dayEvents day w.disk with
      | error e =>
        rw [run_bind_of_error (ask_of_error hevents)]
        exact .refl base _
      | ok events =>
        obtain ⟨w', hw', haudit⟩ := exists_note h .auditAccessed fun e =>
          (e.withUser caller.userId).withResource auditResource day.text
        rw [run_bind_of_ok (ask_of_ok hevents), run_bind_of_ok hw']
        exact haudit
    · simp only [if_neg hprivilege]
      obtain ⟨w', hw', haudit⟩ := exists_note h .permissionDenied fun e =>
        ((e.withUser caller.userId).withResource auditResource day.text).failed
          "auditor role required"
      rw [run_bind_of_ok hw']
      exact haudit

end SealedVault.Vault
