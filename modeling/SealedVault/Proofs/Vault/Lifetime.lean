import SealedVault.Proofs.Vault.Ledger

/-!
# The lifetime of a record

Whatever happens in a session, a record that was stored and not deleted is answered to those who
may read it as it was stored, with the text that was stored last. The key of the service matters
only for what was sealed: the key under which it was sealed opens it, no key refuses it, and what
another key makes of it is what that key makes of the sealed text.
-/

namespace SealedVault

open Sealing (MasterKey Service SealingError checkOwner)

namespace Request

/-- The request that reads the record of a kind with an id. -/
def read : Kind → Caller → String → Request
  | .claims => readClaims
  | .document => readDocument
  | .photo => readPhoto
  | .attachment => readAttachment

end Request

/-- Admins may read a record, and so may its owner. Of what hangs on a document, the owner of the
document counts. -/
def Ledger.Entitles (ledger : Ledger) (caller : Caller) (entry : LedgerEntry) : Prop :=
  caller.role = .admin ∨
    match entry.documentId with
    | none => entry.owner = caller.userId
    | some documentId =>
      ∃ document, ledger .document documentId = some document ∧ document.owner = caller.userId

namespace Vault

variable {v : Vault} {base : Place} {w : World} {kind : Kind} {caller : Caller} {id : String}

theorem perform_read_own
    (hd : Consistent v.storage base w.disk) {r : Record kind}
    (hr : v.storage.shelf w.disk kind id = some r) (hgrants : r.grants caller = true)
    (hread : v.perform (.read kind caller id) = Answer.opened <$> v.readOwn kind caller id) :
    (v.perform (.read kind caller id) w).1 = (v.openedBy r.owner r).map .opened := by
  obtain ⟨w', hw', -⟩ := exists_readOwn hd.ready hr hgrants
  rw [hread, run_map, hw']

theorem perform_read_hanging
    (hd : Consistent v.storage base w.disk) {r : Record kind}
    (hr : v.storage.shelf w.disk kind id = some r) (hgrants : r.grants caller = true)
    (documentOf : kind.Fields → String) (hparent : r.parent? = some (documentOf r.fields))
    (hread : v.perform (.read kind caller id) =
      Answer.opened <$> v.readHanging kind caller id documentOf) :
    (v.perform (.read kind caller id) w).1 = (v.openedBy r.owner r).map .opened := by
  obtain ⟨document, hdocument, howner⟩ := hd.hangs hr hparent
  have hgrants' : document.grants caller = true := by
    rw [Record.grants_iff, howner]
    exact Record.grants_iff.mp hgrants
  obtain ⟨w', hw', -⟩ := exists_readHanging hd.ready hr hdocument hgrants'
  rw [hread, run_map, hw', howner]

/-- Whoever has access to a record is answered with what its owner's key makes of it. -/
theorem perform_read
    (hd : Consistent v.storage base w.disk) {r : Record kind}
    (hr : v.storage.shelf w.disk kind id = some r) (hgrants : r.grants caller = true) :
    (v.perform (.read kind caller id) w).1 = (v.openedBy r.owner r).map .opened := by
  cases kind with
  | claims => exact perform_read_own hd hr hgrants rfl
  | document => exact perform_read_own hd hr hgrants rfl
  | photo => exact perform_read_hanging hd hr hgrants PhotoFields.documentId rfl rfl
  | attachment => exact perform_read_hanging hd hr hgrants AttachmentFields.documentId rfl rfl

end Vault

namespace Ledger

variable {ledger : Ledger} {v : Vault} {base : Place} {d : Disk} {kind : Kind} {id : String}
  {caller : Caller} {entry : LedgerEntry}

/-- Those whom the ledger entitles have access to the record that it describes. -/
theorem Agrees.grants {r : Record kind}
    (h : ledger.Agrees v.storage d) (hd : Consistent v.storage base d)
    (hr : v.storage.shelf d kind id = some r) (hdescribes : entry.Describes r)
    (hentitled : ledger.Entitles caller entry) : r.grants caller = true := by
  rw [Record.grants_iff]
  rcases hentitled with hadmin | hentitled
  · exact Or.inr hadmin
  left
  cases hdocumentId : entry.documentId with
  | none =>
    rw [hdocumentId] at hentitled
    rw [hdescribes.owner_eq, hentitled]
  | some documentId =>
    rw [hdocumentId] at hentitled
    obtain ⟨parentEntry, hparentEntry, howner⟩ := hentitled
    have hparent : r.parent? = some documentId := by rw [hdescribes.parent_eq, hdocumentId]
    obtain ⟨document, hdocument, hsame⟩ := hd.hangs hr hparent
    obtain ⟨document', hdocument', hdescribes'⟩ := h.exists_of_entry hparentEntry
    rw [hdocument] at hdocument'
    cases hdocument'
    rw [← hsame, hdescribes'.owner_eq, howner]

end Ledger

namespace LedgerEntry

variable {v : Vault} {kind : Kind} {entry : LedgerEntry} {r : Record kind}

/-- A record that is not sealed, or sealed under the key of the service, opens to its text. -/
theorem Describes.openedBy_of_same_key
    (hdescribes : entry.Describes r) (howner : checkOwner r.owner = .ok ())
    (hkey : entry.key = none ∨ entry.key = v.service.masterKey) :
    v.openedBy r.owner r = .ok ⟨r, entry.plaintext⟩ := by
  have hreveal : v.service.reveal r.owner r.payload = .ok entry.plaintext := by
    have hholds := hdescribes.holds
    rw [Holds] at hholds
    cases hentry : entry.key with
    | none =>
      rw [hentry] at hholds
      rw [hholds, Service.reveal_plain v.service howner]
    | some key =>
      rw [hentry] at hholds hkey
      obtain ⟨initial, stored, hpayload, hsealing⟩ := hholds
      rcases hkey with hkey | hkey
      · cases hkey
      have hservice : v.service = ⟨some key⟩ := by rw [hkey]
      rw [hpayload, hservice, Service.reveal_sealed key howner]
      rw [← hdescribes.owner_eq] at hsealing
      exact Service.unsealText_of_isSealing howner hsealing
  rw [Vault.openedBy, hreveal]
  rfl

/-- Without a key nothing that is sealed opens. -/
theorem Describes.openedBy_without_key {key : MasterKey}
    (hdescribes : entry.Describes r) (howner : checkOwner r.owner = .ok ())
    (hentry : entry.key = some key) (hkey : v.service.masterKey = none) :
    v.openedBy r.owner r =
      .error (.sealing (.invalidKeyMaterial "master key not configured")) := by
  have hholds := hdescribes.holds
  rw [Holds, hentry] at hholds
  obtain ⟨initial, stored, hpayload, -⟩ := hholds
  have hservice : v.service = Service.disabled := by rw [Service.disabled, ← hkey]
  rw [Vault.openedBy, hpayload, hservice, Service.reveal_sealed_of_disabled howner]
  rfl

/-- With a key a sealed record is answered with what that key makes of the sealed text. -/
theorem Describes.openedBy_with_key {key current : MasterKey}
    (hdescribes : entry.Describes r) (howner : checkOwner r.owner = .ok ())
    (hentry : entry.key = some key) (hkey : v.service.masterKey = some current) :
    ∃ initial stored, Service.IsSealing key entry.owner initial entry.plaintext stored ∧
      v.openedBy r.owner r =
        ((Service.unsealText current entry.owner stored).map fun plaintext =>
          ⟨r, plaintext⟩).mapError .sealing := by
  have hholds := hdescribes.holds
  rw [Holds, hentry] at hholds
  obtain ⟨initial, stored, hpayload, hsealing⟩ := hholds
  have hservice : v.service = ⟨some current⟩ := by rw [← hkey]
  refine ⟨initial, stored, hsealing, ?_⟩
  rw [Vault.openedBy, hpayload, hservice, Service.reveal_sealed current howner,
    hdescribes.owner_eq]

end LedgerEntry

namespace Session

/-- In every state that a session reaches, a read by anyone whom the ledger entitles answers with
the record that was stored and with the text that the ledger holds, if that is not sealed or sealed
under the key of the service. Otherwise it fails for want of a key, or is answered with what the
key of the service makes of the sealed text. -/
theorem read_run (s : Session) (h : s.Begins) (steps : List Step)
    {kind : Kind} {id : String} {caller : Caller} {entry : LedgerEntry}
    (hentry : s.ledger .empty steps kind id = some entry)
    (hentitled : (s.ledger .empty steps).Entitles caller entry) :
    ∃ r : Record kind, r.id = id ∧ entry.Describes r ∧
      (entry.key = none ∨ entry.key = (s.run steps).vault.service.masterKey →
        (s.run steps).answer (.read kind caller id) = .ok (.opened ⟨r, entry.plaintext⟩)) ∧
      ∀ key, entry.key = some key →
        ((s.run steps).vault.service.masterKey = none →
          (s.run steps).answer (.read kind caller id) =
            .error (.sealing (.invalidKeyMaterial "master key not configured"))) ∧
        ∀ current, (s.run steps).vault.service.masterKey = some current →
          ∃ initial stored, Service.IsSealing key entry.owner initial entry.plaintext stored ∧
            (s.run steps).answer (.read kind caller id) =
              ((Service.unsealText current entry.owner stored).map fun plaintext =>
                .opened (⟨r, plaintext⟩ : Opened kind)).mapError .sealing := by
  obtain ⟨base, hsound, hnone⟩ := h.exists_sound
  have hbeginning : Ledger.empty.Agrees s.vault.storage s.world.disk :=
    fun kind id => Or.inl ⟨rfl, hnone kind id⟩
  have hagrees := agrees_run hsound hbeginning steps
  have hkept := (hsound.run steps).kept
  obtain ⟨r, hr, hdescribes⟩ := hagrees.exists_of_entry hentry
  have howner := hkept.owner hr
  have hgrants := hagrees.grants hkept.consistent hr hdescribes hentitled
  have hanswer : (s.run steps).answer (.read kind caller id) =
      ((s.run steps).vault.openedBy r.owner r).map .opened :=
    Vault.perform_read hkept.consistent hr hgrants
  refine ⟨r, hkept.consistent.named hr, hdescribes, ?_, ?_⟩
  · intro hkey
    rw [hanswer, hdescribes.openedBy_of_same_key howner hkey]
    rfl
  · intro key hsealed
    refine ⟨fun hkey => ?_, fun current hkey => ?_⟩
    · rw [hanswer, hdescribes.openedBy_without_key howner hsealed hkey]
      rfl
    · obtain ⟨initial, stored, hsealing, hopened⟩ :=
        hdescribes.openedBy_with_key howner hsealed hkey
      refine ⟨initial, stored, hsealing, ?_⟩
      rw [hanswer, hopened]
      cases Service.unsealText current entry.owner stored <;> rfl

/-- Claims that were stored while there was no key are read back after a key was configured. -/
theorem read_run_for_alice :
    (sample .disabled).Begins ∧
      ∃ entry, (sample .disabled).ledger .empty
          [.request (.storeClaims ⟨"alice", .user⟩ "Γειά"),
            .rekey ⟨some ⟨List.replicate 16 7, by decide⟩⟩] .claims "record-0" = some entry ∧
        Ledger.Entitles ((sample .disabled).ledger .empty
          [.request (.storeClaims ⟨"alice", .user⟩ "Γειά"),
            .rekey ⟨some ⟨List.replicate 16 7, by decide⟩⟩]) ⟨"alice", .user⟩ entry ∧
        ∃ r : Record .claims, ((sample .disabled).run
          [.request (.storeClaims ⟨"alice", .user⟩ "Γειά"),
            .rekey ⟨some ⟨List.replicate 16 7, by decide⟩⟩]).answer
              (.read .claims ⟨"alice", .user⟩ "record-0") = .ok (.opened ⟨r, "Γειά"⟩) := by
  have hbegins := sample_begins .disabled
  have hheld : ((sample .disabled).ledger .empty
      [.request (.storeClaims ⟨"alice", .user⟩ "Γειά"),
        .rekey ⟨some ⟨List.replicate 16 7, by decide⟩⟩] .claims "record-0").map
          (fun entry => (entry.owner, entry.documentId, entry.plaintext, entry.key)) =
      some ("alice", none, "Γειά", none) := by
    decide +kernel
  obtain ⟨entry, hentry, hparts⟩ := Option.map_eq_some_iff.mp hheld
  obtain ⟨howner, hdocument, hplaintext, hkey⟩ : entry.owner = "alice" ∧
      entry.documentId = none ∧ entry.plaintext = "Γειά" ∧ entry.key = none := by
    simpa using hparts
  have hentitled : Ledger.Entitles ((sample .disabled).ledger .empty
      [.request (.storeClaims ⟨"alice", .user⟩ "Γειά"),
        .rekey ⟨some ⟨List.replicate 16 7, by decide⟩⟩]) ⟨"alice", .user⟩ entry := by
    right
    rw [hdocument]
    exact howner
  obtain ⟨r, -, -, hread, -⟩ := read_run (sample .disabled) hbegins _ hentry hentitled
  have hanswer := hread (Or.inl hkey)
  rw [hplaintext] at hanswer
  exact ⟨hbegins, entry, hentry, hentitled, r, hanswer⟩

end Session

end SealedVault
