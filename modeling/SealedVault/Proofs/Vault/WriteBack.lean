import SealedVault.Proofs.Vault.Integrity
import SealedVault.Proofs.Vault.Touching

/-!
# Where records are written back

The requests that rewrite or remove records first load them from files, each named by an id. A
record also holds an id of its own, by which it is written back, and by which what hangs on a
document is deleted. So where a file has the name of the id in its record, a request changes no file
but those from which it loaded the records that it selected. A file with another name, such as a
copy of a record, is left as it is instead, and its record takes the place of the one whose id it
holds.
-/

namespace SealedVault

open Layout (auditPlace recordPlace recordPlace_injective)
open Sealing (Payload)

/-- The requests that rewrite or remove records that are there. -/
def Request.rewrites : Request → Bool
  | updateClaims .. => true
  | deleteClaims .. => true
  | deleteDocument .. => true
  | reseal => true
  | _ => false

namespace Vault

variable {v : Vault} {w : World} {d : Disk} {request : Request} {kind : Kind} {caller : Caller}
  {id : String} {P : Place → Option (List UInt8) → Prop}

/-- A request selects a record that it loads from the file named by an id: the one that the caller
asked for and may access, with what hangs on it, or one that is not sealed. -/
inductive Selects (v : Vault) (d : Disk) : Request → (kind : Kind) → String → Record kind → Prop
  | update {caller : Caller} {id claims : String} {r : Record .claims}
    (found : v.storage.getRecord .claims id d = .ok r) (granted : r.grants caller = true) :
    Selects v d (.updateClaims caller id claims) .claims id r
  | delete {caller : Caller} {id : String} {r : Record .claims}
    (found : v.storage.getRecord .claims id d = .ok r) (granted : r.grants caller = true) :
    Selects v d (.deleteClaims caller id) .claims id r
  | document {caller : Caller} {id : String} {document : Record .document}
    (found : v.storage.getRecord .document id d = .ok document)
    (granted : document.grants caller = true) :
    Selects v d (.deleteDocument caller id) .document id document
  | hanging {caller : Caller} {documentId : String} {document : Record .document} {kind : Kind}
    {id : String} {r : Record kind}
    (document_found : v.storage.getRecord .document documentId d = .ok document)
    (granted : document.grants caller = true) (found : v.storage.getRecord kind id d = .ok r)
    (hangs : r.parent? = some documentId) :
    Selects v d (.deleteDocument caller documentId) kind id r
  | plain {kind : Kind} {id : String} {r : Record kind} {plaintext : String}
    (enabled : v.service.isEnabled = true) (found : v.storage.getRecord kind id d = .ok r)
    (plain : r.payload = .plain plaintext) : Selects v d .reseal kind id r

theorem Selects.getRecord {r : Record kind} (h : v.Selects d request kind id r) :
    v.storage.getRecord kind id d = .ok r := by
  cases h with
  | update found granted => exact found
  | delete found granted => exact found
  | document found granted => exact found
  | hanging document_found granted found hangs => exact found
  | plain enabled found plain => exact found

/-- What a request may do to a file for the sake of a record that it selected: take it away, or put
the record there with a payload for its owner. -/
def WritesBack (v : Vault) (d : Disk) (request : Request) (place : Place)
    (content : Option (List UInt8)) : Prop :=
  ∃ (kind : Kind) (id : String) (r : Record kind), v.Selects d request kind id r ∧
    (place = recordPlace v.storage.layout.base kind id ∨
      place = recordPlace v.storage.layout.base kind r.id) ∧
    (content = none ∨ ∃ payload now, v.Protects r.owner payload ∧
      content = some (r.setPayload payload now).toBytes)

/-! ## Claims -/

theorem protects_of_sealFor {owner plaintext : String} {payload : Payload} {t : World}
    (h : v.sealFor kind owner plaintext w = (.ok payload, t)) : v.Protects owner payload := by
  rcases sealFor_cases v kind owner plaintext w with ⟨e, w', hfails, -⟩ | ⟨p, w', hok, -, hprotect⟩
  · rw [hfails] at h
    cases h
  · rw [hok] at h
    cases h
    exact ⟨w.initials.next, plaintext, hprotect⟩

theorem touches_updateClaims (caller : Caller) (id claims : String) :
    v.Touches (v.WritesBack w.disk (.updateClaims caller id claims)) w
      (v.updateClaims caller id claims) := by
  rw [updateClaims]
  refine Touches.bind (spares_authorized .claims caller id).touches ?_
  intro r t hfound
  obtain ⟨rfl, hget, hgrants⟩ := getRecord_of_authorized hfound
  refine Touches.bind (spares_sealFor .claims r.owner claims).touches ?_
  intro payload u hsealed
  refine Touches.bind spares_now.touches ?_
  intro now _ _
  have hwrites : v.WritesBack t.disk (.updateClaims caller id claims)
      (recordPlace v.storage.layout.base .claims r.id)
      (some (r.setPayload payload now).toBytes) :=
    ⟨.claims, id, r, .update hget hgrants, Or.inr rfl,
      Or.inr ⟨payload, now, protects_of_sealFor hsealed, rfl⟩⟩
  refine Touches.bind (rewrites_updateRecord (r.setPayload payload now) hwrites).touches ?_
  intro _ _ _
  exact ((spares_noteSuccess _ _ _).bind fun _ => spares_pure _).touches

theorem touches_deleteClaims (caller : Caller) (id : String) :
    v.Touches (v.WritesBack w.disk (.deleteClaims caller id)) w (v.deleteClaims caller id) := by
  rw [deleteClaims]
  refine Touches.bind (spares_authorized .claims caller id).touches ?_
  intro r t hfound
  obtain ⟨rfl, hget, hgrants⟩ := getRecord_of_authorized hfound
  have hwrites : v.WritesBack t.disk (.deleteClaims caller id)
      (recordPlace v.storage.layout.base .claims id) none :=
    ⟨.claims, id, r, .delete hget hgrants, Or.inl rfl, Or.inl rfl⟩
  refine Touches.bind (rewrites_deleteRecord .claims id hwrites).touches ?_
  intro _ _ _
  exact (spares_noteSuccess _ _ _).touches

/-! ## Documents -/

theorem rewrites_deleteEach (kind : Kind) (ids : List String)
    (hP : ∀ id ∈ ids, P (recordPlace v.storage.layout.base kind id) none) :
    Rewrites P w (v.deleteEach kind ids) := by
  induction ids generalizing w with
  | nil => exact rewrites_of_same_disk rfl
  | cons id rest ih =>
    rw [deleteEach]
    apply (rewrites_deleteRecord kind id (hP id List.mem_cons_self)).bind
    intro _ t _
    exact ih fun id' hid' => hP id' (List.mem_cons_of_mem _ hid')

/-- A file that may be taken away with a document, because of a record that hangs on it. -/
def HangingFile (v : Vault) (d : Disk) (documentId : String) (kind : Kind) (place : Place)
    (content : Option (List UInt8)) : Prop :=
  content = none ∧ ∃ (id : String) (r : Record kind), v.storage.getRecord kind id d = .ok r ∧
    r.parent? = some documentId ∧ place = recordPlace v.storage.layout.base kind r.id

theorem rewrites_deleteHanging (kind : Kind) (documentId : String) :
    Rewrites (v.HangingFile w.disk documentId kind) w (v.deleteHanging kind documentId) := by
  rw [deleteHanging]
  apply (rewrites_of_same_disk rfl).bind
  intro records t hask
  obtain ⟨rfl, hrecords⟩ := of_ask_eq_ok hask
  have hfiles : ∀ id ∈ records.map (·.id), v.HangingFile t.disk documentId kind
      (recordPlace v.storage.layout.base kind id) none := by
    intro id hid
    obtain ⟨r, hr, rfl⟩ := List.mem_map.mp hid
    obtain ⟨hhangs, id, hget⟩ := Storage.exists_getRecord_of_mem hrecords hr
    exact ⟨rfl, id, r, hget, by simpa using hhangs, rfl⟩
  apply (rewrites_deleteEach kind _ hfiles).bind
  intro _ _ _
  exact rewrites_of_same_disk rfl

theorem touches_deleteDocument (caller : Caller) (id : String) :
    v.Touches (v.WritesBack w.disk (.deleteDocument caller id)) w (v.deleteDocument caller id) := by
  rw [deleteDocument]
  refine Touches.bind (spares_authorized .document caller id).touches ?_
  intro document t hfound
  obtain ⟨rfl, hget, hgrants⟩ := getRecord_of_authorized hfound
  have hhanging (kind : Kind) (place : Place) (content : Option (List UInt8))
      (h : v.HangingFile t.disk id kind place content) :
      v.WritesBack t.disk (.deleteDocument caller id) place content := by
    obtain ⟨rfl, id', r, hget', hhangs, rfl⟩ := h
    exact ⟨kind, id', r, .hanging hget hgrants hget' hhangs, Or.inr rfl, Or.inl rfl⟩
  have hphotos := rewrites_deleteHanging (v := v) (w := t) .photo id
  refine Touches.bind (hphotos.mono (hhanging .photo)).touches ?_
  intro photoIds u hdeleted
  rw [Rewrites, hdeleted] at hphotos
  -- the attachments that are found now were there before the photos were deleted
  have hattachments (place : Place) (content : Option (List UInt8))
      (h : v.HangingFile u.disk id .attachment place content) :
      v.HangingFile t.disk id .attachment place content := by
    obtain ⟨hcontent, id', r, hget', hhangs, hplace⟩ := h
    refine ⟨hcontent, id', r, Storage.getRecord_of_rewrites hphotos ?_ hget', hhangs, hplace⟩
    rintro content ⟨-, id'', r', -, -, hsame⟩
    cases (recordPlace_injective hsame).1
  refine Touches.bind ((rewrites_deleteHanging .attachment id).mono fun place content h =>
    hhanging .attachment place content (hattachments place content h)).touches ?_
  intro attachmentIds _ _
  have hwrites : v.WritesBack t.disk (.deleteDocument caller id)
      (recordPlace v.storage.layout.base .document id) none :=
    ⟨.document, id, document, .document hget hgrants, Or.inl rfl, Or.inl rfl⟩
  refine Touches.bind (rewrites_deleteRecord .document id hwrites).touches ?_
  intro _ _ _
  exact (spares_note _ _).touches

/-! ## Sealing what is not sealed -/

/-- What a pass may put into a file, because of a record that it found unsealed. -/
def SealedFile (v : Vault) (d : Disk) (kind : Kind) (place : Place)
    (content : Option (List UInt8)) : Prop :=
  ∃ (id : String) (r : Record kind) (plaintext : String) (payload : Payload)
    (now : Calendar.Timestamp), v.storage.getRecord kind id d = .ok r ∧
      r.payload = .plain plaintext ∧ v.Protects r.owner payload ∧
      place = recordPlace v.storage.layout.base kind r.id ∧
      content = some (r.setPayload payload now).toBytes

theorem rewrites_resealRecord (r : Record kind) (plaintext : String)
    (hP : ∀ payload now, v.Protects r.owner payload →
      P (recordPlace v.storage.layout.base kind r.id) (some (r.setPayload payload now).toBytes)) :
    Rewrites P w (v.resealRecord r plaintext) := by
  rw [resealRecord]
  apply (rewrites_of_same_disk (by rw [sealFor_eq])).bind
  intro payload t hsealed
  apply (rewrites_of_same_disk rfl).bind
  intro now u _
  exact rewrites_updateRecord _ (hP payload now (protects_of_sealFor hsealed))

theorem rewrites_resealEach (records : List (Record kind))
    (hP : ∀ r ∈ records, ∀ plaintext, r.payload = .plain plaintext →
      ∀ payload now, v.Protects r.owner payload →
        P (recordPlace v.storage.layout.base kind r.id)
          (some (r.setPayload payload now).toBytes)) :
    Rewrites P w (v.resealEach records) := by
  induction records generalizing w with
  | nil => exact rewrites_of_same_disk rfl
  | cons r rest ih =>
    have hrest (counts : ResealSummary) (t : World) : Rewrites P t (do
        let counts ← (pure counts : Action ResealSummary)
        let more ← v.resealEach rest
        pure (counts + more)) := by
      apply (rewrites_of_same_disk rfl).bind
      intro counts t _
      apply (ih fun r' hr' => hP r' (List.mem_cons_of_mem _ hr')).bind
      intro more _ _
      exact rewrites_of_same_disk rfl
    cases hpayload : r.payload with
    | sealed stored =>
      simp only [resealEach, hpayload]
      exact hrest .sealedBefore w
    | plain plaintext =>
      simp only [resealEach, hpayload]
      have hfirst : Rewrites P w (v.resealRecord r plaintext) :=
        rewrites_resealRecord r plaintext (hP r List.mem_cons_self plaintext hpayload)
      apply hfirst.attempt.bind
      intro found t _
      cases found with
      | some => exact hrest .sealedNow t
      | none => exact hrest .notSealed t

theorem rewrites_resealKind (kind : Kind) :
    Rewrites (v.SealedFile w.disk kind) w (v.resealKind kind) := by
  rw [resealKind]
  apply (rewrites_of_same_disk rfl).bind
  intro records t hask
  obtain ⟨rfl, hrecords⟩ := of_ask_eq_ok hask
  apply rewrites_resealEach
  intro r hr plaintext hplain payload now hprotects
  obtain ⟨-, id, hget⟩ := Storage.exists_getRecord_of_mem hrecords hr
  exact ⟨id, r, plaintext, payload, now, hget, hplain, hprotects, rfl, rfl⟩

/-- A pass over several kinds finds the records of each of them as they were before. -/
theorem rewrites_resealKinds {kinds : List Kind} (hnodup : kinds.Nodup) :
    Rewrites (fun place content => ∃ kind ∈ kinds, v.SealedFile w.disk kind place content) w
      (v.resealKinds kinds) := by
  induction kinds generalizing w with
  | nil => exact rewrites_of_same_disk rfl
  | cons kind rest ih =>
    obtain ⟨hnot, hnodup⟩ := List.nodup_cons.mp hnodup
    rw [resealKinds]
    have hfirst := rewrites_resealKind (v := v) (w := w) kind
    apply (hfirst.mono fun place content h => ⟨kind, List.mem_cons_self, h⟩).bind
    intro counts t hcounts
    rw [Rewrites, hcounts] at hfirst
    have hbefore (place : Place) (content : Option (List UInt8))
        (h : ∃ kind' ∈ rest, v.SealedFile t.disk kind' place content) :
        ∃ kind' ∈ kind :: rest, v.SealedFile w.disk kind' place content := by
      obtain ⟨kind', hkind', id, r, plaintext, payload, now, hget, hfile⟩ := h
      refine ⟨kind', List.mem_cons_of_mem _ hkind', id, r, plaintext, payload, now, ?_, hfile⟩
      apply Storage.getRecord_of_rewrites hfirst ?_ hget
      rintro content ⟨id', r', _, _, _, -, -, -, hsame, -⟩
      exact hnot ((recordPlace_injective hsame).1 ▸ hkind')
    apply ((ih hnodup).mono hbefore).bind
    intro more _ _
    exact rewrites_of_same_disk rfl

theorem touches_reseal : v.Touches (v.WritesBack w.disk .reseal) w v.reseal := by
  rw [reseal]
  by_cases henabled : v.service.isEnabled = true
  · rw [if_pos henabled]
    have hkinds : Rewrites (v.WritesBack w.disk .reseal) w (v.resealKinds Kind.all) := by
      apply (rewrites_resealKinds nodup_allKinds).mono
      rintro place content
        ⟨kind, -, id, r, plaintext, payload, now, hget, hplain, hprotects, hplace, hcontent⟩
      exact ⟨kind, id, r, .plain henabled hget hplain, Or.inr hplace,
        Or.inr ⟨payload, now, hprotects, hcontent⟩⟩
    refine Touches.bind hkinds.touches ?_
    intro summary t _
    by_cases hcounts : 0 < summary.resealed ∨ 0 < summary.failed
    · rw [if_pos hcounts]
      exact ((spares_note _ _).bind fun _ => spares_pure _).touches
    · rw [if_neg hcounts]
      exact (spares_pure summary).touches
  · rw [if_neg henabled]
    exact (spares_pure _).touches

/-! ## Every request that rewrites -/

/-- What a request rewrites or removes outside the audit directory is the file from which it loaded
a record that it selected, or the file that the id of such a record names. -/
theorem touches_of_rewrites (hrewrites : request.rewrites = true) :
    v.Touches (v.WritesBack w.disk request) w (v.perform request) := by
  cases request with
  | updateClaims caller id claims => exact (touches_updateClaims caller id claims).map _
  | deleteClaims caller id => exact (touches_deleteClaims caller id).map _
  | deleteDocument caller id => exact (touches_deleteDocument caller id).map _
  | reseal => exact touches_reseal.map _
  | _ => cases hrewrites

/-- Where each record that a request selects was loaded from the file that its id names, the request
rewrites or removes no file outside the audit directory but those from which it loaded the records
that it selected. -/
theorem rewrites_files_of_selected (v : Vault) (w : World) (request : Request)
    (hrewrites : request.rewrites = true)
    (hnamed : ∀ (kind : Kind) (id : String) (r : Record kind),
      v.Selects w.disk request kind id r → r.id = id)
    (place : Place) (houtside : ∀ rest, place ≠ auditPlace v.storage.layout.base rest)
    (hchanged : (v.perform request w).2.disk.fileAt? place ≠ w.disk.fileAt? place) :
    ∃ (kind : Kind) (id : String) (r : Record kind), v.Selects w.disk request kind id r ∧
      place = recordPlace v.storage.layout.base kind id ∧
      ((v.perform request w).2.disk.fileAt? place = none ∨ ∃ payload now,
        v.Protects r.owner payload ∧
        (v.perform request w).2.disk.fileAt? place =
          some (r.setPayload payload now).toBytes) := by
  obtain ⟨kind, id, r, hselects, hplace, hcontent⟩ :=
    touches_of_rewrites hrewrites place houtside hchanged
  rw [hnamed kind id r hselects, or_self_iff] at hplace
  exact ⟨kind, id, r, hselects, hplace, hcontent⟩

/-- The sample session after claims were stored. -/
def claimsSession : Session :=
  (Session.sample .disabled).run [.request (.storeClaims ⟨"alice", .user⟩ "one")]

theorem exists_consistent_claimsSession :
    ∃ base, Consistent claimsSession.vault.storage base claimsSession.world.disk := by
  obtain ⟨base, hsound, -⟩ := (Session.sample_begins .disabled).exists_sound
  exact ⟨base, (hsound.run [.request (.storeClaims ⟨"alice", .user⟩ "one")]).kept.consistent⟩

theorem fileAt?_after_deleteClaims :
    (claimsSession.vault.perform (.deleteClaims ⟨"alice", .user⟩ "record-0")
        claimsSession.world).2.disk.fileAt?
          (recordPlace claimsSession.vault.storage.layout.base .claims "record-0") ≠
      claimsSession.world.disk.fileAt?
        (recordPlace claimsSession.vault.storage.layout.base .claims "record-0") := by
  decide +kernel

/-- Claims that are deleted were loaded from the file that is taken away. -/
theorem rewrites_files_of_selected_claims :
    ∃ (kind : Kind) (id : String) (r : Record kind),
      claimsSession.vault.Selects claimsSession.world.disk
        (.deleteClaims ⟨"alice", .user⟩ "record-0") kind id r ∧
      recordPlace claimsSession.vault.storage.layout.base .claims "record-0" =
        recordPlace claimsSession.vault.storage.layout.base kind id := by
  obtain ⟨base, hd⟩ := exists_consistent_claimsSession
  obtain ⟨kind, id, r, hselects, hplace, -⟩ :=
    rewrites_files_of_selected claimsSession.vault claimsSession.world
      (.deleteClaims ⟨"alice", .user⟩ "record-0") rfl
      (fun kind id r h => hd.named (Storage.shelf_eq_some_iff_getRecord.mpr h.getRecord)) _
      (Layout.recordPlace_ne_auditPlace .claims "record-0") fileAt?_after_deleteClaims
  exact ⟨kind, id, r, hselects, hplace⟩

/-- The same world after the file of the claims was copied. -/
def copiedWorld : World :=
  { claimsSession.world with
    disk := (claimsSession.vault.storage.write
      (claimsSession.vault.storage.layout.record .claims "copy")
      ((claimsSession.world.disk.fileAt?
        (recordPlace claimsSession.vault.storage.layout.base .claims "record-0")).getD [])
      claimsSession.world.disk).2 }

/-- When the copy is asked for, the file that it was copied from is written over instead. -/
theorem original_rewritten_for_copy :
    (claimsSession.vault.perform (.updateClaims ⟨"alice", .user⟩ "copy" "two")
          copiedWorld).2.disk.fileAt?
        (recordPlace claimsSession.vault.storage.layout.base .claims "record-0") ≠
      copiedWorld.disk.fileAt?
        (recordPlace claimsSession.vault.storage.layout.base .claims "record-0") ∧
      ∀ (kind : Kind) (id : String) (r : Record kind),
        claimsSession.vault.Selects copiedWorld.disk
          (.updateClaims ⟨"alice", .user⟩ "copy" "two") kind id r →
        recordPlace claimsSession.vault.storage.layout.base .claims "record-0" ≠
          recordPlace claimsSession.vault.storage.layout.base kind id := by
  constructor
  · decide +kernel
  · intro kind id r hselects hsame
    cases hselects
    exact absurd (recordPlace_injective hsame).2 (by decide)

end Vault

end SealedVault
