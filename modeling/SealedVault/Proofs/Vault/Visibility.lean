import SealedVault.Proofs.Store.Agreement
import SealedVault.Proofs.Store.Matching
import SealedVault.Proofs.Vault.Effects

/-!
# What a user sees of a data directory

Two data directories look alike to a user if they differ in nothing but the texts of records that
are not shown to the user: the records of others, and what hangs on the documents of others. Every
search and every listing for the user has the same result in both, and every change of a record can
be made in both and leaves them alike.
-/

namespace SealedVault

open Disk (KeepsDirectories)
open Layout (ExtendsAudit auditView recordPlace)
open Storage (PutsRecord ReadyAt)

namespace Record

variable {kind : Kind} {r r' : Record kind}

/-- The records are the same but for the text of the payload. -/
structure SameButText (r r' : Record kind) : Prop where
  protection_eq : r'.payload.protection = r.payload.protection
  eq_with : r' = { r with payload := r'.payload }

theorem SameButText.refl (r : Record kind) : r.SameButText r := ⟨rfl, rfl⟩

theorem SameButText.id_eq (h : r.SameButText r') : r'.id = r.id := by rw [h.eq_with]

theorem SameButText.owner_eq (h : r.SameButText r') : r'.owner = r.owner := by rw [h.eq_with]

theorem SameButText.fields_eq (h : r.SameButText r') : r'.fields = r.fields := by rw [h.eq_with]

theorem SameButText.parent?_eq (h : r.SameButText r') : r'.parent? = r.parent? := by
  rw [parent?, parent?, h.fields_eq]

/-- The records are the same but for the text of the payload, and that is the same too if they are
the user's. -/
def AlikeTo (user : String) (kind : Kind) (r r' : Record kind) : Prop :=
  r.SameButText r' ∧ (r.owner = user → r' = r)

end Record

namespace Storage

variable {s : Storage} {base : Place} {user : String} {d d' m m' : Disk} {kind : Kind} {id : String}
  {α : Type}

/-- A record is shown to its owner; what hangs on a document is shown to the owner of the
document. -/
def Shows (s : Storage) (d : Disk) (user : String) (r : Record kind) : Prop :=
  match r.parent? with
  | none => r.owner = user
  | some documentId =>
    ∃ document, s.getRecord .document documentId d = .ok document ∧ document.owner = user

/-- The disks differ in nothing but the texts of records that are not shown to the user. -/
def LooksAlike (s : Storage) (user : String) (d d' : Disk) : Prop :=
  ∀ place, d.get? place = d'.get? place ∨
    ∃ (kind : Kind) (id : String) (r r' : Record kind),
      d.locate (s.layout.record kind id) = .ok place ∧
      s.getRecord kind id d = .ok r ∧ s.getRecord kind id d' = .ok r' ∧
      r.SameButText r' ∧ (s.Shows d user r → r' = r)

/-- The same of two data directories at one place, when what hangs on a document belongs to the
owner of the document. -/
structure AlikeAt (s : Storage) (base : Place) (user : String) (d d' : Disk) : Prop where
  ready : s.ReadyAt base d
  ready' : s.ReadyAt base d'
  get?_cases (place : Place) : d.get? place = d'.get? place ∨
    ∃ (kind : Kind) (id : String) (r r' : Record kind), place = recordPlace base kind id ∧
      s.shelf d kind id = some r ∧ s.shelf d' kind id = some r' ∧
      r.SameButText r' ∧ (r.owner = user → r' = r)

/-- In a consistent data directory a record is shown to its owner and to nobody else. -/
theorem shows_iff (hd : Consistent s base d) {r : Record kind}
    (hr : s.shelf d kind id = some r) : s.Shows d user r ↔ r.owner = user := by
  rw [Shows]
  cases hparent : r.parent? with
  | none => exact Iff.rfl
  | some documentId =>
    obtain ⟨document, hdocument, howner⟩ := hd.hangs hr hparent
    rw [← howner]
    constructor
    · rintro ⟨document', hdocument', howner'⟩
      rw [shelf_eq_some_iff_getRecord.mp hdocument] at hdocument'
      cases hdocument'
      exact howner'
    · intro howner'
      exact ⟨document, shelf_eq_some_iff_getRecord.mp hdocument, howner'⟩

theorem locate_of_shelf (h : s.ReadyAt base d) {r : Record kind}
    (hr : s.shelf d kind id = some r) :
    d.locate (s.layout.record kind id) = .ok (recordPlace base kind id) := by
  obtain ⟨hid, hfits, -⟩ := (shelf_eq_some_iff h).mp hr
  exact Layout.locate_record h.stands hid hfits

theorem keepsDirectories_of_looksAlike (hready : s.ReadyAt base d)
    (h : s.LooksAlike user d d') : KeepsDirectories d d' := by
  intro place hdirectory
  rcases h place with heq | ⟨kind, id, r, r', hplace, hr, -⟩
  · rw [← heq]
    exact hdirectory
  · rw [← shelf_eq_some_iff_getRecord] at hr
    rw [locate_of_shelf hready hr] at hplace
    cases hplace
    obtain ⟨-, -, bytes, hfile, -⟩ := (shelf_eq_some_iff hready).mp hr
    rw [hfile] at hdirectory
    cases hdirectory

theorem alikeAt_of_looksAlike (hd : Consistent s base d) (h : s.LooksAlike user d d') :
    s.AlikeAt base user d d' := by
  have hkeeps := keepsDirectories_of_looksAlike hd.ready h
  refine ⟨hd.ready, hd.ready.of_keepsDirectories hkeeps, fun place => ?_⟩
  rcases h place with heq | ⟨kind, id, r, r', hplace, hr, hr', hsame, hshown⟩
  · exact Or.inl heq
  · rw [← shelf_eq_some_iff_getRecord] at hr hr'
    rw [locate_of_shelf hd.ready hr] at hplace
    cases hplace
    refine Or.inr ⟨kind, id, r, r', rfl, hr, hr', hsame, fun howner => ?_⟩
    exact hshown ((shows_iff hd hr).mpr howner)

theorem AlikeAt.looksAlike (hd : Consistent s base d) (h : s.AlikeAt base user d d') :
    s.LooksAlike user d d' := by
  intro place
  rcases h.get?_cases place with heq | ⟨kind, id, r, r', rfl, hr, hr', hsame, hshown⟩
  · exact Or.inl heq
  · refine Or.inr ⟨kind, id, r, r', locate_of_shelf hd.ready hr,
      shelf_eq_some_iff_getRecord.mp hr, shelf_eq_some_iff_getRecord.mp hr', hsame, ?_⟩
    intro hshows
    exact hshown ((shows_iff hd hr).mp hshows)

/-! ## Records that match -/

namespace AlikeAt

theorem refl (h : s.ReadyAt base d) (user : String) : s.AlikeAt base user d d :=
  ⟨h, h, fun _ => Or.inl rfl⟩

theorem matchAt (h : s.AlikeAt base user d d') : s.MatchAt base (Record.AlikeTo user) d d' := by
  refine ⟨h.ready, h.ready', fun place => ?_⟩
  rcases h.get?_cases place with heq | hrecords
  · by_cases hfound : ∃ (kind : Kind) (id : String) (r : Record kind),
        place = recordPlace base kind id ∧ s.shelf d kind id = some r
    · obtain ⟨kind, id, r, rfl, hr⟩ := hfound
      have hr' : s.shelf d' kind id = some r := by
        rw [shelf_congr h.ready h.ready' heq.symm, hr]
      exact Or.inr ⟨kind, id, r, r, rfl, hr, hr', .refl r, fun _ => rfl⟩
    · refine Or.inl ⟨heq, fun kind id hplace => ?_⟩
      rw [Option.eq_none_iff_forall_ne_some]
      exact fun r hr => hfound ⟨kind, id, r, hplace, hr⟩
  · exact Or.inr hrecords

theorem of_matchAt (h : s.MatchAt base (Record.AlikeTo user) d d') : s.AlikeAt base user d d' :=
  ⟨h.ready, h.ready', fun place => (h.get?_cases place).imp And.left id⟩

/-! ## Searches and listings -/

theorem auditView_eq (h : s.AlikeAt base user d d') : auditView base d = auditView base d' :=
  h.matchAt.auditView_eq

/-- A search for a record fails in the same way, or finds records that differ in the text of the
payload at most, and only if they are the record of another user. -/
theorem getRecord_cases (h : s.AlikeAt base user d d') (kind : Kind) (id : String) :
    (∃ e, s.getRecord kind id d = .error e ∧ s.getRecord kind id d' = .error e) ∨
      ∃ r r', s.getRecord kind id d = .ok r ∧ s.getRecord kind id d' = .ok r' ∧
        r.SameButText r' ∧ (r.owner = user → r' = r) := by
  have hget := h.matchAt.relatedResults_getRecord kind id
  generalize s.getRecord kind id d = x at hget
  generalize s.getRecord kind id d' = y at hget
  cases hget with
  | error e => exact Or.inl ⟨e, rfl, rfl⟩
  | ok related => exact Or.inr ⟨_, _, rfl, rfl, related⟩

/-- A listing under a condition that only records of the user satisfy is the same. -/
theorem listRecords_eq (h : s.AlikeAt base user d d') {keep : Record kind → Bool}
    (hkeep : ∀ r r', r.SameButText r' → keep r' = keep r)
    (howner : ∀ id r, s.shelf d kind id = some r → keep r = true → r.owner = user) :
    s.listRecords kind keep d' = s.listRecords kind keep d := by
  have hlists := h.matchAt.relatedResults_listRecords fun r r' hr => hkeep r r' hr.1
  obtain ⟨rs, hrs, hmem, -⟩ := exists_listRecords h.ready kind keep
  have hown (r : Record kind) (hr : r ∈ rs) : r.owner = user := by
    obtain ⟨hkept, id, hshelf⟩ := (hmem r).mp hr
    exact howner id r hshelf hkept
  rw [hrs] at hlists ⊢
  clear hrs hmem
  generalize s.listRecords kind keep d' = listing at hlists
  cases hlists with
  | ok hrecords =>
    congr 1
    induction hrecords with
    | nil => rfl
    | @cons r r' rest rest' hr _ ih =>
      rw [hr.2 (hown r List.mem_cons_self), ih fun r hr => hown r (List.mem_cons_of_mem _ hr)]

/-! ## Changes -/

theorem of_extendsAudit {view : List String → Option Entry}
    (h : s.AlikeAt base user d d') (hm : ExtendsAudit base view d m)
    (hm' : ExtendsAudit base view d' m') : s.AlikeAt base user m m' :=
  of_matchAt (h.matchAt.of_extendsAudit hm hm')

/-- Records that are put on the shelf on both sides may differ in a text that is not shown to the
user. -/
theorem of_puts {r r' : Record kind} (h : s.AlikeAt base user d d') (hid : isValidId r.id = true)
    (hfits : s.layout.Fits kind r.id) (hsame : r.SameButText r')
    (hshown : r.owner = user → r' = r) (hm : PutsRecord base r d m)
    (hm' : PutsRecord base r' d' m') : s.AlikeAt base user m m' :=
  of_matchAt (h.matchAt.of_puts hid hfits hsame.id_eq ⟨hsame, hshown⟩ hm hm')

end AlikeAt

/-! ## Changes that can be made in both -/

theorem coupled_of_pairedRun {a : DiskAction α}
    (h : ∀ d d', s.MatchAt base (Record.AlikeTo user) d d' →
      PairedRun (s.MatchAt base (Record.AlikeTo user)) Eq a a d d') :
    Coupled (s.AlikeAt base user) a :=
  fun d d' halike => (h d d' halike.matchAt).sameRun fun _ _ => .of_matchAt

/-- The same can be done to a record in both, with the same result. The audit logs look the same
before an event is noted, and the same is written to them. -/
theorem keepsRelated_alikeAt (s : Storage) (base : Place) (user : String) :
    s.KeepsRelated (s.AlikeAt base user) where
  create r := coupled_of_pairedRun fun _ _ h =>
    pairedRun_createRecord h rfl ⟨.refl r, fun _ => rfl⟩
  update r := coupled_of_pairedRun fun _ _ h =>
    pairedRun_updateRecord h rfl ⟨.refl r, fun _ => rfl⟩
  delete kind id := coupled_of_pairedRun fun _ _ h => pairedRun_deleteRecord h kind id
  log e d d' h := by
    have hnoted := Audit.extendsAudit_log h.ready e
    have hnoted' := Audit.extendsAudit_log h.ready' e
    rw [← h.auditView_eq] at hnoted'
    exact h.of_extendsAudit hnoted hnoted'

end Storage

end SealedVault
