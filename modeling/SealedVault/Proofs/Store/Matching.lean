import SealedVault.Proofs.Disk.Shape
import SealedVault.Proofs.Store.AuditDirectory
import SealedVault.Proofs.Store.Listing

/-!
# Data directories with matching records

Two data directories match if they differ in nothing but the records in them, and these correspond
to each other: under each kind and id both have a record or neither has, and the two records are in
some relation. Searches and listings then find records that are related, and related records can be
stored, replaced and deleted in both.
-/

namespace SealedVault

open Disk (KeepsDirectories SameShape)
open Layout (ExtendsAudit auditPlace auditView recordPlace recordPlace_injective
  recordPlace_ne_auditPlace)

namespace Storage

variable {s : Storage} {base : Place} {Q : (kind : Kind) → Record kind → Record kind → Prop}
  {d d' m m' : Disk} {kind : Kind} {id : String}

/-- The disks differ in nothing but records that are found, and these are related. -/
structure MatchAt (s : Storage) (base : Place)
    (Q : (kind : Kind) → Record kind → Record kind → Prop) (d d' : Disk) : Prop where
  ready : s.ReadyAt base d
  ready' : s.ReadyAt base d'
  get?_cases (place : Place) :
    (d.get? place = d'.get? place ∧
      ∀ kind id, place = recordPlace base kind id → s.shelf d kind id = none) ∨
    ∃ (kind : Kind) (id : String) (r r' : Record kind), place = recordPlace base kind id ∧
      s.shelf d kind id = some r ∧ s.shelf d' kind id = some r' ∧ Q kind r r'

namespace MatchAt

/-- A data directory without records matches itself. -/
theorem of_no_records (h : s.ReadyAt base d) (hnone : ∀ kind id, s.shelf d kind id = none) :
    s.MatchAt base Q d d :=
  ⟨h, h, fun _ => Or.inl ⟨rfl, fun kind id _ => hnone kind id⟩⟩

theorem sameShape (h : s.MatchAt base Q d d') : SameShape d d' := by
  intro place
  rcases h.get?_cases place with ⟨heq, -⟩ | ⟨kind, id, r, r', rfl, hr, hr', -⟩
  · exact Or.inl heq
  · obtain ⟨-, -, bytes, hfile, -⟩ := (shelf_eq_some_iff h.ready).mp hr
    obtain ⟨-, -, bytes', hfile', -⟩ := (shelf_eq_some_iff h.ready').mp hr'
    exact Or.inr ⟨bytes, bytes', hfile, hfile'⟩

theorem auditView_eq (h : s.MatchAt base Q d d') : auditView base d = auditView base d' := by
  funext rest
  rcases h.get?_cases (auditPlace base rest) with ⟨heq, -⟩ | ⟨kind, id, r, r', hplace, -⟩
  · exact heq
  · exact absurd hplace.symm (recordPlace_ne_auditPlace kind id rest)

/-! ## Searches and listings -/

theorem relatedResults_getRecord (h : s.MatchAt base Q d d') (kind : Kind) (id : String) :
    RelatedResults (Q kind) (s.getRecord kind id d) (s.getRecord kind id d') := by
  rcases h.get?_cases (recordPlace base kind id) with
    ⟨heq, hnone⟩ | ⟨kind', id', r, r', hplace, hr, hr', hrelated⟩
  · rw [getRecord_congr h.ready h.ready' heq.symm]
    cases hget : s.getRecord kind id d with
    | error e => exact .error e
    | ok r =>
      have hfound := shelf_eq_some_iff_getRecord.mpr hget
      rw [hnone kind id rfl] at hfound
      cases hfound
  · obtain ⟨rfl, rfl⟩ := recordPlace_injective hplace
    rw [shelf_eq_some_iff_getRecord] at hr hr'
    rw [hr, hr']
    exact .ok hrelated

theorem shelf_cases (h : s.MatchAt base Q d d') (kind : Kind) (id : String) :
    (s.shelf d kind id = none ∧ s.shelf d' kind id = none) ∨
      ∃ r r', s.shelf d kind id = some r ∧ s.shelf d' kind id = some r' ∧ Q kind r r' := by
  have hget := h.relatedResults_getRecord kind id
  rw [shelf, shelf]
  generalize s.getRecord kind id d = x at hget
  generalize s.getRecord kind id d' = y at hget
  cases hget with
  | error e => exact Or.inl ⟨rfl, rfl⟩
  | ok related => exact Or.inr ⟨_, _, rfl, rfl, related⟩

/-- Listings hold related records in the same order, if a record is kept in one of them if and only
if the related one is kept in the other. -/
theorem relatedResults_listRecords (h : s.MatchAt base Q d d') {keep keep' : Record kind → Bool}
    (hkeep : ∀ r r', Q kind r r' → keep' r' = keep r) :
    RelatedResults (List.Forall₂ (Q kind)) (s.listRecords kind keep d)
      (s.listRecords kind keep' d') := by
  have hstems := listStems_eq h.ready kind
  have hstems' := listStems_eq h.ready' kind
  rw [Disk.mergeSort_eq_of_perm (Disk.perm_unsortedStems h.sameShape)] at hstems
  rw [listRecords_eq hstems keep, listRecords_eq hstems' keep']
  apply RelatedResults.ok
  generalize List.mergeSort _ _ = ids
  induction ids with
  | nil => exact .nil
  | cons id rest ih =>
    rcases h.shelf_cases kind id with ⟨hnone, hnone'⟩ | ⟨r, r', hr, hr', hrelated⟩
    · rw [List.filterMap_cons_none hnone, List.filterMap_cons_none hnone']
      exact ih
    · rw [List.filterMap_cons_some hr, List.filterMap_cons_some hr', List.filter_cons,
        List.filter_cons, hkeep r r' hrelated]
      split
      · exact .cons hrelated ih
      · exact ih

theorem presentPath_eq (h : s.MatchAt base Q d d') (kind : Kind) (id : String) :
    s.presentPath kind id d' = s.presentPath kind id d := by
  rw [presentPath, presentPath]
  cases s.recordPath kind id with
  | error e => rfl
  | ok p => rw [ok_bind, ok_bind, Disk.isFile_of_sameShape h.sameShape p]

theorem absentPath_eq (h : s.MatchAt base Q d d') (kind : Kind) (id : String) :
    s.absentPath kind id d' = s.absentPath kind id d := by
  rw [absentPath, absentPath]
  cases s.recordPath kind id with
  | error e => rfl
  | ok p => rw [ok_bind, ok_bind, Disk.isFile_of_sameShape h.sameShape p]

/-! ## Changes -/

theorem of_extendsAudit {view : List String → Option Entry} (h : s.MatchAt base Q d d')
    (hm : ExtendsAudit base view d m) (hm' : ExtendsAudit base view d' m') :
    s.MatchAt base Q m m' := by
  have hready := h.ready.of_keepsDirectories hm.keeps
  have hready' := h.ready'.of_keepsDirectories hm'.keeps
  have hshelf (kind : Kind) (id : String) : s.shelf m kind id = s.shelf d kind id :=
    shelf_congr h.ready hready (hm.toAuditOnly.get?_recordPlace kind id)
  have hshelf' (kind : Kind) (id : String) : s.shelf m' kind id = s.shelf d' kind id :=
    shelf_congr h.ready' hready' (hm'.toAuditOnly.get?_recordPlace kind id)
  refine ⟨hready, hready', fun place => ?_⟩
  by_cases haudit : ∃ rest, place = auditPlace base rest
  · obtain ⟨rest, rfl⟩ := haudit
    refine Or.inl ⟨(hm.view rest).trans (hm'.view rest).symm, fun kind id heq => ?_⟩
    exact absurd heq.symm (recordPlace_ne_auditPlace kind id rest)
  · have houtside (rest : List String) : place ≠ auditPlace base rest :=
      fun heq => haudit ⟨rest, heq⟩
    rcases h.get?_cases place with ⟨heq, hnone⟩ | ⟨kind, id, r, r', hplace, hr, hr', hrelated⟩
    · left
      rw [hm.frame place houtside, hm'.frame place houtside]
      exact ⟨heq, fun kind id hplace => by rw [hshelf, hnone kind id hplace]⟩
    · exact Or.inr ⟨kind, id, r, r', hplace, by rw [hshelf, hr], by rw [hshelf', hr'], hrelated⟩

/-- Both change at the place of one record only, and there they match afterwards. -/
theorem of_change (h : s.MatchAt base Q d d') (hkeeps : KeepsDirectories d m)
    (hkeeps' : KeepsDirectories d' m')
    (hother : ∀ place, place ≠ recordPlace base kind id → m.get? place = d.get? place)
    (hother' : ∀ place, place ≠ recordPlace base kind id → m'.get? place = d'.get? place)
    (hself : (m.get? (recordPlace base kind id) = m'.get? (recordPlace base kind id) ∧
        s.shelf m kind id = none) ∨
      ∃ r r', s.shelf m kind id = some r ∧ s.shelf m' kind id = some r' ∧ Q kind r r') :
    s.MatchAt base Q m m' := by
  have hready := h.ready.of_keepsDirectories hkeeps
  have hready' := h.ready'.of_keepsDirectories hkeeps'
  refine ⟨hready, hready', fun place => ?_⟩
  by_cases hplace : place = recordPlace base kind id
  · rcases hself with ⟨heq, hnone⟩ | ⟨r, r', hr, hr', hrelated⟩
    · rw [hplace]
      refine Or.inl ⟨heq, fun kind' id' hsame => ?_⟩
      obtain ⟨rfl, rfl⟩ := recordPlace_injective hsame
      exact hnone
    · exact Or.inr ⟨kind, id, r, r', hplace, hr, hr', hrelated⟩
  rcases h.get?_cases place with ⟨heq, hnone⟩ | ⟨kind', id', r, r', rfl, hr, hr', hrelated⟩
  · left
    rw [hother place hplace, hother' place hplace]
    refine ⟨heq, fun kind' id' hat => ?_⟩
    rw [shelf_congr h.ready hready (by rw [← hat, hother place hplace]), hnone kind' id' hat]
  · refine Or.inr ⟨kind', id', r, r', rfl, ?_, ?_, hrelated⟩
    · rw [shelf_congr h.ready hready (hother _ hplace), hr]
    · rw [shelf_congr h.ready' hready' (hother' _ hplace), hr']

/-- Related records are put on the shelf on both sides. -/
theorem of_puts {r r' : Record kind} (h : s.MatchAt base Q d d') (hvalid : isValidId r.id = true)
    (hfits : s.layout.Fits kind r.id) (hid : r'.id = r.id) (hrelated : Q kind r r')
    (hm : PutsRecord base r d m) (hm' : PutsRecord base r' d' m') : s.MatchAt base Q m m' := by
  have hself := hm.shelf_self h.ready hvalid hfits
  have hself' : s.shelf m' kind r.id = some r' := by
    rw [← hid] at hvalid hfits ⊢
    exact hm'.shelf_self h.ready' hvalid hfits
  refine h.of_change hm.keepsDirectories hm'.keepsDirectories (fun place hplace => ?_)
    (fun place hplace => ?_) (Or.inr ⟨r, r', hself, hself', hrelated⟩)
  · rw [hm.get?_eq, if_neg hplace]
  · rw [hm'.get?_eq, hid, if_neg hplace]

theorem of_removes (h : s.MatchAt base Q d d') (hm : RemovesRecord base kind id d m)
    (hm' : RemovesRecord base kind id d' m') : s.MatchAt base Q m m' := by
  refine h.of_change hm.keepsDirectories hm'.keepsDirectories (fun place hplace => ?_)
    (fun place hplace => ?_) (Or.inl ⟨?_, hm.shelf_self h.ready⟩)
  · rw [hm.get?_eq, if_neg hplace]
  · rw [hm'.get?_eq, if_neg hplace]
  · rw [hm.get?_eq, hm'.get?_eq, if_pos rfl, if_pos rfl]

end MatchAt

/-! ## Changes that can be made in both -/

/-- Related records can be written to the file of the one or the other. -/
theorem pairedRun_replace_record {r r' : Record kind} (h : s.MatchAt base Q d d')
    (hvalid : isValidId r.id = true) (hid : r'.id = r.id) (hrelated : Q kind r r') :
    PairedRun (s.MatchAt base Q) Eq (s.replace (s.layout.record kind r.id) r.toBytes)
      (s.replace (s.layout.record kind r.id) r'.toBytes) d d' := by
  have hreplace := replace_record h.ready kind hvalid r.toBytes
  have hreplace' := replace_record h.ready' kind hvalid r'.toBytes
  rcases (Disk.replaceFile_of_sameShape h.sameShape (s.layout.record kind r.id) r.toBytes
      r'.toBytes).cases with ⟨fault, hfault, hfault'⟩ | ⟨m, m', hm, hm'⟩
  · rw [hfault] at hreplace
    rw [hfault'] at hreplace'
    exact pairedRun_of_eq hreplace hreplace' (.error _) h
  · rw [hm] at hreplace
    rw [hm'] at hreplace'
    obtain ⟨-, hfits, hput⟩ := (Layout.replaceFile_record_eq_ok_iff h.ready.stands hvalid _).mp hm
    obtain ⟨-, -, hput'⟩ := (Layout.replaceFile_record_eq_ok_iff h.ready'.stands hvalid _).mp hm'
    rw [← hid] at hput'
    exact pairedRun_of_eq hreplace hreplace' (.ok rfl)
      (h.of_puts hvalid hfits hid hrelated (putsRecord_of_put? hput) (putsRecord_of_put? hput'))

theorem pairedRun_ask {α : Type} {f : Disk → Except StorageError α} (h : s.MatchAt base Q d d')
    (hf : f d' = f d) :
    PairedRun (s.MatchAt base Q) Eq (DiskAction.ask f) (DiskAction.ask f) d d' := by
  refine ⟨?_, h⟩
  rw [DiskAction.ask, DiskAction.ask, hf]
  exact relatedResults_self _

theorem pairedRun_createRecord {r r' : Record kind} (h : s.MatchAt base Q d d')
    (hid : r'.id = r.id) (hrelated : Q kind r r') :
    PairedRun (s.MatchAt base Q) Eq (s.createRecord r) (s.createRecord r') d d' := by
  rw [createRecord, createRecord, hid]
  apply (pairedRun_ask h (h.absentPath_eq kind r.id)).bind
  rintro p _ t t' hask - rfl hmatch
  obtain ⟨hvalid, rfl⟩ := eq_record_of_absentPath (congrArg Prod.fst hask)
  exact pairedRun_replace_record hmatch hvalid hid hrelated

theorem pairedRun_updateRecord {r r' : Record kind} (h : s.MatchAt base Q d d')
    (hid : r'.id = r.id) (hrelated : Q kind r r') :
    PairedRun (s.MatchAt base Q) Eq (s.updateRecord r) (s.updateRecord r') d d' := by
  rw [updateRecord, updateRecord, hid]
  apply (pairedRun_ask h (h.presentPath_eq kind r.id)).bind
  rintro p _ t t' hask - rfl hmatch
  obtain ⟨hvalid, rfl⟩ := eq_record_of_presentPath (congrArg Prod.fst hask)
  exact pairedRun_replace_record hmatch hvalid hid hrelated

theorem pairedRun_deleteRecord (h : s.MatchAt base Q d d') (kind : Kind) (id : String) :
    PairedRun (s.MatchAt base Q) Eq (s.deleteRecord kind id) (s.deleteRecord kind id) d d' := by
  rw [deleteRecord]
  apply (pairedRun_ask h (h.presentPath_eq kind id)).bind
  rintro p _ t t' hask - rfl hmatch
  obtain ⟨hvalid, rfl⟩ := eq_record_of_presentPath (congrArg Prod.fst hask)
  have hdelete := delete_record hmatch.ready kind id
  have hdelete' := delete_record hmatch.ready' kind id
  rcases (Disk.removeFile_of_sameShape hmatch.sameShape (s.layout.record kind id)).cases with
    ⟨fault, hfault, hfault'⟩ | ⟨m, m', hm, hm'⟩
  · rw [hfault] at hdelete
    rw [hfault'] at hdelete'
    exact pairedRun_of_eq hdelete hdelete' (.error _) hmatch
  · rw [hm] at hdelete
    rw [hm'] at hdelete'
    obtain ⟨-, hremove⟩ := (Layout.removeFile_record_eq_ok_iff hmatch.ready.stands hvalid).mp hm
    obtain ⟨-, hremove'⟩ := (Layout.removeFile_record_eq_ok_iff hmatch.ready'.stands hvalid).mp hm'
    exact pairedRun_of_eq hdelete hdelete' (.ok rfl)
      (hmatch.of_removes (removesRecord_of_removeFile? hremove)
        (removesRecord_of_removeFile? hremove'))

end Storage

end SealedVault
