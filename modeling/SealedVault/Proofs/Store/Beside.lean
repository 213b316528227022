import SealedVault.Proofs.Store.AuditLogs

/-!
# Records beside the audit logs

Storing, replacing and deleting records leaves the audit directory as it is, whatever else is in
the data directory. Whether there is a file for a record does not depend on the audit directory in
turn, and deleting a record takes away that file and no other.
-/

namespace SealedVault

open Disk (KeepsDirectories checkPath)
open Layout (AuditAt AuditOnly auditPlace auditView recordPlace recordPlace_injective
  recordPlace_ne_auditPlace)

variable {s : Storage} {base : Place} {d d' d'' : Disk} {kind : Kind} {id : String}
  {days : Calendar.Date → Prop}

/-! ## Changes of records -/

namespace Layout

variable {l : Layout}

/-- At most the directory of the kind is made for a record. -/
theorem makeParent_record_cases (h : l.AuditAt base d) (hid : isValidId id = true) :
    (Disk.makeParent (l.record kind id) d).2 = d ∨
      d.put? base kind.directory .directory = some (Disk.makeParent (l.record kind id) d).2 := by
  rw [makeParent_record_of_root h.root hid]
  cases checkPath (l.kindDirectory kind) with
  | error fault => exact Or.inl rfl
  | ok =>
    simp only
    cases d.get? (base ++ [kind.directory]) with
    | some e => cases e <;> exact Or.inl rfl
    | none =>
      simp only
      cases hput : d.put? base kind.directory .directory with
      | none => exact Or.inl rfl
      | some m => exact Or.inr rfl

theorem auditView_makeParent_record (h : l.AuditAt base d) (hid : isValidId id = true) :
    auditView base (Disk.makeParent (l.record kind id) d).2 = auditView base d := by
  rcases makeParent_record_cases h hid with hsame | hput
  · rw [hsame]
  · funext rest
    rw [auditView, Disk.get?_of_put? hput, if_neg]
    · rfl
    · simp [auditPlace, (directory_ne_audit kind).symm]

theorem auditView_of_get?_eq {entry : Option Entry}
    (h : ∀ q, d'.get? q = if q = recordPlace base kind id then entry else d.get? q) :
    auditView base d' = auditView base d := by
  funext rest
  rw [auditView, h, if_neg fun heq => recordPlace_ne_auditPlace kind id rest heq.symm]
  rfl

/-- The directories are still there, and below the audit directory stands what stood there. -/
structure KeepsAudit (l : Layout) (d d' : Disk) : Prop where
  keeps : KeepsDirectories d d'
  view : auditView l.base d' = auditView l.base d

theorem KeepsAudit.refl (l : Layout) (d : Disk) : l.KeepsAudit d d := ⟨.refl d, rfl⟩

theorem KeepsAudit.trans (h : l.KeepsAudit d d') (h' : l.KeepsAudit d' d'') : l.KeepsAudit d d'' :=
  ⟨h.keeps.trans h'.keeps, h'.view.trans h.view⟩

end Layout

namespace Storage

theorem keepsAudit_of_puts {r : Record kind} (h : PutsRecord s.layout.base r d d') :
    s.layout.KeepsAudit d d' :=
  ⟨h.keepsDirectories, Layout.auditView_of_get?_eq h.get?_eq⟩

theorem keepsAudit_of_removes (h : RemovesRecord s.layout.base kind id d d') :
    s.layout.KeepsAudit d d' :=
  ⟨h.keepsDirectories, Layout.auditView_of_get?_eq h.get?_eq⟩

theorem keepsAudit_createRecord (h : s.layout.AuditAt s.layout.base d) (r : Record kind) :
    s.layout.KeepsAudit d (s.createRecord r d).2 := by
  rcases ask_cases (a := s.createRecord r) rfl d with ⟨e, hfails⟩ | ⟨p, hpath, hrun⟩
  · rw [hfails]
    exact .refl _ d
  obtain ⟨hid, rfl⟩ := eq_record_of_absentPath hpath
  -- the directory of the kind may have to be made, even where the record cannot be written then
  have hmade : s.layout.KeepsAudit d (Disk.makeParent (s.layout.record kind r.id) d).2 :=
    ⟨(Disk.onlyMakesDirectories_makeDirectory _ d).keeps,
      Layout.auditView_makeParent_record h hid⟩
  rw [hrun]
  rcases make_change_cases (a := s.replace (s.layout.record kind r.id) r.toBytes) rfl d with
    ⟨e, m, hfails, hm | hm⟩ | ⟨d', hreplaces, hreplace⟩
  · rw [hfails, hm]
    exact .refl _ d
  · rw [← hm] at hmade
    rw [hfails]
    exact hmade
  · rw [hreplaces]
    exact hmade.trans (keepsAudit_of_puts (putsRecord_of_replaceFile hid hreplace))

theorem keepsAudit_updateRecord (s : Storage) (r : Record kind) (d : Disk) :
    s.layout.KeepsAudit d (s.updateRecord r d).2 := by
  rcases s.updateRecord_footprint r d with ⟨e, hfails⟩ | ⟨d', hok, hputs⟩
  · rw [hfails]
    exact .refl _ d
  · rw [hok]
    exact keepsAudit_of_puts hputs

theorem keepsAudit_deleteRecord (s : Storage) (kind : Kind) (id : String) (d : Disk) :
    s.layout.KeepsAudit d (s.deleteRecord kind id d).2 := by
  rcases s.deleteRecord_footprint kind id d with ⟨e, hfails⟩ | ⟨d', hok, hremoves⟩
  · rw [hfails]
    exact .refl _ d
  · rw [hok]
    exact keepsAudit_of_removes hremoves

theorem Journals.of_keepsAudit (h : s.AuditWritable days d) (hkeeps : s.layout.KeepsAudit d d') :
    s.Journals days [] d d' :=
  .of_auditView_eq h hkeeps.keeps hkeeps.view

theorem journals_createRecord (h : s.AuditWritable days d) (r : Record kind) :
    s.Journals days [] d (s.createRecord r d).2 :=
  .of_keepsAudit h (keepsAudit_createRecord h.auditReadyAt.stands r)

theorem journals_updateRecord (h : s.AuditWritable days d) (r : Record kind) :
    s.Journals days [] d (s.updateRecord r d).2 :=
  .of_keepsAudit h (s.keepsAudit_updateRecord r d)

theorem journals_deleteRecord (h : s.AuditWritable days d) (kind : Kind) (id : String) :
    s.Journals days [] d (s.deleteRecord kind id d).2 :=
  .of_keepsAudit h (s.keepsAudit_deleteRecord kind id d)

/-! ## The files of records -/

/-- There is a file for a record if and only if its id is valid, its path fits and the file is at
its place. -/
theorem hasRecord_iff (h : s.layout.AuditAt base d) :
    s.hasRecord kind id d = true ↔
      isValidId id = true ∧ s.layout.Fits kind id ∧
        ∃ bytes, d.get? (recordPlace base kind id) = some (.file bytes) := by
  rw [hasRecord, Bool.and_eq_true, and_congr_right_iff]
  intro hid
  have hplace : (s.layout.record kind id).place = recordPlace base kind id := by
    rw [Layout.place_record hid, h.base_eq]
  have hlocate (bytes : List UInt8)
      (hfile : d.get? (recordPlace base kind id) = some (.file bytes)) :
      d.locate (s.layout.record kind id) = .ok (recordPlace base kind id) ↔
        s.layout.Fits kind id := by
    have hdirectory : d.get? (base ++ [kind.directory]) = some .directory := by
      rw [recordPlace] at hfile
      exact Disk.get?_eq_directory_of_append (Option.ne_none_iff_exists'.mpr ⟨_, hfile⟩)
    have hwalk := Layout.locate_join_kindDirectory h.root hdirectory (isName_recordFile hid)
    rw [Layout.record, hwalk, ← Layout.record, Layout.Fits]
    cases checkPath (s.layout.record kind id) with
    | error fault => simp [Except.bind]
    | ok =>
      simp only [Except.bind, true_and]
      split
      next hlong =>
        refine iff_of_false ?_ fun hshort => hshort hlong
        intro hfound
        cases hfound
      next hshort => exact iff_of_true rfl hshort
  rw [Disk.isFile_eq_true_iff]
  constructor
  · rintro ⟨bytes, hread⟩
    obtain ⟨hfound, -, hfile⟩ := Disk.readFile_eq_ok_iff.mp hread
    rw [hplace] at hfound hfile
    exact ⟨(hlocate bytes hfile).mp hfound, bytes, hfile⟩
  · rintro ⟨hfits, bytes, hfile⟩
    refine ⟨bytes, Disk.readFile_eq_ok_iff.mpr ?_⟩
    rw [hplace]
    exact ⟨(hlocate bytes hfile).mpr hfits, Layout.wantsDirectory_record hid, hfile⟩

theorem hasRecord_congr (h : s.layout.AuditAt base d) (h' : s.layout.AuditAt base d')
    (hget : d'.get? (recordPlace base kind id) = d.get? (recordPlace base kind id)) :
    s.hasRecord kind id d' = s.hasRecord kind id d := by
  rw [Bool.eq_iff_iff, hasRecord_iff h, hasRecord_iff h', hget]

theorem hasRecord_of_auditOnly (h : s.layout.AuditAt base d) (haudit : AuditOnly base d d')
    (kind : Kind) (id : String) : s.hasRecord kind id d' = s.hasRecord kind id d :=
  hasRecord_congr h (h.of_keepsDirectories haudit.keeps) (haudit.get?_recordPlace kind id)

theorem hasRecord_of_deleteRecord (h : s.deleteRecord kind id d = (.ok (), d')) :
    s.hasRecord kind id d = true := by
  rcases ask_cases (a := s.deleteRecord kind id) rfl d with ⟨e, hfails⟩ | ⟨p, hpath, -⟩
  · rw [h] at hfails
    cases hfails
  · obtain ⟨hid, rfl⟩ := eq_record_of_presentPath hpath
    rw [hasRecord, hid, isFile_of_presentPath hpath]
    rfl

/-- The files of records that are there afterwards are those that were there before, except for
those of a kind with the given ids, which were there. -/
structure Drops (s : Storage) (kind : Kind) (ids : List String) (d d' : Disk) : Prop where
  nodup : ids.Nodup
  present : ∀ id ∈ ids, s.hasRecord kind id d = true
  hasRecord_iff (kind' : Kind) (id' : String) :
    s.hasRecord kind' id' d' = true ↔
      s.hasRecord kind' id' d = true ∧ ¬(kind' = kind ∧ id' ∈ ids)

theorem Drops.nil (s : Storage) (kind : Kind) (d : Disk) : s.Drops kind [] d d :=
  ⟨.nil, nofun, fun _ _ => by simp⟩

theorem Drops.cons {ids : List String} (h : s.Drops kind [id] d d')
    (h' : s.Drops kind ids d' d'') : s.Drops kind (id :: ids) d d'' := by
  have hgone : id ∉ ids := by
    intro hmem
    have hstill := (h.hasRecord_iff kind id).mp (h'.present id hmem)
    simp at hstill
  refine ⟨List.nodup_cons.mpr ⟨hgone, h'.nodup⟩, ?_, fun kind' id' => ?_⟩
  · intro id' hid'
    rcases List.mem_cons.mp hid' with rfl | hid'
    · exact h.present id' List.mem_cons_self
    · exact ((h.hasRecord_iff kind id').mp (h'.present id' hid')).1
  · rw [h'.hasRecord_iff, h.hasRecord_iff, List.mem_singleton, List.mem_cons]
    tauto

/-- A record of a kind is among those that were dropped if it is there no more. -/
theorem Drops.mem_iff {ids : List String} (h : s.Drops kind ids d d') (id : String) :
    id ∈ ids ↔ s.hasRecord kind id d = true ∧ s.hasRecord kind id d' = false := by
  rw [← Bool.not_eq_true, h.hasRecord_iff]
  have hpresent := h.present id
  tauto

theorem Drops.hasRecord_of_ne {ids : List String} {kind' : Kind} (h : s.Drops kind ids d d')
    (hne : kind' ≠ kind) (id : String) : s.hasRecord kind' id d' = s.hasRecord kind' id d := by
  rw [Bool.eq_iff_iff, h.hasRecord_iff]
  simp [hne]

theorem drops_deleteRecord (h : s.AuditWritable days d)
    (hdelete : s.deleteRecord kind id d = (.ok (), d')) : s.Drops kind [id] d d' := by
  have hpresent := hasRecord_of_deleteRecord hdelete
  have hat := h.auditReadyAt.stands
  rcases s.deleteRecord_footprint kind id d with ⟨e, hfails⟩ | ⟨m, hok, hremoves⟩
  · rw [hdelete] at hfails
    cases hfails
  rw [hdelete] at hok
  cases hok
  refine ⟨List.nodup_singleton id, ?_, fun kind' id' => ?_⟩
  · rintro id' hid'
    rwa [List.mem_singleton.mp hid']
  · have hat' := hat.of_keepsDirectories hremoves.keepsDirectories
    rw [List.mem_singleton]
    by_cases hself : kind' = kind ∧ id' = id
    · obtain ⟨rfl, rfl⟩ := hself
      rw [hasRecord_iff hat', hremoves.get?_eq, if_pos rfl]
      simp
    · rw [hasRecord_congr hat hat']
      · simp [hself]
      · rw [hremoves.get?_eq, if_neg fun heq => hself (recordPlace_injective heq)]

end Storage

end SealedVault
