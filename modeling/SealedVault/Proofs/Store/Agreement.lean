import SealedVault.Proofs.Store.Contents

/-!
# Disks that agree on records

Two disks may have the same in the directories of the kinds and differ in all else, the audit
directory included. Then records are found and listed on both with the same results. Storing,
replacing or deleting a record succeeds on both or fails in the same way on both, and the disks
agree as before. Noting an event may succeed on one and fail on the other; it changes nothing in
which they agree.
-/

namespace SealedVault

open Disk (KeepsDirectories checkPath nameLimit)
open Layout (AuditOnly auditPlace recordPlace)
open SealedVault.Path (IsName)

variable {l : Layout} {s : Storage} {d d' m m' : Disk} {kind : Kind} {id name : String}
  {P : Place → Prop} {R : Disk → Disk → Prop} {α : Type}

/-! ## The data directory -/

namespace Layout

/-- The path of the data directory leads to its place. -/
def Rooted (l : Layout) (d : Disk) : Prop := d.descend [] l.root.names = .ok l.base

theorem Rooted.of_keepsDirectories (h : l.Rooted d) (hkeeps : KeepsDirectories d m) :
    l.Rooted m :=
  Disk.descend_of_keepsDirectories hkeeps h

theorem Rooted.get?_base (h : l.Rooted d) : d.get? l.base = some .directory :=
  Disk.get?_of_descend d.get?_nil h

theorem rooted_of_find (h : d.find l.root = .ok .directory) : l.Rooted d :=
  (Disk.find_eq_directory_iff.mp h).2

/-- A directory that is found for the records of a kind is at its place. -/
theorem rooted_of_find_kindDirectory (h : d.find (l.kindDirectory kind) = .ok .directory) :
    l.Rooted d ∧ d.get? (l.base ++ [kind.directory]) = some .directory :=
  (Disk.descend_join_iff (isName_directory kind) (size_directory kind)).mp
    (Disk.find_eq_directory_iff.mp h).2

/-- Directories that are made for an audit log are below the data directory's audit directory. -/
theorem auditOnly_makeParent {day : String} (h : l.Rooted d) (hday : IsName day) :
    AuditOnly l.base d (Disk.makeParent (l.auditLog day) d).2 := by
  refine ⟨(Disk.onlyMakesDirectories_makeDirectory _ d).keeps, fun q hq => ?_⟩
  have hparent : (l.auditLog day).parent = l.auditDay day :=
    Path.parent_join_join hday isName_logName _
  have hdot : (l.auditDay day).endsInDot = false := Path.endsInDot_join hday _
  rw [Disk.makeParent, hparent, Disk.makeDirectory, hdot, names_auditDay hday]
  cases checkPath (l.auditDay day) with
  | error fault => rfl
  | ok =>
    simp only [Bool.false_eq_true, if_false]
    rw [Disk.makeAlong_of_descend h]
    apply Disk.get?_of_makeAlong
    · simp [isName_audit.ne_dots.symm, hday.ne_dots.symm]
    · intro front hne hprefix
      obtain ⟨first, rest, rfl⟩ := List.exists_cons_of_ne_nil hne
      obtain ⟨rfl, -⟩ := List.cons_prefix_cons.mp hprefix
      exact hq rest

end Layout

/-- Extending an audit log changes nothing but the audit directory, whether or not that is there. -/
theorem Storage.auditOnly_append {day : String} (h : s.layout.Rooted d) (hday : IsName day)
    (bytes : List UInt8) :
    AuditOnly s.layout.base d (s.append (s.layout.auditLog day) bytes d).2 := by
  have hmade := Layout.auditOnly_makeParent h hday
  rcases make_change_cases (a := s.append (s.layout.auditLog day) bytes) rfl d with
    ⟨error, m, happend, hm | hm⟩ | ⟨d', happend, hchange⟩
  · rw [happend, hm]
    exact .refl _ d
  · rw [← hm] at hmade
    rw [happend]
    exact hmade
  · rw [happend]
    obtain ⟨front, name, content, hplace, hput⟩ := Disk.put?_of_appendFile hchange
    refine hmade.trans ⟨Disk.keepsDirectories_of_put? hput, fun q hq => ?_⟩
    rw [Layout.place_auditLog hday] at hplace
    rw [Disk.get?_of_put? hput, ← hplace, if_neg (hq _)]

theorem Audit.auditOnly_log (h : s.layout.Rooted d) (e : Audit.Event) :
    AuditOnly s.layout.base d (Audit.log s e d).2 :=
  Storage.auditOnly_append h e.timestamp.date.isName_text _

/-! ## Agreement -/

/-- Places that decide what becomes of records. None of them is below the audit directory. -/
structure Layout.DecidesRecords (l : Layout) (P : Place → Prop) : Prop where
  kindDirectory (kind : Kind) : P (l.base ++ [kind.directory])
  record (kind : Kind) {id : String} : isValidId id = true → P (recordPlace l.base kind id)
  not_audit (rest : List String) : ¬P (auditPlace l.base rest)

/-- The place is that of the directory of a kind, or that of the file of a record. -/
def Layout.OfRecords (l : Layout) (place : Place) : Prop :=
  (∃ kind : Kind, place = l.base ++ [kind.directory]) ∨
    ∃ (kind : Kind) (id : String), isValidId id = true ∧ place = recordPlace l.base kind id

theorem Layout.decidesRecords_ofRecords (l : Layout) : l.DecidesRecords l.OfRecords where
  kindDirectory kind := Or.inl ⟨kind, rfl⟩
  record kind {id} hid := Or.inr ⟨kind, id, hid, rfl⟩
  not_audit rest := by
    rintro (⟨kind, heq⟩ | ⟨kind, id, -, heq⟩)
    · cases kind <;> simp [auditPlace, Kind.directory] at heq
    · cases kind <;> simp [auditPlace, recordPlace, Kind.directory] at heq

/-- Both disks have the data directory, and the same is at some places of both. -/
structure Layout.AgreesOn (l : Layout) (P : Place → Prop) (d d' : Disk) : Prop where
  rooted : l.Rooted d
  rooted' : l.Rooted d'
  get?_eq (place : Place) : P place → d'.get? place = d.get? place

namespace Layout.AgreesOn

/-- Disks that agree do so after the same entry was put at the same place of both. -/
theorem put? {place : Place} {e : Entry} (h : l.AgreesOn P d d')
    (hput : d.put? place name e = some m) (hput' : d'.put? place name e = some m') :
    l.AgreesOn P m m' where
  rooted := h.rooted.of_keepsDirectories (Disk.keepsDirectories_of_put? hput)
  rooted' := h.rooted'.of_keepsDirectories (Disk.keepsDirectories_of_put? hput')
  get?_eq q hq := by rw [Disk.get?_of_put? hput, Disk.get?_of_put? hput', h.get?_eq q hq]

/-- So they do after the same file was taken away from both. -/
theorem removeFile? {place : Place} (h : l.AgreesOn P d d')
    (hremove : d.removeFile? place = some m) (hremove' : d'.removeFile? place = some m') :
    l.AgreesOn P m m' where
  rooted := h.rooted.of_keepsDirectories (Disk.keepsDirectories_of_removeFile? hremove)
  rooted' := h.rooted'.of_keepsDirectories (Disk.keepsDirectories_of_removeFile? hremove')
  get?_eq q hq := by
    rw [Disk.get?_of_removeFile? hremove, Disk.get?_of_removeFile? hremove', h.get?_eq q hq]

/-- Changes below the audit directory keep what disks agree on. -/
theorem of_auditOnly (h : l.AgreesOn P d d') (hP : l.DecidesRecords P)
    (haudit : AuditOnly l.base d m) (haudit' : AuditOnly l.base d' m') : l.AgreesOn P m m' where
  rooted := h.rooted.of_keepsDirectories haudit.keeps
  rooted' := h.rooted'.of_keepsDirectories haudit'.keeps
  get?_eq q hq := by
    have houtside : ∀ rest, q ≠ auditPlace l.base rest := by
      rintro rest rfl
      exact hP.not_audit rest hq
    rw [haudit.frame q houtside, haudit'.frame q houtside, h.get?_eq q hq]

/-! ### Paths -/

theorem locate_kindDirectory_eq (h : l.AgreesOn P d d') (kind : Kind) :
    d'.locate (l.kindDirectory kind) = d.locate (l.kindDirectory kind) := by
  rw [Disk.locate, Disk.locate, names_kindDirectory, Disk.walk_append, Disk.walk_append, h.rooted,
    h.rooted']
  simp only [Except.bind, Disk.walk, if_true]

theorem find_kindDirectory_eq (h : l.AgreesOn P d d') (hP : l.DecidesRecords P) (kind : Kind) :
    d'.find (l.kindDirectory kind) = d.find (l.kindDirectory kind) := by
  rw [Disk.find, Disk.find, h.locate_kindDirectory_eq kind]
  cases hlocate : d.locate (l.kindDirectory kind) with
  | error fault => rfl
  | ok q =>
    have hplace : q = l.base ++ [kind.directory] := by
      rw [Disk.eq_place_of_locate hlocate, kindDirectory, Path.place_join (isName_directory kind)]
      rfl
    simp only [Except.bind, hplace, h.get?_eq _ (hP.kindDirectory kind)]

theorem locate_join_eq (h : l.AgreesOn P d d') (hP : l.DecidesRecords P) (kind : Kind)
    (hname : IsName name) :
    d'.locate ((l.kindDirectory kind).join name) = d.locate ((l.kindDirectory kind).join name) := by
  rw [Disk.locate, Disk.locate, Path.names_join hname, names_kindDirectory, List.append_assoc,
    List.singleton_append, Disk.walk_append, Disk.walk_append, h.rooted, h.rooted']
  simp only [Except.bind, Disk.walk, h.get?_eq _ (hP.kindDirectory kind), if_true]

theorem find_record_eq (h : l.AgreesOn P d d') (hP : l.DecidesRecords P) (kind : Kind)
    (hid : isValidId id = true) : d'.find (l.record kind id) = d.find (l.record kind id) := by
  have hlocate_eq := h.locate_join_eq hP kind (isName_recordFile hid)
  rw [← record] at hlocate_eq
  rw [Disk.find, Disk.find, hlocate_eq]
  cases hlocate : d.locate (l.record kind id) with
  | error fault => rfl
  | ok q =>
    rw [Disk.eq_place_of_locate hlocate, place_record hid]
    simp only [Except.bind, h.get?_eq _ (hP.record kind hid)]

theorem isFile_record_eq (h : l.AgreesOn P d d') (hP : l.DecidesRecords P) (kind : Kind)
    (hid : isValidId id = true) : d'.isFile (l.record kind id) = d.isFile (l.record kind id) := by
  rw [Disk.isFile, Disk.isFile, h.find_record_eq hP kind hid]

theorem readFile_record_eq (h : l.AgreesOn P d d') (hP : l.DecidesRecords P) (kind : Kind)
    (hid : isValidId id = true) :
    d'.readFile (l.record kind id) = d.readFile (l.record kind id) := by
  rw [Disk.readFile, Disk.readFile, h.find_record_eq hP kind hid]

/-! ### Finding records -/

theorem presentPath_eq (h : s.layout.AgreesOn P d d') (hP : s.layout.DecidesRecords P)
    (kind : Kind) (id : String) : s.presentPath kind id d' = s.presentPath kind id d := by
  rw [Storage.presentPath, Storage.presentPath, Storage.recordPath]
  by_cases hid : isValidId id = true
  · simp only [if_pos hid, ok_bind, h.isFile_record_eq hP kind hid]
  · simp only [if_neg hid, error_bind]

theorem absentPath_eq (h : s.layout.AgreesOn P d d') (hP : s.layout.DecidesRecords P)
    (kind : Kind) (id : String) : s.absentPath kind id d' = s.absentPath kind id d := by
  rw [Storage.absentPath, Storage.absentPath, Storage.recordPath]
  by_cases hid : isValidId id = true
  · simp only [if_pos hid, ok_bind, h.isFile_record_eq hP kind hid]
  · simp only [if_neg hid, error_bind]

theorem hasRecord_eq (h : s.layout.AgreesOn P d d') (hP : s.layout.DecidesRecords P)
    (kind : Kind) (id : String) : s.hasRecord kind id d' = s.hasRecord kind id d := by
  rw [Storage.hasRecord, Storage.hasRecord]
  cases hid : isValidId id with
  | false => rfl
  | true => rw [h.isFile_record_eq hP kind hid]

theorem getRecord_eq (h : s.layout.AgreesOn P d d') (hP : s.layout.DecidesRecords P)
    (kind : Kind) (id : String) : s.getRecord kind id d' = s.getRecord kind id d := by
  rw [Storage.getRecord, Storage.getRecord, h.presentPath_eq hP kind id]
  cases hpath : s.presentPath kind id d with
  | error e => rfl
  | ok p =>
    obtain ⟨hid, rfl⟩ := Storage.eq_record_of_presentPath hpath
    rw [ok_bind, ok_bind, Storage.readWith, Storage.readWith, h.readFile_record_eq hP kind hid]

/-! ### Changing records -/

theorem makeParent_record (h : l.AgreesOn P d d') (hP : l.DecidesRecords P) (kind : Kind)
    (hid : isValidId id = true) :
    (Disk.makeParent (l.record kind id) d').1 = (Disk.makeParent (l.record kind id) d).1 ∧
      l.AgreesOn P (Disk.makeParent (l.record kind id) d).2
        (Disk.makeParent (l.record kind id) d').2 := by
  rw [makeParent_record_of_root h.rooted hid, makeParent_record_of_root h.rooted' hid,
    h.get?_eq _ (hP.kindDirectory kind)]
  cases checkPath (l.kindDirectory kind) with
  | error fault => exact ⟨rfl, h⟩
  | ok =>
    simp only
    cases hget : d.get? (l.base ++ [kind.directory]) with
    | some e => cases e <;> exact ⟨rfl, h⟩
    | none =>
      have hget' := (h.get?_eq _ (hP.kindDirectory kind)).trans hget
      have hfree : d.get? (l.base ++ [kind.directory]) ≠ some .directory := by simp [hget]
      have hfree' : d'.get? (l.base ++ [kind.directory]) ≠ some .directory := by simp [hget']
      obtain ⟨m, hput⟩ := Disk.exists_put? h.rooted.get?_base hfree .directory
      obtain ⟨m', hput'⟩ := Disk.exists_put? h.rooted'.get?_base hfree' .directory
      simp only [hput, hput', true_and]
      exact h.put? hput hput'

theorem relatedResults_writeAt (h : l.AgreesOn P d d') (hP : l.DecidesRecords P) (kind : Kind)
    (hid : isValidId id = true) (bytes : List UInt8) :
    RelatedResults (l.AgreesOn P) (d.writeAt (recordPlace l.base kind id) bytes)
      (d'.writeAt (recordPlace l.base kind id) bytes) := by
  rw [writeAt_record, writeAt_record]
  have hdirectory := h.get?_eq _ (hP.kindDirectory kind)
  have hrecord := h.get?_eq _ (hP.record kind hid)
  have hsome : (d.put? (l.base ++ [kind.directory]) (id ++ ".json") (.file bytes)).isSome =
      (d'.put? (l.base ++ [kind.directory]) (id ++ ".json") (.file bytes)).isSome :=
    Disk.isSome_put?_congr (by rw [hdirectory]) (by rw [← recordPlace, hrecord])
  rcases cases_of_isSome_eq hsome with ⟨hput, hput'⟩ | ⟨m, m', hput, hput'⟩
  · rw [hput, hput']
    exact .error _
  · rw [hput, hput']
    exact .ok (h.put? hput hput')

theorem relatedResults_replaceFile (h : l.AgreesOn P d d') (hP : l.DecidesRecords P) (kind : Kind)
    (hid : isValidId id = true) (bytes : List UInt8) :
    RelatedResults (l.AgreesOn P) (d.replaceFile (l.record kind id) bytes)
      (d'.replaceFile (l.record kind id) bytes) := by
  have hparent : (l.record kind id).parent = l.kindDirectory kind :=
    Path.parent_join_join (isName_directory kind) (isName_recordFile hid) l.root
  have hlocate_eq := h.locate_join_eq hP kind (isName_recordFile hid)
  rw [← record] at hlocate_eq
  rw [Disk.replaceFile, Disk.replaceFile, hparent, h.locate_join_eq hP kind isName_workingName]
  cases d.locate ((l.kindDirectory kind).join Disk.workingName) with
  | error fault => exact .error fault
  | ok =>
    simp only [Except.bind, nameFile_record hid, hlocate_eq]
    cases hlocate : d.locate (l.record kind id) with
    | error fault => exact .error fault
    | ok q =>
      rw [Disk.eq_place_of_locate hlocate, place_record hid]
      exact h.relatedResults_writeAt hP kind hid bytes

theorem relatedResults_removeFile (h : l.AgreesOn P d d') (hP : l.DecidesRecords P) (kind : Kind)
    (hid : isValidId id = true) :
    RelatedResults (l.AgreesOn P) (d.removeFile (l.record kind id))
      (d'.removeFile (l.record kind id)) := by
  have hread_eq := h.readFile_record_eq hP kind hid
  rw [Disk.removeFile, Disk.removeFile, hread_eq]
  cases hread : d.readFile (l.record kind id) with
  | error fault => exact .error fault
  | ok bytes =>
    obtain ⟨hlocate, -, hget⟩ := Disk.readFile_eq_ok_iff.mp hread
    obtain ⟨hlocate', -, hget'⟩ := Disk.readFile_eq_ok_iff.mp (hread_eq.trans hread)
    obtain ⟨m, hremove⟩ := Disk.exists_removeFile? hget
    obtain ⟨m', hremove'⟩ := Disk.exists_removeFile? hget'
    simp only [Except.bind, hlocate, hlocate', hremove, hremove']
    exact .ok (h.removeFile? hremove hremove')

end Layout.AgreesOn

/-- Noting an event makes no difference to the records that are found. -/
theorem Storage.getRecord_log_eq (h : s.layout.Rooted d) (e : Audit.Event) (kind : Kind)
    (id : String) : s.getRecord kind id (Audit.log s e d).2 = s.getRecord kind id d := by
  have hdecides := s.layout.decidesRecords_ofRecords
  have hagrees : s.layout.AgreesOn s.layout.OfRecords d (Audit.log s e d).2 :=
    Layout.AgreesOn.of_auditOnly ⟨h, h, fun _ _ => rfl⟩ hdecides (.refl _ d)
      (Audit.auditOnly_log h e)
  exact hagrees.getRecord_eq hdecides kind id

/-! ## Steps on two disks -/

namespace DiskAction

theorem coupled_ask {f : Disk → Except StorageError α} (h : ∀ d d', R d d' → f d' = f d) :
    Coupled R (ask f) := by
  intro d d' hrel
  rw [SameRun, ask, ask, h d d' hrel]
  exact ⟨rfl, hrel⟩

theorem coupled_make {f : Disk → Except Disk.Fault Unit × Disk}
    (h : ∀ d d', R d d' → (f d').1 = (f d).1 ∧ R (f d).2 (f d').2) : Coupled R (make f) := by
  intro d d' hrel
  obtain ⟨hresult, hrel'⟩ := h d d' hrel
  exact ⟨congrArg (Except.mapError StorageError.ofFault) hresult, hrel'⟩

theorem coupled_change {f : Disk → Except Disk.Fault Disk}
    (h : ∀ d d', R d d' → RelatedResults R (f d) (f d')) : Coupled R (change f) := by
  intro d d' hrel
  have hresults := h d d' hrel
  rw [SameRun, change, change]
  cases hf : f d with
  | error fault =>
    rw [hf] at hresults
    cases hf' : f d' with
    | error fault' =>
      rw [hf'] at hresults
      cases hresults
      exact ⟨rfl, hrel⟩
    | ok m' =>
      rw [hf'] at hresults
      cases hresults
  | ok m =>
    rw [hf] at hresults
    cases hf' : f d' with
    | error fault' =>
      rw [hf'] at hresults
      cases hresults
    | ok m' =>
      rw [hf'] at hresults
      cases hresults with
      | ok related => exact ⟨rfl, related⟩

end DiskAction

namespace Storage

/-- A relation of disks that is kept when the same record is stored, replaced or deleted on both,
with the same result, and when the same event is noted on both, whether that succeeds or not. -/
structure KeepsRelated (s : Storage) (R : Disk → Disk → Prop) : Prop where
  create {kind : Kind} (r : Record kind) : Coupled R (s.createRecord r)
  update {kind : Kind} (r : Record kind) : Coupled R (s.updateRecord r)
  delete (kind : Kind) (id : String) : Coupled R (s.deleteRecord kind id)
  log (e : Audit.Event) (d d' : Disk) : R d d' → R (Audit.log s e d).2 (Audit.log s e d').2

/-- Such a relation of disks on which the same records are found. -/
structure SameRecords (s : Storage) (R : Disk → Disk → Prop) : Prop extends s.KeepsRelated R where
  getRecord_eq (kind : Kind) (id : String) (d d' : Disk) :
    R d d' → s.getRecord kind id d' = s.getRecord kind id d
  listRecords_eq {kind : Kind} (keep : Record kind → Bool) (d d' : Disk) :
    R d d' → s.listRecords kind keep d' = s.listRecords kind keep d
  hasRecord_eq (kind : Kind) (id : String) (d d' : Disk) :
    R d d' → s.hasRecord kind id d' = s.hasRecord kind id d

/-! ### Listing -/

/-- Ascending lists give the same where a function is undefined outside both. -/
theorem filterMap_eq_of_pairwise {ids ids' : List String} {f : String → Option α}
    (h : ids.Pairwise (· < ·)) (h' : ids'.Pairwise (· < ·))
    (hmem : ∀ id, f id ≠ none → id ∈ ids ∧ id ∈ ids') : ids.filterMap f = ids'.filterMap f := by
  have hfilter (ids : List String) :
      ids.filterMap f = (ids.filter fun id => (f id).isSome).filterMap f := by
    rw [List.filterMap_filter]
    apply List.filterMap_congr
    intro id _
    cases f id <;> rfl
  have hperm : (ids.filter fun id => (f id).isSome).Perm
      (ids'.filter fun id => (f id).isSome) := by
    rw [List.perm_ext_iff_of_nodup ((nodup_of_ascending h).filter _)
      ((nodup_of_ascending h').filter _)]
    intro id
    rw [List.mem_filter, List.mem_filter, Option.isSome_iff_ne_none]
    have hboth := hmem id
    tauto
  have heq : (ids.filter fun id => (f id).isSome) = ids'.filter fun id => (f id).isSome :=
    hperm.eq_of_pairwise (fun a b _ _ hab hba => absurd (String.lt_trans hab hba)
      (String.lt_irrefl a)) (h.filter _) (h'.filter _)
  rw [hfilter ids, hfilter ids', heq]

/-- A listing of names fails where the search for the directory tells so. -/
theorem listStems_error_congr {e : StorageError} (h : s.initialized = true)
    (hfind : d'.find (s.layout.kindDirectory kind) = d.find (s.layout.kindDirectory kind))
    (hfails : s.listStems (s.layout.kindDirectory kind) Layout.recordExtension d = .error e) :
    s.listStems (s.layout.kindDirectory kind) Layout.recordExtension d' = .error e := by
  rcases listStems_cases h kind d with ⟨bytes, hblocked, heq⟩ | ⟨-, heq⟩ | ⟨-, heq⟩
  · rw [heq] at hfails
    cases hfails
    rcases listStems_cases h kind d' with ⟨bytes', -, heq'⟩ | ⟨⟨fault, hmissing⟩, -⟩ | ⟨hfound, -⟩
    · exact heq'
    · rw [hfind, hblocked] at hmissing
      cases hmissing
    · rw [hfind, hblocked] at hfound
      cases hfound
  · rw [heq] at hfails
    cases hfails
  · rw [heq] at hfails
    cases hfails

theorem listRecords_of_not_initialized (h : s.initialized = false) (keep : Record kind → Bool)
    (d : Disk) : s.listRecords kind keep d = .error .notInitialized := by
  rw [listRecords, listStems, checkReady, h]
  rfl

/-- A listing depends on the records that can be found, and on whether a file stands in the place of
the directory. -/
theorem listRecords_congr
    (hfind : d'.find (s.layout.kindDirectory kind) = d.find (s.layout.kindDirectory kind))
    (hget : ∀ id, s.getRecord kind id d' = s.getRecord kind id d) (keep : Record kind → Bool) :
    s.listRecords kind keep d' = s.listRecords kind keep d := by
  by_cases h : s.initialized = false
  · rw [listRecords_of_not_initialized h, listRecords_of_not_initialized h]
  rw [Bool.not_eq_false] at h
  cases hids : s.listStems (s.layout.kindDirectory kind) Layout.recordExtension d with
  | error e =>
    rw [listRecords, listRecords, hids, listStems_error_congr h hfind hids]
    rfl
  | ok ids =>
    cases hids' : s.listStems (s.layout.kindDirectory kind) Layout.recordExtension d' with
    | error e =>
      rw [listStems_error_congr h hfind.symm hids'] at hids
      cases hids
    | ok ids' =>
      have hshelf : (fun id => s.shelf d' kind id) = fun id => s.shelf d kind id := by
        funext id
        rw [shelf, shelf, hget id]
      rw [listRecords_eq hids, listRecords_eq hids', hshelf]
      have hids_eq := filterMap_eq_of_pairwise (f := fun id => s.shelf d kind id)
        (pairwise_listStems h hids') (pairwise_listStems h hids) ?_
      · rw [hids_eq]
      intro id hne
      obtain ⟨r, hr⟩ := Option.ne_none_iff_exists'.mp hne
      have hfound := shelf_eq_some_iff_getRecord.mp hr
      obtain ⟨hid, hfile⟩ := isFile_of_getRecord hfound
      obtain ⟨-, hfile'⟩ := isFile_of_getRecord ((hget id).trans hfound)
      exact ⟨mem_listStems h hids' hid hfile', mem_listStems h hids hid hfile⟩

/-! ### Changing -/

variable (hP : s.layout.DecidesRecords P)

include hP

theorem coupled_replace_record (kind : Kind) (hid : isValidId id = true) (bytes : List UInt8) :
    Coupled (s.layout.AgreesOn P) (s.replace (s.layout.record kind id) bytes) := by
  rw [replace]
  apply (DiskAction.coupled_ask fun _ _ _ => rfl).bind
  intro _
  apply (DiskAction.coupled_make fun d d' h => h.makeParent_record hP kind hid).bind
  intro _
  exact DiskAction.coupled_change fun d d' h => h.relatedResults_replaceFile hP kind hid bytes

theorem coupled_createRecord_of_agreesOn (r : Record kind) :
    Coupled (s.layout.AgreesOn P) (s.createRecord r) := by
  intro d d' h
  rw [createRecord]
  apply (DiskAction.coupled_ask (fun d d' h => h.absentPath_eq hP kind r.id) d d' h).bind
  intro p t t' hpath _ hrel
  obtain ⟨hid, rfl⟩ := eq_record_of_absentPath (congrArg Prod.fst hpath)
  exact coupled_replace_record hP kind hid _ t t' hrel

theorem coupled_updateRecord_of_agreesOn (r : Record kind) :
    Coupled (s.layout.AgreesOn P) (s.updateRecord r) := by
  intro d d' h
  rw [updateRecord]
  apply (DiskAction.coupled_ask (fun d d' h => h.presentPath_eq hP kind r.id) d d' h).bind
  intro p t t' hpath _ hrel
  obtain ⟨hid, rfl⟩ := eq_record_of_presentPath (congrArg Prod.fst hpath)
  exact coupled_replace_record hP kind hid _ t t' hrel

theorem coupled_deleteRecord_of_agreesOn (kind : Kind) (id : String) :
    Coupled (s.layout.AgreesOn P) (s.deleteRecord kind id) := by
  intro d d' h
  rw [deleteRecord]
  apply (DiskAction.coupled_ask (fun d d' h => h.presentPath_eq hP kind id) d d' h).bind
  intro p t t' hpath _ hrel
  obtain ⟨hid, rfl⟩ := eq_record_of_presentPath (congrArg Prod.fst hpath)
  rw [delete]
  refine Coupled.bind (DiskAction.coupled_ask fun _ _ _ => rfl) (fun _ => ?_) t t' hrel
  exact DiskAction.coupled_change fun d d' h => h.relatedResults_removeFile hP kind hid

/-- The operations on records cannot tell disks apart that agree on what decides over records, and
keep them so. -/
theorem sameRecords_agreesOn : s.SameRecords (s.layout.AgreesOn P) where
  create := coupled_createRecord_of_agreesOn hP
  update := coupled_updateRecord_of_agreesOn hP
  delete := coupled_deleteRecord_of_agreesOn hP
  log e _ _ hd := hd.of_auditOnly hP (Audit.auditOnly_log hd.rooted e)
    (Audit.auditOnly_log hd.rooted' e)
  getRecord_eq kind id _ _ hd := hd.getRecord_eq hP kind id
  listRecords_eq keep _ _ hd :=
    listRecords_congr (hd.find_kindDirectory_eq hP _) (hd.getRecord_eq hP _) keep
  hasRecord_eq kind id _ _ hd := hd.hasRecord_eq hP kind id

end Storage

end SealedVault
