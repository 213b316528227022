import SealedVault.Proofs.Disk.Files
import SealedVault.Proofs.Store.AuditDirectory

/-!
# Footprints in the data directory

Which files the operations of the store can touch, whatever the disk holds: the data directory need
not be there, and any file may stand in it. The file of a record is at one place, which follows from
the path of the data directory, the kind and the id.
-/

namespace SealedVault

open Disk (SameFiles SetsFile)
open SealedVault.Path (IsName)

/-! ## Places -/

namespace Layout

variable {l : Layout} {kind : Kind} {id day : String} {d d' d'' : Disk}

/-- Where the path of the data directory leads, if it leads anywhere. -/
def base (l : Layout) : Place := l.root.place

theorem AuditAt.base_eq {base : Place} (h : l.AuditAt base d) : base = l.base :=
  Disk.eq_follow_of_descend h.root

theorem place_record (hid : isValidId id = true) :
    (l.record kind id).place = recordPlace l.base kind id := by
  rw [record, Path.place_join (isName_recordFile hid), kindDirectory,
    Path.place_join (isName_directory kind)]
  rfl

theorem place_auditDay (hday : IsName day) :
    (l.auditDay day).place = auditPlace l.base [day] := by
  rw [auditDay, Path.place_join hday, auditDirectory, Path.place_join isName_audit, ← base,
    auditPlace]
  simp

theorem place_auditLog (hday : IsName day) :
    (l.auditLog day).place = auditPlace l.base [day, logName] := by
  rw [auditLog_eq, Path.place_join isName_logName, place_auditDay hday, auditPlace_append]
  rfl

/-- The way to a record that has a file leads along directories. -/
theorem descend_of_isFile
    (hid : isValidId id = true) (h : d.isFile (l.record kind id) = true) :
    d.descend [] (l.kindDirectory kind).names = .ok (l.kindDirectory kind).place := by
  obtain ⟨bytes, hread⟩ := Disk.isFile_eq_true_iff.mp h
  obtain ⟨-, hwalk⟩ := Disk.locate_eq_ok_iff.mp (Disk.readFile_eq_ok_iff.mp hread).1
  rw [record, Path.names_join (isName_recordFile hid), Disk.walk_append] at hwalk
  cases hdescend : d.descend [] (l.kindDirectory kind).names with
  | error fault =>
    rw [hdescend] at hwalk
    cases hwalk
  | ok q => rw [Disk.eq_follow_of_descend hdescend, Path.place]

/-- No directory is missing on the way to a record that has a file. -/
theorem makeParent_of_isFile
    (hid : isValidId id = true) (h : d.isFile (l.record kind id) = true) :
    (Disk.makeParent (l.record kind id) d).2 = d := by
  have hparent : (l.record kind id).parent = l.kindDirectory kind :=
    Path.parent_join_join (isName_directory kind) (isName_recordFile hid) l.root
  have hdot : (l.kindDirectory kind).endsInDot = false :=
    Path.endsInDot_join (isName_directory kind) l.root
  have hmake : Disk.makeAlong .notDirectory .fileExists [] (l.kindDirectory kind).names d =
      (.ok (), d) := by
    rw [← List.append_nil (l.kindDirectory kind).names,
      Disk.makeAlong_of_descend (descend_of_isFile hid h)]
    rfl
  rw [Disk.makeParent, hparent, Disk.makeDirectory, hdot]
  cases Disk.checkPath (l.kindDirectory kind) with
  | error fault => rfl
  | ok =>
    simp only [Bool.false_eq_true, if_false]
    rw [hmake]

/-! ## Changes of files -/

/-- Outside the audit directory every file is what it was, and none is new. -/
def KeepsFiles (l : Layout) (d d' : Disk) : Prop :=
  ∀ place, (∀ rest, place ≠ auditPlace l.base rest) → d'.fileAt? place = d.fileAt? place

/-- Outside the audit directory a file changed only where, and to what, `P` allows. -/
def ChangesFiles (l : Layout) (P : Place → Option (List UInt8) → Prop) (d d' : Disk) : Prop :=
  ∀ place, (∀ rest, place ≠ auditPlace l.base rest) →
    d'.fileAt? place ≠ d.fileAt? place → P place (d'.fileAt? place)

variable {P Q : Place → Option (List UInt8) → Prop}

theorem KeepsFiles.refl (l : Layout) (d : Disk) : l.KeepsFiles d d := fun _ _ => rfl

theorem KeepsFiles.trans (h : l.KeepsFiles d d') (h' : l.KeepsFiles d' d'') :
    l.KeepsFiles d d'' :=
  fun place houtside => (h' place houtside).trans (h place houtside)

theorem KeepsFiles.changesFiles (h : l.KeepsFiles d d') : l.ChangesFiles P d d' :=
  fun place houtside hne => absurd (h place houtside) hne

theorem keepsFiles_of_sameFiles (h : SameFiles d d') : l.KeepsFiles d d' := fun place _ => h place

theorem ChangesFiles.mono (h : l.ChangesFiles P d d')
    (hmono : ∀ place content, P place content → Q place content) : l.ChangesFiles Q d d' :=
  fun place houtside hne => hmono _ _ (h place houtside hne)

theorem ChangesFiles.trans (h : l.ChangesFiles P d d') (h' : l.ChangesFiles P d' d'') :
    l.ChangesFiles P d d'' := by
  intro place houtside hne
  by_cases hlast : d''.fileAt? place = d'.fileAt? place
  · rw [hlast] at hne ⊢
    exact h place houtside hne
  · exact h' place houtside hlast

theorem changesFiles_of_setsFile {place : Place} {content : Option (List UInt8)}
    (h : SetsFile place content d d') (hP : P place content) : l.ChangesFiles P d d' := by
  intro q _ hne
  rw [h q] at hne ⊢
  by_cases hq : q = place
  · rw [if_pos hq, hq]
    exact hP
  · rw [if_neg hq] at hne
    exact absurd rfl hne

end Layout

/-! ## The same directories -/

/-- The directories are the same, and a file changed only where, and to what, `P` allows. -/
structure Disk.Rewrites (P : Place → Option (List UInt8) → Prop) (d d' : Disk) : Prop where
  directory_iff (place : Place) : d'.get? place = some .directory ↔ d.get? place = some .directory
  changed (place : Place) : d'.fileAt? place ≠ d.fileAt? place → P place (d'.fileAt? place)

namespace Disk

variable {P Q : Place → Option (List UInt8) → Prop} {d d' d'' : Disk}

theorem Rewrites.refl (P : Place → Option (List UInt8) → Prop) (d : Disk) : Rewrites P d d :=
  ⟨fun _ => Iff.rfl, fun _ hne => absurd rfl hne⟩

theorem Rewrites.mono (h : Rewrites P d d')
    (hmono : ∀ place content, P place content → Q place content) : Rewrites Q d d' :=
  ⟨h.directory_iff, fun place hne => hmono _ _ (h.changed place hne)⟩

theorem Rewrites.trans (h : Rewrites P d d') (h' : Rewrites P d' d'') : Rewrites P d d'' := by
  refine ⟨fun place => (h'.directory_iff place).trans (h.directory_iff place), ?_⟩
  intro place hne
  by_cases hlast : d''.fileAt? place = d'.fileAt? place
  · rw [hlast] at hne ⊢
    exact h.changed place hne
  · exact h'.changed place hlast

theorem Rewrites.changesFiles (h : Rewrites P d d') (l : Layout) : l.ChangesFiles P d d' :=
  fun place _ hne => h.changed place hne

theorem rewrites_of_get?_eq {place : Place} {entry : Option Entry}
    (hget : ∀ q, d'.get? q = if q = place then entry else d.get? q)
    (hbefore : d.get? place ≠ some .directory) (hafter : entry ≠ some .directory)
    (hP : P place (d'.fileAt? place)) : Rewrites P d d' := by
  refine ⟨fun q => ?_, fun q hne => ?_⟩
  · rw [hget]
    by_cases hq : q = place
    · rw [if_pos hq, hq]
      exact iff_of_false hafter hbefore
    · rw [if_neg hq]
  · by_cases hq : q = place
    · rw [hq]
      exact hP
    · refine absurd (fileAt?_eq_of_get?_eq ?_) hne
      rw [hget, if_neg hq]

/-- A file that no change was allowed to touch was there before with the same bytes. -/
theorem Rewrites.readFile {p : Path} {bytes : List UInt8} (h : Rewrites P d d')
    (hkept : ∀ content, ¬P p.place content) (hread : d'.readFile p = .ok bytes) :
    d.readFile p = .ok bytes := by
  obtain ⟨hlocate, hwants, hget⟩ := readFile_eq_ok_iff.mp hread
  have hsame : d'.fileAt? p.place = d.fileAt? p.place :=
    Classical.byContradiction fun hne => hkept _ (h.changed _ hne)
  rw [← fileAt?_eq_some_iff, hsame] at hget
  exact readFile_eq_ok_iff.mpr
    ⟨locate_of_keepsDirectories (fun place => (h.directory_iff place).mp) hlocate, hwants,
      fileAt?_eq_some_iff.mp hget⟩

end Disk

open Layout (auditPlace recordPlace)

namespace Storage

variable {s : Storage} {kind : Kind} {id : String} {d d' : Disk} {r : Record kind}
  {base : Place} {P : Place → Option (List UInt8) → Prop}

/-! ## Finding records -/

theorem isFile_of_presentPath {p : Path} (h : s.presentPath kind id d = .ok p) :
    d.isFile p = true := by
  rw [presentPath, bind_eq_ok_iff] at h
  obtain ⟨q, -, hp⟩ := h
  split at hp
  next hfile =>
    cases hp
    exact hfile
  · cases hp

theorem presentPath_of_isFile
    (hid : isValidId id = true) (h : d.isFile (s.layout.record kind id) = true) :
    s.presentPath kind id d = .ok (s.layout.record kind id) := by
  simp only [presentPath, recordPath, hid, if_true, ok_bind, h]
  rfl

theorem readWith_eq_ok_iff {α : Type} {decode : List UInt8 → Option α} {p : Path} {a : α} :
    s.readWith decode p d = .ok a ↔
      s.initialized = true ∧ ∃ bytes, d.readFile p = .ok bytes ∧ decode bytes = some a := by
  have hthrow (e : StorageError) : (throw e : Except StorageError α) ≠ .ok a := by
    intro h
    cases h
  rw [readWith, checkReady, bind_eq_ok_iff]
  cases s.initialized with
  | false => simp
  | true =>
    rcases d.readFile p with fault | bytes
    · cases fault <;> simp [hthrow]
    · cases hdecode : decode bytes with
      | none => simp [hthrow, hdecode]
      | some a' => simp [pure, Except.pure, hdecode]

theorem getRecord_eq_ok_iff :
    s.getRecord kind id d = .ok r ↔
      s.initialized = true ∧ isValidId id = true ∧
        ∃ bytes, d.readFile (s.layout.record kind id) = .ok bytes ∧
          Record.ofBytes? kind bytes = some r := by
  rw [getRecord, bind_eq_ok_iff]
  constructor
  · rintro ⟨p, hpath, hread⟩
    obtain ⟨hid, rfl⟩ := eq_record_of_presentPath hpath
    obtain ⟨hready, hbytes⟩ := readWith_eq_ok_iff.mp hread
    exact ⟨hready, hid, hbytes⟩
  · rintro ⟨hready, hid, bytes, hread, hdecode⟩
    exact ⟨_, presentPath_of_isFile hid (Disk.isFile_eq_true_iff.mpr ⟨bytes, hread⟩),
      readWith_eq_ok_iff.mpr ⟨hready, bytes, hread, hdecode⟩⟩

/-- The file at a place holds a record. -/
def Holds (d : Disk) (place : Place) (r : Record kind) : Prop :=
  (d.fileAt? place).bind (Record.ofBytes? kind) = some r

theorem holds_of_getRecord (h : s.getRecord kind id d = .ok r) :
    Holds d (recordPlace s.layout.base kind id) r := by
  obtain ⟨-, hid, bytes, hread, hdecode⟩ := getRecord_eq_ok_iff.mp h
  have hget := (Disk.readFile_eq_ok_iff.mp hread).2.2
  rw [Layout.place_record hid] at hget
  rw [Holds, Disk.fileAt?_eq_some_iff.mpr hget]
  exact hdecode

/-- A record that is found where no change was allowed to touch it was found before. -/
theorem getRecord_of_rewrites (h : Disk.Rewrites P d d')
    (hkept : ∀ content, ¬P (recordPlace s.layout.base kind id) content)
    (hr : s.getRecord kind id d' = .ok r) : s.getRecord kind id d = .ok r := by
  obtain ⟨hready, hid, bytes, hread, hdecode⟩ := getRecord_eq_ok_iff.mp hr
  rw [← Layout.place_record hid] at hkept
  exact getRecord_eq_ok_iff.mpr ⟨hready, hid, bytes, h.readFile hkept hread, hdecode⟩

/-- What a listing holds was found under the name of some file. -/
theorem exists_getRecord_of_mem {keep : Record kind → Bool} {records : List (Record kind)}
    (h : s.listRecords kind keep d = .ok records) (hr : r ∈ records) :
    keep r = true ∧ ∃ id, s.getRecord kind id d = .ok r := by
  rw [listRecords, bind_eq_ok_iff] at h
  obtain ⟨ids, -, hrecords⟩ := h
  cases hrecords
  obtain ⟨hmem, hkeep⟩ := List.mem_filter.mp hr
  obtain ⟨id, -, hfound⟩ := List.mem_filterMap.mp hmem
  exact ⟨hkeep, id, shelf_eq_some_iff_getRecord.mp hfound⟩

/-! ## Changes of one file -/

/-- An action that starts with a question to the disk fails there, or goes on with the answer. -/
theorem ask_cases {α β : Type} {f : Disk → Except StorageError α} {next : α → DiskAction β}
    {a : DiskAction β} (ha : a = DiskAction.ask f >>= next) (d : Disk) :
    (∃ e, a d = (.error e, d)) ∨ ∃ x, f d = .ok x ∧ a d = next x d := by
  rw [ha, run_bind, DiskAction.ask]
  cases f d with
  | error e => exact Or.inl ⟨e, rfl⟩
  | ok x => exact Or.inr ⟨x, rfl, rfl⟩

theorem sameFiles_makeParent (p : Path) (d : Disk) : SameFiles d (Disk.makeParent p d).2 :=
  (Disk.onlyMakesDirectories_makeDirectory p.parent d).sameFiles

/-- A file is changed after the directories on the way to it were made. -/
theorem make_change_cases {p : Path} {f : Disk → Except Disk.Fault Disk} {a : DiskAction Unit}
    (ha : a = do
      DiskAction.ask fun _ => s.checkReady
      DiskAction.make (Disk.makeParent p)
      DiskAction.change f)
    (d : Disk) :
    (∃ e m, a d = (.error e, m) ∧ (m = d ∨ m = (Disk.makeParent p d).2)) ∨
      ∃ d', a d = (.ok (), d') ∧ f (Disk.makeParent p d).2 = .ok d' := by
  rcases ask_cases ha d with ⟨e, hfails⟩ | ⟨_, -, hrun⟩
  · exact Or.inl ⟨e, d, hfails, Or.inl rfl⟩
  obtain ⟨result, m, hmake⟩ : ∃ result m, Disk.makeParent p d = (result, m) := ⟨_, _, rfl⟩
  have hmade : DiskAction.make (Disk.makeParent p) d = (result.mapError .ofFault, m) := by
    rw [DiskAction.make, hmake]
  rw [hrun, run_bind, hmade, hmake]
  cases result with
  | error fault => exact Or.inl ⟨.ofFault fault, m, rfl, Or.inr rfl⟩
  | ok =>
    simp only [Except.mapError, DiskAction.change]
    cases f m with
    | error fault => exact Or.inl ⟨_, m, rfl, Or.inr rfl⟩
    | ok d' => exact Or.inr ⟨d', rfl, rfl⟩

/-- The same in terms of files: making directories changes none. -/
theorem make_change_sets {p : Path} {f : Disk → Except Disk.Fault Disk} {d : Disk}
    {a : DiskAction Unit} {place : Place} {content : Option (List UInt8)}
    (ha : a = do
      DiskAction.ask fun _ => s.checkReady
      DiskAction.make (Disk.makeParent p)
      DiskAction.change f)
    (hf : ∀ m d', SameFiles d m → f m = .ok d' → SetsFile place content m d') :
    (∃ e m, a d = (.error e, m) ∧ SameFiles d m) ∨
      ∃ d', a d = (.ok (), d') ∧ SetsFile place content d d' := by
  have hmade := sameFiles_makeParent p d
  rcases make_change_cases ha d with ⟨e, m, hfails, rfl | rfl⟩ | ⟨d', hok, hchange⟩
  · exact Or.inl ⟨e, m, hfails, .refl m⟩
  · exact Or.inl ⟨e, _, hfails, hmade⟩
  · exact Or.inr ⟨d', hok, hmade.setsFile (hf _ d' hmade hchange)⟩

/-- Where one change of a file succeeds, so does another one that can be made to the same file. -/
theorem exists_make_change {p : Path} {f g : Disk → Except Disk.Fault Disk} {a b : DiskAction Unit}
    (ha : a = do
      DiskAction.ask fun _ => s.checkReady
      DiskAction.make (Disk.makeParent p)
      DiskAction.change f)
    (hb : b = do
      DiskAction.ask fun _ => s.checkReady
      DiskAction.make (Disk.makeParent p)
      DiskAction.change g)
    (hfg : ∀ m d', f m = .ok d' → ∃ d'', g m = .ok d'') (h : a d = (.ok (), d')) :
    ∃ d'', b d = (.ok (), d'') := by
  rw [ha, run_bind_eq_ok_iff] at h
  obtain ⟨_, d₁, hasked, h⟩ := h
  rw [run_bind_eq_ok_iff] at h
  obtain ⟨_, m, hmade, hchanged⟩ := h
  obtain ⟨d₂, hf⟩ : ∃ d₂, f m = .ok d₂ := by
    simp only [DiskAction.change] at hchanged
    split at hchanged
    next d₂ hf => exact ⟨d₂, hf⟩
    · cases hchanged
  obtain ⟨d'', hg⟩ := hfg m d₂ hf
  refine ⟨d'', ?_⟩
  rw [hb, run_bind_of_ok hasked, run_bind_of_ok hmade, DiskAction.change, hg]

/-- A new record gets a file, or no file changes. -/
theorem createRecord_footprint (s : Storage) (r : Record kind) (d : Disk) :
    (∃ e m, s.createRecord r d = (.error e, m) ∧ SameFiles d m) ∨
      ∃ d', s.createRecord r d = (.ok (), d') ∧
        SetsFile (recordPlace s.layout.base kind r.id) (some r.toBytes) d d' := by
  rcases ask_cases (a := s.createRecord r) rfl d with ⟨e, hfails⟩ | ⟨p, hpath, hrun⟩
  · exact Or.inl ⟨e, d, hfails, .refl d⟩
  · obtain ⟨hid, rfl⟩ := eq_record_of_absentPath hpath
    rw [hrun, ← Layout.place_record hid]
    exact make_change_sets rfl fun m d' _ hreplace => Disk.setsFile_of_replaceFile hreplace

/-- The file of a record, and nothing else, is replaced. -/
theorem putsRecord_of_replaceFile (hid : isValidId r.id = true)
    (h : d.replaceFile (s.layout.record kind r.id) r.toBytes = .ok d') :
    PutsRecord s.layout.base r d d' := by
  obtain ⟨front, name, hplace, hput⟩ := Disk.put?_of_replaceFile h
  rw [Layout.place_record hid] at hplace
  refine ⟨fun q => ?_, ?_⟩
  · rw [Disk.get?_of_put? hput, hplace]
  · rw [hplace]
    exact Disk.ne_directory_of_put? hput

/-- A record that is there is replaced as a whole, or nothing is done. -/
theorem updateRecord_footprint (s : Storage) (r : Record kind) (d : Disk) :
    (∃ e, s.updateRecord r d = (.error e, d)) ∨
      ∃ d', s.updateRecord r d = (.ok (), d') ∧ PutsRecord s.layout.base r d d' := by
  rcases ask_cases (a := s.updateRecord r) rfl d with ⟨e, hfails⟩ | ⟨p, hpath, hrun⟩
  · exact Or.inl ⟨e, hfails⟩
  · have hfile := isFile_of_presentPath hpath
    obtain ⟨hid, rfl⟩ := eq_record_of_presentPath hpath
    rw [hrun]
    -- the file is there, so no directory has to be made for it
    have hmake := Layout.makeParent_of_isFile hid hfile
    rcases make_change_cases (a := s.replace (s.layout.record kind r.id) r.toBytes) rfl d with
      ⟨e, m, hfails, hm⟩ | ⟨d', hreplaces, hreplace⟩
    · rw [hmake, or_self_iff] at hm
      rw [hm] at hfails
      exact Or.inl ⟨e, hfails⟩
    · rw [hmake] at hreplace
      exact Or.inr ⟨d', hreplaces, putsRecord_of_replaceFile hid hreplace⟩

/-- A record that is there is taken away, or nothing is done. -/
theorem deleteRecord_footprint (s : Storage) (kind : Kind) (id : String) (d : Disk) :
    (∃ e, s.deleteRecord kind id d = (.error e, d)) ∨
      ∃ d', s.deleteRecord kind id d = (.ok (), d') ∧
        RemovesRecord s.layout.base kind id d d' := by
  rcases ask_cases (a := s.deleteRecord kind id) rfl d with ⟨e, hfails⟩ | ⟨p, hpath, hrun⟩
  · exact Or.inl ⟨e, hfails⟩
  · obtain ⟨hid, rfl⟩ := eq_record_of_presentPath hpath
    rw [hrun]
    rcases ask_cases (a := s.delete (s.layout.record kind id)) rfl d with
      ⟨e, hfails⟩ | ⟨_, -, hrun⟩
    · exact Or.inl ⟨e, hfails⟩
    · rw [hrun, DiskAction.change]
      cases hremove : d.removeFile (s.layout.record kind id) with
      | error fault => exact Or.inl ⟨_, rfl⟩
      | ok d' =>
        have hplace := Disk.removeFile?_of_removeFile hremove
        rw [Layout.place_record hid] at hplace
        exact Or.inr ⟨d', rfl, removesRecord_of_removeFile? hplace⟩

/-! ## Rewriting and taking away, as changes of files -/

theorem rewrites_of_puts (h : PutsRecord base r d d')
    (hP : P (recordPlace base kind r.id) (some r.toBytes)) : Disk.Rewrites P d d' := by
  have hfile : d'.fileAt? (recordPlace base kind r.id) = some r.toBytes := by
    rw [Disk.fileAt?_eq_some_iff, h.get?_eq, if_pos rfl]
  rw [← hfile] at hP
  exact Disk.rewrites_of_get?_eq h.get?_eq h.ne_directory (by simp) hP

theorem rewrites_of_removes (h : RemovesRecord base kind id d d')
    (hP : P (recordPlace base kind id) none) : Disk.Rewrites P d d' := by
  have hfile : d'.fileAt? (recordPlace base kind id) = none := by
    rw [Disk.fileAt?, h.get?_eq, if_pos rfl]
  rw [← hfile] at hP
  exact Disk.rewrites_of_get?_eq h.get?_eq h.ne_directory (by simp) hP

/-! ## Audit logs -/

/-- Adding to an audit log extends that log, or changes no file. -/
theorem append_auditLog_footprint (s : Storage) {day : String} (hday : IsName day)
    (bytes : List UInt8) (d : Disk) :
    (∃ e m, s.append (s.layout.auditLog day) bytes d = (.error e, m) ∧ SameFiles d m) ∨
      ∃ d', s.append (s.layout.auditLog day) bytes d = (.ok (), d') ∧
        SetsFile (auditPlace s.layout.base [day, logName])
          (some ((d.fileAt? (auditPlace s.layout.base [day, logName])).getD [] ++ bytes)) d d' := by
  rw [← Layout.place_auditLog hday]
  refine make_change_sets rfl fun m d' hsame happend => ?_
  rw [← hsame]
  exact Disk.setsFile_of_appendFile happend

/-- The log of a day can be extended. What is added makes no difference to that. -/
def LogWritable (s : Storage) (day : Calendar.Date) (d : Disk) : Prop :=
  (s.append (Audit.logPath s day) [] d).1 = .ok ()

/-- What the log of a day holds. -/
def logBytes (s : Storage) (day : Calendar.Date) (d : Disk) : List UInt8 :=
  (d.fileAt? (auditPlace s.layout.base [day.text, logName])).getD []

end Storage

/-- Noting an event extends the log of its day, or changes no file. -/
theorem Audit.log_footprint (s : Storage) (e : Audit.Event) (d : Disk) :
    (∃ error m, Audit.log s e d = (.error error, m) ∧ SameFiles d m) ∨
      ∃ d', Audit.log s e d = (.ok (), d') ∧
        SetsFile (auditPlace s.layout.base [e.timestamp.date.text, logName])
          (some ((d.fileAt? (auditPlace s.layout.base [e.timestamp.date.text, logName])).getD [] ++
            Text.utf8Bytes e.line)) d d' :=
  s.append_auditLog_footprint e.timestamp.date.isName_text (Text.utf8Bytes e.line) d

/-- An event is the last line of the log of its day after it was noted in a log that can be
extended. -/
theorem Audit.logBytes_log {s : Storage} {e : Audit.Event} {d : Disk}
    (h : s.LogWritable e.timestamp.date d) :
    s.logBytes e.timestamp.date (Audit.log s e d).2 =
      s.logBytes e.timestamp.date d ++ Text.utf8Bytes e.line := by
  obtain ⟨d', hok⟩ : ∃ d', Audit.log s e d = (.ok (), d') :=
    Storage.exists_make_change (a := s.append (Audit.logPath s e.timestamp.date) []) rfl rfl
      (fun m d' h => Disk.exists_appendFile h (Text.utf8Bytes e.line)) (Prod.ext h rfl)
  rcases Audit.log_footprint s e d with ⟨error, m, hfails, -⟩ | ⟨d', hlog, hsets⟩
  · rw [hok] at hfails
    cases hfails
  · rw [hlog, Storage.logBytes, hsets, if_pos rfl]
    rfl

theorem Audit.keepsFiles_log (s : Storage) (e : Audit.Event) (d : Disk) :
    s.layout.KeepsFiles d (Audit.log s e d).2 := by
  rcases Audit.log_footprint s e d with ⟨error, m, hlog, hsame⟩ | ⟨d', hlog, hsets⟩
  · rw [hlog]
    exact Layout.keepsFiles_of_sameFiles hsame
  · rw [hlog]
    intro place houtside
    rw [hsets place, if_neg (houtside _)]

end SealedVault
