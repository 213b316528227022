import SealedVault.Proofs.Store.Agreement
import SealedVault.Proofs.Store.Beside

/-!
# The files of the store

The store has a file for every record with a valid id and one for the audit log of every day. Two
disks may have the same at the places of these files, and a file in the place of the directory of a
day on both or on neither. Then all that is done with records and with audit logs has the same
results on both, and the disks agree as before.
-/

namespace SealedVault

open Calendar (Date)
open Disk (KeepsDirectories checkPath nameLimit)
open Layout (AuditAt auditPlace auditView extendedAudit extendedLog recordPlace)

variable {l : Layout} {s : Storage} {d d' m m' : Disk} {kind : Kind} {id : String} {α : Type}
  {view view' : List String → Option Entry}

/-! ## Places -/

namespace Layout

/-- The place is that of the file of a record, or that of the log of a day. -/
def OwnPlace (l : Layout) (place : Place) : Prop :=
  (∃ (kind : Kind) (id : String), isValidId id = true ∧ place = (l.record kind id).place) ∨
    ∃ day : Date, place = (l.auditLog day.text).place

theorem ownPlace_record (kind : Kind) (hid : isValidId id = true) :
    l.OwnPlace (recordPlace l.base kind id) :=
  Or.inl ⟨kind, id, hid, (place_record hid).symm⟩

theorem ownPlace_auditLog (day : Date) : l.OwnPlace (auditPlace l.base [day.text, logName]) :=
  Or.inr ⟨day, (place_auditLog day.isName_text).symm⟩

end Layout

/-! ## What is changed -/

/-- Nothing changed but files of the store. -/
def Layout.ChangesOwn (l : Layout) (d d' : Disk) : Prop :=
  ∀ place, d'.fileAt? place ≠ d.fileAt? place → l.OwnPlace place

namespace Layout

theorem ChangesOwn.refl (l : Layout) (d : Disk) : l.ChangesOwn d d := fun _ hne => absurd rfl hne

theorem ChangesOwn.trans (h : l.ChangesOwn d d') (h' : l.ChangesOwn d' m) : l.ChangesOwn d m := by
  intro place hne
  by_cases hsame : m.fileAt? place = d'.fileAt? place
  · rw [hsame] at hne
    exact h place hne
  · exact h' place hsame

theorem changesOwn_of_sameFiles (h : Disk.SameFiles d d') : l.ChangesOwn d d' :=
  fun place hne => absurd (h place) hne

theorem changesOwn_of_setsFile {place : Place} {content : Option (List UInt8)}
    (h : Disk.SetsFile place content d d') (hplace : l.OwnPlace place) : l.ChangesOwn d d' := by
  intro q hne
  by_cases hq : q = place
  · rw [hq]
    exact hplace
  · rw [h q, if_neg hq] at hne
    exact absurd rfl hne

end Layout

namespace Storage

theorem changesOwn_createRecord (s : Storage) (r : Record kind) (d : Disk) :
    s.layout.ChangesOwn d (s.createRecord r d).2 := by
  by_cases hid : isValidId r.id = true
  · rcases s.createRecord_footprint r d with ⟨e, m, hfails, hsame⟩ | ⟨d', hok, hsets⟩
    · rw [hfails]
      exact Layout.changesOwn_of_sameFiles hsame
    · rw [hok]
      exact Layout.changesOwn_of_setsFile hsets (Layout.ownPlace_record kind hid)
  · rw [createRecord_of_invalid (eq_false_of_ne_true hid)]
    exact .refl _ d

theorem changesOwn_updateRecord (s : Storage) (r : Record kind) (d : Disk) :
    s.layout.ChangesOwn d (s.updateRecord r d).2 := by
  by_cases hid : isValidId r.id = true
  · rcases s.updateRecord_footprint r d with ⟨e, hfails⟩ | ⟨d', hok, hputs⟩
    · rw [hfails]
      exact .refl _ d
    · rw [hok]
      exact (rewrites_of_puts (P := fun place _ => s.layout.OwnPlace place) hputs
        (Layout.ownPlace_record kind hid)).changed
  · rw [updateRecord_of_invalid (eq_false_of_ne_true hid)]
    exact .refl _ d

theorem changesOwn_deleteRecord (s : Storage) (kind : Kind) (id : String) (d : Disk) :
    s.layout.ChangesOwn d (s.deleteRecord kind id d).2 := by
  by_cases hid : isValidId id = true
  · rcases s.deleteRecord_footprint kind id d with ⟨e, hfails⟩ | ⟨d', hok, hremoves⟩
    · rw [hfails]
      exact .refl _ d
    · rw [hok]
      exact (rewrites_of_removes (P := fun place _ => s.layout.OwnPlace place) hremoves
        (Layout.ownPlace_record kind hid)).changed
  · rw [deleteRecord_of_invalid (eq_false_of_ne_true hid)]
    exact .refl _ d

theorem changesOwn_log (s : Storage) (e : Audit.Event) (d : Disk) :
    s.layout.ChangesOwn d (Audit.log s e d).2 := by
  rcases Audit.log_footprint s e d with ⟨error, m, hlog, hsame⟩ | ⟨d', hlog, hsets⟩
  · rw [hlog]
    exact Layout.changesOwn_of_sameFiles hsame
  · rw [hlog]
    exact Layout.changesOwn_of_setsFile hsets (Layout.ownPlace_auditLog e.timestamp.date)

end Storage

/-- A file is in the place of the directory of a day. -/
def Layout.DayBlocked (l : Layout) (d : Disk) (day : Date) : Prop :=
  ∃ bytes, d.get? (l.auditDay day.text).place = some (.file bytes)

/-! ## Logs -/

/-- Each log is the same, and a file is in the place of the directory of a day on both sides or on
neither. -/
structure SameLogs (view view' : List String → Option Entry) : Prop where
  log (day : Date) : view' [day.text, logName] = view [day.text, logName]
  blocked_iff (day : Date) :
    (∃ bytes, view' [day.text] = some (.file bytes)) ↔
      ∃ bytes, view [day.text] = some (.file bytes)

namespace SameLogs

theorem refl (view : List String → Option Entry) : SameLogs view view :=
  ⟨fun _ => rfl, fun _ => Iff.rfl⟩

/-- The directory of a day is made. -/
theorem update_day (h : SameLogs view view') (name : String) :
    SameLogs (Function.update view [name] (some .directory))
      (Function.update view' [name] (some .directory)) where
  log day := by
    rw [Function.update_of_ne (by simp), Function.update_of_ne (by simp), h.log]
  blocked_iff day := by
    by_cases hday : [day.text] = [name]
    · rw [hday, Function.update_self, Function.update_self]
    · rw [Function.update_of_ne hday, Function.update_of_ne hday, h.blocked_iff]

/-- The same is put in the place of a log. -/
theorem update_log (h : SameLogs view view') (name : String) (e : Entry) :
    SameLogs (Function.update view [name, logName] (some e))
      (Function.update view' [name, logName] (some e)) where
  log day := by
    by_cases hday : [day.text, logName] = [name, logName]
    · rw [hday, Function.update_self, Function.update_self]
    · rw [Function.update_of_ne hday, Function.update_of_ne hday, h.log]
  blocked_iff day := by
    rw [Function.update_of_ne (by simp), Function.update_of_ne (by simp), h.blocked_iff]

theorem extendedLog (h : SameLogs view view') (l : Layout) (day : Date) (bytes : List UInt8) :
    SameLogs (extendedLog l day.text bytes view) (extendedLog l day.text bytes view') := by
  rw [Layout.extendedLog, Layout.extendedLog, h.log]
  cases checkPath (l.auditLog day.text) with
  | error fault => exact h
  | ok =>
    rcases view [day.text, logName] with _ | old | _
    · exact h.update_log day.text _
    · exact h.update_log day.text _
    · exact h

/-- The same cases: a file is in the way on both sides, or on neither. -/
theorem blocked_cases (h : SameLogs view view') (day : Date) :
    (∃ bytes bytes', view [day.text] = some (.file bytes) ∧
        view' [day.text] = some (.file bytes')) ∨
      (∀ bytes, view [day.text] ≠ some (.file bytes)) ∧
        ∀ bytes, view' [day.text] ≠ some (.file bytes) := by
  by_cases hblocked : ∃ bytes, view [day.text] = some (.file bytes)
  · obtain ⟨bytes', hview'⟩ := (h.blocked_iff day).mpr hblocked
    obtain ⟨bytes, hview⟩ := hblocked
    exact Or.inl ⟨bytes, bytes', hview, hview'⟩
  · exact Or.inr ⟨not_exists.mp hblocked, not_exists.mp (mt (h.blocked_iff day).mp hblocked)⟩

/-- Adding to a log, whether that succeeds or not, keeps the logs the same. -/
theorem extendedAudit (h : SameLogs view view') (l : Layout) (day : Date) (bytes : List UInt8) :
    SameLogs (extendedAudit l day.text bytes view) (extendedAudit l day.text bytes view') := by
  have hlog := (h.update_day day.text).extendedLog l day bytes
  rw [Layout.extendedAudit, Layout.extendedAudit]
  cases checkPath (l.auditDay day.text) with
  | error fault => exact h
  | ok =>
    by_cases hlong : nameLimit < day.text.utf8ByteSize
    · simp only [if_pos hlong]
      exact h
    simp only [if_neg hlong]
    rcases h.blocked_cases day with ⟨old, old', hview, hview'⟩ | ⟨hfree, hfree'⟩
    · rw [hview, hview']
      exact h
    · split
      next old hview => exact absurd hview (hfree old)
      next => exact hlog

theorem dayResult_eq (h : SameLogs view view') (l : Layout) (day : Date) :
    l.dayResult day.text view' = l.dayResult day.text view := by
  rw [Layout.dayResult, Layout.dayResult]
  rcases h.blocked_cases day with ⟨old, old', hview, hview'⟩ | ⟨hfree, hfree'⟩
  · rw [hview, hview']
  · congr 1
    funext _
    split
    · rfl
    split
    next old hview' => exact absurd hview' (hfree' old)
    next => rfl

theorem readFile_eq (h : SameLogs (auditView l.base d) (auditView l.base d'))
    (hd : l.AuditAt l.base d) (hd' : l.AuditAt l.base d') (day : Date) :
    d'.readFile (l.auditLog day.text) = d.readFile (l.auditLog day.text) := by
  rw [Layout.readFile_auditLog_eq hd day.isName_text,
    Layout.readFile_auditLog_eq hd' day.isName_text, h.log]
  rcases h.blocked_cases day with ⟨old, old', hview, hview'⟩ | ⟨hfree, hfree'⟩
  · rw [hview, hview']
  · congr 1
    funext _
    split
    · rfl
    split
    next old hview' => exact absurd hview' (hfree' old)
    next => rfl

theorem extendResult_eq (h : SameLogs view view') (l : Layout) (day : Date) :
    l.extendResult day.text view' = l.extendResult day.text view := by
  rw [Layout.extendResult, Layout.extendResult, h.dayResult_eq, h.log]

end SameLogs

/-! ## Two disks -/

/-- Both disks have the data directory with its audit directory. The directories and files of
records are the same, and so are the logs. -/
structure Layout.AgreesOnOwn (l : Layout) (d d' : Disk) : Prop extends
    l.AgreesOn l.OfRecords d d' where
  audit : d.get? (l.base ++ ["audit"]) = some .directory
  audit' : d'.get? (l.base ++ ["audit"]) = some .directory
  logs : SameLogs (auditView l.base d) (auditView l.base d')

namespace Layout

/-- Disks on which all directories of the store are found have the same directories and files of
records where the same is at the places of its files. -/
theorem agreesOn_of_find (hfound : ∀ p ∈ l.directories, d.find p = .ok .directory)
    (hfound' : ∀ p ∈ l.directories, d'.find p = .ok .directory)
    (hown : ∀ kind id, isValidId id = true →
      d'.get? (l.record kind id).place = d.get? (l.record kind id).place) :
    l.AgreesOn l.OfRecords d d' where
  rooted := (rooted_of_find_kindDirectory (hfound _ (l.kindDirectory_mem .claims))).1
  rooted' := (rooted_of_find_kindDirectory (hfound' _ (l.kindDirectory_mem .claims))).1
  get?_eq place := by
    rintro (⟨kind, heq⟩ | ⟨kind, id, hid, heq⟩)
    · rw [heq, (rooted_of_find_kindDirectory (hfound _ (l.kindDirectory_mem kind))).2,
        (rooted_of_find_kindDirectory (hfound' _ (l.kindDirectory_mem kind))).2]
    · rw [heq, ← place_record hid, hown kind id hid]

end Layout

namespace Layout.AgreesOnOwn

theorem auditAt (h : l.AgreesOnOwn d d') : l.AuditAt l.base d := ⟨h.rooted, h.audit⟩

theorem auditAt' (h : l.AgreesOnOwn d d') : l.AuditAt l.base d' := ⟨h.rooted', h.audit'⟩

/-- Disks on which all directories of the store are found agree where the same is at the places of
its files, and a file is in the place of the directory of a day on both or on neither. -/
theorem of_find (hfound : ∀ p ∈ l.directories, d.find p = .ok .directory)
    (hfound' : ∀ p ∈ l.directories, d'.find p = .ok .directory)
    (hown : ∀ place, l.OwnPlace place → d'.get? place = d.get? place)
    (hblocked : ∀ day, l.DayBlocked d' day ↔ l.DayBlocked d day) : l.AgreesOnOwn d d' where
  toAgreesOn := agreesOn_of_find hfound hfound' fun kind id hid =>
    hown _ (Or.inl ⟨kind, id, hid, rfl⟩)
  audit := (auditAt_of_find (hfound _ l.auditDirectory_mem)).audit
  audit' := (auditAt_of_find (hfound' _ l.auditDirectory_mem)).audit
  logs :=
    { log := fun day => hown _ (l.ownPlace_auditLog day)
      blocked_iff := fun day => by
        have hday := hblocked day
        rw [DayBlocked, DayBlocked, place_auditDay day.isName_text] at hday
        exact hday }

/-- Changes that leave the audit directory as it is keep the logs the same. -/
theorem of_keepsAudit (h : l.AgreesOnOwn d d') (hagrees : l.AgreesOn l.OfRecords m m')
    (hkeeps : l.KeepsAudit d m) (hkeeps' : l.KeepsAudit d' m') : l.AgreesOnOwn m m' where
  toAgreesOn := hagrees
  audit := hkeeps.keeps _ h.audit
  audit' := hkeeps'.keeps _ h.audit'
  logs := by
    rw [hkeeps.view, hkeeps'.view]
    exact h.logs

/-- At the places of the files of the store the same is found. -/
theorem get?_eq_of_ownPlace (h : l.AgreesOnOwn d d') {place : Place} (hplace : l.OwnPlace place) :
    d'.get? place = d.get? place := by
  rcases hplace with ⟨kind, id, hid, heq⟩ | ⟨day, heq⟩
  · rw [heq, Layout.place_record hid]
    exact h.get?_eq _ ((decidesRecords_ofRecords l).record kind hid)
  · have hlog := h.logs.log day
    rw [auditView, auditView] at hlog
    rw [heq, Layout.place_auditLog day.isName_text, hlog]

end Layout.AgreesOnOwn

namespace Storage

theorem log_of_not_initialized (h : s.initialized = false) (e : Audit.Event) (d : Disk) :
    Audit.log s e d = (.error .notInitialized, d) := by
  rw [Audit.log, append]
  apply run_bind_of_error
  rw [DiskAction.ask, checkReady, h]
  rfl

/-- Adding an event to the log of its day succeeds on both disks or fails in the same way. -/
theorem coupled_log (s : Storage) (e : Audit.Event) :
    Coupled s.layout.AgreesOnOwn (Audit.log s e) := by
  intro d d' hd
  cases h : s.initialized with
  | false =>
    exact sameRun_of_eq (log_of_not_initialized h e d) (log_of_not_initialized h e d') hd
  | true =>
    have hday := e.timestamp.date.isName_text
    have hagrees :=
      (sameRecords_agreesOn (Layout.decidesRecords_ofRecords s.layout)).log e d d' hd.toAgreesOn
    have hresult := append_auditLog_fst ⟨h, hd.auditAt⟩ hday (Text.utf8Bytes e.line)
    have hresult' := append_auditLog_fst ⟨h, hd.auditAt'⟩ hday (Text.utf8Bytes e.line)
    have hextends := extendsAudit_append ⟨h, hd.auditAt⟩ hday (Text.utf8Bytes e.line)
    have hextends' := extendsAudit_append ⟨h, hd.auditAt'⟩ hday (Text.utf8Bytes e.line)
    have hlogs := hd.logs.extendedAudit s.layout e.timestamp.date (Text.utf8Bytes e.line)
    rw [← funext hextends.view, ← funext hextends'.view] at hlogs
    rw [hd.logs.extendResult_eq, ← hresult] at hresult'
    rw [Audit.log, Audit.logPath] at hagrees ⊢
    exact ⟨hresult', hagrees, hextends.keeps _ hd.audit, hextends'.keeps _ hd.audit', hlogs⟩

/-- Records cannot tell such disks apart, and what is done to records or noted keeps them so. -/
theorem sameRecords_agreesOnOwn (s : Storage) : s.SameRecords s.layout.AgreesOnOwn := by
  have hsame := sameRecords_agreesOn (Layout.decidesRecords_ofRecords s.layout)
  exact
    { create := fun r d d' hd => by
        obtain ⟨hresult, hagrees⟩ := hsame.create r d d' hd.toAgreesOn
        exact ⟨hresult, hd.of_keepsAudit hagrees (keepsAudit_createRecord hd.auditAt r)
          (keepsAudit_createRecord hd.auditAt' r)⟩
      update := fun r d d' hd => by
        obtain ⟨hresult, hagrees⟩ := hsame.update r d d' hd.toAgreesOn
        exact ⟨hresult, hd.of_keepsAudit hagrees (s.keepsAudit_updateRecord r d)
          (s.keepsAudit_updateRecord r d')⟩
      delete := fun kind id d d' hd => by
        obtain ⟨hresult, hagrees⟩ := hsame.delete kind id d d' hd.toAgreesOn
        exact ⟨hresult, hd.of_keepsAudit hagrees (s.keepsAudit_deleteRecord kind id d)
          (s.keepsAudit_deleteRecord kind id d')⟩
      log := fun e d d' hd => (s.coupled_log e d d' hd).2
      getRecord_eq := fun kind id d d' hd => hsame.getRecord_eq kind id d d' hd.toAgreesOn
      listRecords_eq := fun keep d d' hd => hsame.listRecords_eq keep d d' hd.toAgreesOn
      hasRecord_eq := fun kind id d d' hd => hsame.hasRecord_eq kind id d d' hd.toAgreesOn }

end Storage

/-! ## Reading logs -/

namespace Audit

theorem readDay_eq (hd : s.layout.AgreesOnOwn d d') (day : Date) :
    readDay s day d' = readDay s day d := by
  rw [readDay, readDay, Storage.readBytes, Storage.readBytes, logPath,
    hd.logs.readFile_eq hd.auditAt hd.auditAt' day]

/-! What is read depends on the logs of single days alone. -/

variable (h : ∀ day, readDay s day d' = readDay s day d)

include h

theorem readEvents_congr (date : String) : readEvents s date d' = readEvents s date d := by
  rw [readEvents, readEvents]
  cases readDate "audit" date with
  | error e => rw [error_bind, error_bind]
  | ok day => rw [ok_bind, ok_bind, h day]

theorem addDay_congr (events : List Event) (day : Date) :
    addDay s d' events day = addDay s d events day := by
  rw [addDay, addDay, readEvents_congr h]

theorem readFrom_congr (last current : Date) (events : List Event) :
    readFrom s d' last current events = readFrom s d last current events := by
  fun_induction readFrom s d last current events with
  | case1 current events hle ih =>
    rw [readFrom, if_pos hle, addDay_congr h]
    apply bind_congr
    intro read
    split
    next next hnext => rw [ih read next hnext]
    next hnone => rfl
  | case2 current events hle => rw [readFrom, if_neg hle]

theorem readRange_congr (start finish : String) :
    readRange s start finish d' = readRange s start finish d := by
  rw [readRange, readRange]
  simp only [readFrom_congr h]

theorem readByUser_congr (user date : String) :
    readByUser s user date d' = readByUser s user date d := by
  rw [readByUser, readByUser, readEvents_congr h]

theorem readByResource_congr (resourceType resourceId date : String) :
    readByResource s resourceType resourceId date d' =
      readByResource s resourceType resourceId date d := by
  rw [readByResource, readByResource, readEvents_congr h]

end Audit

end SealedVault
