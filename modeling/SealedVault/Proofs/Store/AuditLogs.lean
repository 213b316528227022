import SealedVault.Proofs.Store.Footprints

/-!
# Audit logs that can be extended

Whether the log of a day can be extended follows from what stands in the audit directory, and
extending one log makes no other one worse. So an audit directory in which some logs can be extended
stays one, whatever is noted in them and whatever happens to records beside it.
-/

namespace SealedVault

open Calendar (Date)
open Disk (KeepsDirectories checkPath nameLimit)
open Layout (AuditAt DayFits ExtendsAudit auditPlace auditView recordPlace)
open SealedVault.Path (IsName)

variable {s : Storage} {base : Place} {d d' d'' : Disk} {day : Date} {days : Date → Prop}

/-! ## What can be extended -/

namespace Layout

variable {l : Layout} {name : String}

/-- Whether the directory of a day is there or can be made, by what stands below the audit
directory. -/
def dayResult (l : Layout) (name : String) (view : List String → Option Entry) :
    Except Disk.Fault Unit :=
  (checkPath (l.auditDay name)).bind fun _ =>
    if nameLimit < name.utf8ByteSize then .error .tooLong
    else
      match view [name] with
      | some (.file _) => .error .fileExists
      | _ => .ok ()

/-- Whether the log of a day can be extended, and why not. -/
def extendResult (l : Layout) (name : String) (view : List String → Option Entry) :
    Except Disk.Fault Unit :=
  (l.dayResult name view).bind fun _ =>
    (checkPath (l.auditLog name)).bind fun _ =>
      match view [name, logName] with
      | some .directory => .error .isDirectory
      | _ => .ok ()

theorem dayResult_eq_ok_iff :
    l.dayResult name (auditView base d) = .ok () ↔ l.DayFits base name d := by
  have hfits : l.DayFits base name d ↔ checkPath (l.auditDay name) = .ok () ∧
      ¬nameLimit < name.utf8ByteSize ∧
        ∀ bytes, d.get? (auditPlace base [name]) ≠ some (.file bytes) :=
    ⟨fun h => ⟨h.checkDay, h.short, h.ne_file⟩, fun h => ⟨h.1, h.2.1, h.2.2⟩⟩
  rw [hfits, dayResult, auditView]
  cases checkPath (l.auditDay name) with
  | error fault => simp [Except.bind]
  | ok =>
    by_cases hlong : nameLimit < name.utf8ByteSize
    · simp [Except.bind, hlong]
    · rcases d.get? (auditPlace base [name]) with _ | _ | _ <;> simp [Except.bind, hlong]

theorem makeParent_auditLog_fst (h : l.AuditAt base d) (hname : IsName name) :
    (Disk.makeParent (l.auditLog name) d).1 = l.dayResult name (auditView base d) := by
  rw [makeParent_auditLog h hname, dayResult]
  cases checkPath (l.auditDay name) with
  | error fault => rfl
  | ok =>
    simp only [Except.bind]
    rw [Disk.makeAlong, if_neg hname.ne_dots, auditPlace_append, List.nil_append, auditView]
    by_cases hlong : nameLimit < name.utf8ByteSize
    · rw [if_pos hlong, if_pos hlong]
    rw [if_neg hlong, if_neg hlong]
    cases hget : d.get? (auditPlace base [name]) with
    | some e => cases e <;> rfl
    | none =>
      have hfree : d.get? (auditPlace base [] ++ [name]) ≠ some .directory := by
        rw [auditPlace_append, List.nil_append, hget]
        simp
      obtain ⟨made, hput⟩ := Disk.exists_put? h.get?_audit hfree .directory
      simp only [hput]
      rfl

end Layout

namespace Storage

/-- Extending a log has the result that what stands below the audit directory tells. -/
theorem append_auditLog_fst {name : String} (h : s.AuditReadyAt base d) (hname : IsName name)
    (bytes : List UInt8) :
    (s.append (s.layout.auditLog name) bytes d).1 =
      (s.layout.extendResult name (auditView base d)).mapError .ofFault := by
  have hready : DiskAction.ask (fun _ => s.checkReady) d = (.ok (), d) := by
    rw [DiskAction.ask, h.checkReady_eq]
  have hresult := Layout.makeParent_auditLog_fst h.stands hname
  rw [append, run_bind_of_ok hready, Layout.extendResult, ← hresult]
  rcases Layout.makeParent_auditLog_cases h.stands hname with
    ⟨-, fault, hmake⟩ | ⟨hfits, made, hmake, hmade⟩
  · have hfails : DiskAction.make (Disk.makeParent (s.layout.auditLog name)) d =
        (.error (.ofFault fault), d) := by
      rw [DiskAction.make, hmake]
      rfl
    rw [run_bind_of_error hfails, hmake]
    rfl
  have hmakes : DiskAction.make (Disk.makeParent (s.layout.auditLog name)) d = (.ok (), made) := by
    rw [DiskAction.make, hmake]
    rfl
  have hdir : made.get? (auditPlace base [name]) = some .directory := by
    rw [hmade.view, Function.update_self]
  have hlog : made.get? (auditPlace base [name, logName]) =
      d.get? (auditPlace base [name, logName]) := by
    rw [hmade.view, Function.update_of_ne (by simp)]
    rfl
  have hwrite (new : List UInt8)
      (hfree : d.get? (auditPlace base [name, logName]) ≠ some .directory) :
      ∃ d', made.writeAt (auditPlace base [name, logName]) new = .ok d' := by
    have hplace : made.get? (auditPlace base [name] ++ [logName]) ≠ some .directory := by
      rwa [Layout.auditPlace_append, List.singleton_append, hlog]
    obtain ⟨d', hput⟩ := Disk.exists_put? hdir hplace (.file new)
    exact ⟨d', by rw [Layout.writeAt_auditLog, hput]⟩
  rw [run_bind_of_ok hmakes, hmake, DiskAction.change, Layout.appendFile_auditLog
    (h.stands.of_keepsDirectories hmade.keeps) hname hfits.short hdir, hlog]
  cases checkPath (s.layout.auditLog name) with
  | error fault => rfl
  | ok =>
    simp only [Except.bind, auditView]
    cases hget : d.get? (auditPlace base [name, logName]) with
    | none =>
      obtain ⟨d', hd'⟩ := hwrite bytes (by simp [hget])
      simp only [hd']
      rfl
    | some e =>
      cases e with
      | directory => rfl
      | file old =>
        obtain ⟨d', hd'⟩ := hwrite (old ++ bytes) (by simp [hget])
        simp only [hd']
        rfl

/-- Extending a log succeeds if its path can be followed, and neither a file nor a directory is in
the way. -/
theorem append_auditLog_eq_ok_iff {name : String} (h : s.AuditReadyAt base d) (hname : IsName name)
    (bytes : List UInt8) :
    (s.append (s.layout.auditLog name) bytes d).1 = .ok () ↔
      s.layout.DayFits base name d ∧ checkPath (s.layout.auditLog name) = .ok () ∧
        d.get? (auditPlace base [name, logName]) ≠ some .directory := by
  rw [append_auditLog_fst h hname, Layout.extendResult, ← Layout.dayResult_eq_ok_iff]
  cases s.layout.dayResult name (auditView base d) with
  | error fault => simp [Except.bind, Except.mapError]
  | ok =>
    cases checkPath (s.layout.auditLog name) with
    | error fault => simp [Except.bind, Except.mapError]
    | ok =>
      simp only [Except.bind, auditView, true_and]
      rcases d.get? (auditPlace base [name, logName]) with _ | _ | _ <;> simp [Except.mapError]

theorem logWritable_iff (h : s.AuditReadyAt base d) :
    s.LogWritable day d ↔
      s.layout.DayFits base day.text d ∧ checkPath (s.layout.auditLog day.text) = .ok () ∧
        d.get? (auditPlace base [day.text, logName]) ≠ some .directory :=
  append_auditLog_eq_ok_iff h day.isName_text []

/-- The storage has been prepared, the audit directory is there, and the log of each of some days
can be extended. -/
structure AuditWritable (s : Storage) (days : Date → Prop) (d : Disk) : Prop where
  initialized : s.initialized = true
  directory : d.find s.layout.auditDirectory = .ok .directory
  log (day : Date) : days day → s.LogWritable day d

end Storage

/-- A directory that is found below the data directory is at its place. -/
theorem Layout.auditAt_of_find {l : Layout} (h : d.find l.auditDirectory = .ok .directory) :
    l.AuditAt l.base d := by
  obtain ⟨-, hdescend⟩ := Disk.find_eq_directory_iff.mp h
  obtain ⟨hroot, haudit⟩ := (Disk.descend_join_iff isName_audit (by decide)).mp hdescend
  exact ⟨hroot, haudit⟩

namespace Storage

theorem AuditWritable.auditReadyAt (h : s.AuditWritable days d) :
    s.AuditReadyAt s.layout.base d :=
  ⟨h.initialized, Layout.auditAt_of_find h.directory⟩

/-- Whether a log can be extended follows from what stands in the audit directory. -/
theorem AuditWritable.of_view (h : s.AuditWritable days d) (hkeeps : KeepsDirectories d d')
    (hday : ∀ day : Date, s.layout.DayFits s.layout.base day.text d →
      ∀ bytes, auditView s.layout.base d' [day.text] ≠ some (.file bytes))
    (hlog : ∀ day : Date, d.get? (auditPlace s.layout.base [day.text, logName]) ≠ some .directory →
      auditView s.layout.base d' [day.text, logName] ≠ some .directory) :
    s.AuditWritable days d' := by
  have hat := h.auditReadyAt
  refine ⟨h.initialized, Disk.find_directory_of_keepsDirectories hkeeps h.directory,
    fun day hwritable => ?_⟩
  obtain ⟨hfits, hcheck, hfree⟩ := (logWritable_iff hat).mp (h.log day hwritable)
  exact (logWritable_iff ⟨hat.initialized, hat.stands.of_keepsDirectories hkeeps⟩).mpr
    ⟨⟨hfits.checkDay, hfits.short, hday day hfits⟩, hcheck, hlog day hfree⟩

/-- A change that keeps what stands in the audit directory. -/
theorem AuditWritable.of_auditView_eq (h : s.AuditWritable days d) (hkeeps : KeepsDirectories d d')
    (hview : auditView s.layout.base d' = auditView s.layout.base d) : s.AuditWritable days d' := by
  apply h.of_view hkeeps
  · intro day hfits
    rw [hview]
    exact hfits.ne_file
  · intro day hfree
    rw [hview]
    exact hfree

end Storage

/-- A date is written with ASCII characters, none of which is a control character. -/
theorem Calendar.Date.toNat_of_mem_text {c : Char} (h : c ∈ day.text.toList) :
    0x2b ≤ c.toNat ∧ c.toNat < 128 := by
  rcases Date.mem_text h with hdigit | rfl | rfl
  · simp only [Char.isDigit, Bool.and_eq_true, decide_eq_true_eq, ge_iff_le] at hdigit
    have hlow : 48 ≤ c.toNat := hdigit.1
    have hhigh : c.toNat ≤ 57 := hdigit.2
    omega
  · decide
  · decide

theorem Calendar.Date.utf8ByteSize_text_le (day : Date) : day.text.utf8ByteSize ≤ 13 := by
  rw [Text.utf8ByteSize_of_lt fun c hc => (toNat_of_mem_text hc).2]
  exact day.length_text_le

namespace Layout

variable {l : Layout}

theorem isUnusable_auditDirectory (h : l.root.isUnusable = false) :
    l.auditDirectory.isUnusable = false :=
  Path.isUnusable_join isName_audit h (by decide)

theorem isUnusable_auditDay (h : l.root.isUnusable = false) (day : Date) :
    (l.auditDay day.text).isUnusable = false :=
  Path.isUnusable_join day.isName_text (isUnusable_auditDirectory h)
    fun hzero => absurd (Date.toNat_of_mem_text hzero).1 (by decide)

theorem checkPath_of_size {p : Path} (husable : p.isUnusable = false)
    (hsize : p.text.utf8ByteSize < Path.sizeBound) : checkPath p = .ok () := by
  rw [checkPath, husable, Path.isTooLong, decide_eq_false (by omega)]
  rfl

/-- Where the data directory has a path that is not very long, that of the audit directory fits. -/
theorem checkPath_auditDirectory (husable : l.root.isUnusable = false)
    (hshort : l.root.text.utf8ByteSize + 64 ≤ Path.sizeBound) :
    checkPath l.auditDirectory = .ok () := by
  have hsize := Path.size_join_le isName_audit l.root
  have haudit : "audit".utf8ByteSize = 5 := rfl
  rw [← auditDirectory] at hsize
  exact checkPath_of_size (isUnusable_auditDirectory husable) (by omega)

/-- So do the paths of the log of a day and of its directory. -/
theorem checkPath_auditLog (husable : l.root.isUnusable = false)
    (hshort : l.root.text.utf8ByteSize + 64 ≤ Path.sizeBound) (day : Date) :
    checkPath (l.auditDay day.text) = .ok () ∧ checkPath (l.auditLog day.text) = .ok () := by
  have haudit : "audit".utf8ByteSize = 5 := rfl
  have hlog : logName.utf8ByteSize = 12 := rfl
  have hday := day.utf8ByteSize_text_le
  have hdirSize := Path.size_join_le isName_audit l.root
  rw [← auditDirectory] at hdirSize
  have hdaySize := Path.size_join_le day.isName_text l.auditDirectory
  rw [← auditDay] at hdaySize
  have hlogSize := Path.size_join_le isName_logName (l.auditDay day.text)
  rw [← auditLog_eq] at hlogSize
  have hlogUsable : (l.auditLog day.text).isUnusable = false :=
    Path.isUnusable_join isName_logName (isUnusable_auditDay husable day) (by decide)
  exact ⟨checkPath_of_size (isUnusable_auditDay husable day) (by omega),
    checkPath_of_size hlogUsable (by omega)⟩

end Layout

namespace Storage

/-- Where the path of the data directory is not very long, an empty audit directory is writable. -/
theorem auditWritable_of_empty (h : s.AuditReadyAt s.layout.base d)
    (husable : s.layout.root.isUnusable = false)
    (hshort : s.layout.root.text.utf8ByteSize + 64 ≤ Path.sizeBound)
    (hempty : ∀ rest ≠ [], auditView s.layout.base d rest = none) : s.AuditWritable days d := by
  refine ⟨h.initialized, ?_, fun day _ => ?_⟩
  · have hwalk : d.walk s.layout.base ["audit"] = .ok (s.layout.base ++ ["audit"]) := by
      rw [Disk.walk, if_neg isName_audit.ne_dots, if_neg (by decide), if_pos rfl]
    rw [Disk.find, Disk.locate, Layout.checkPath_auditDirectory husable hshort,
      Layout.auditDirectory, Path.names_join isName_audit, Disk.walk_append, h.stands.root]
    simp only [Except.bind, hwalk, h.stands.audit]
  · obtain ⟨hcheckDay, hcheckLog⟩ := Layout.checkPath_auditLog husable hshort day
    have hnone {rest : List String} {e : Entry} (hrest : rest ≠ [])
        (hentry : d.get? (auditPlace s.layout.base rest) = some e) : False := by
      have hnothing := hempty rest hrest
      rw [auditView, hentry] at hnothing
      cases hnothing
    refine (logWritable_iff h).mpr ⟨⟨hcheckDay, ?_, fun bytes => hnone (by simp)⟩, hcheckLog,
      hnone (by simp)⟩
    have hday := day.utf8ByteSize_text_le
    rw [nameLimit]
    omega

/-! ## The logs of all days -/

/-- The bytes of the log of a day, if there is one. -/
def logFile? (s : Storage) (day : Date) (d : Disk) : Option (List UInt8) :=
  d.fileAt? (auditPlace s.layout.base [day.text, logName])

theorem logBytes_eq (s : Storage) (day : Date) (d : Disk) :
    s.logBytes day d = (s.logFile? day d).getD [] := rfl

theorem logFile?_eq_of_auditView_eq
    (hview : auditView s.layout.base d' = auditView s.layout.base d) (day : Date) :
    s.logFile? day d' = s.logFile? day d :=
  Disk.fileAt?_eq_of_get?_eq (congrFun hview [day.text, logName])

theorem readFile_auditLog (h : s.AuditReadyAt s.layout.base d) (hlog : s.LogWritable day d) :
    d.readFile (s.layout.auditLog day.text) =
      match s.logFile? day d with
      | some bytes => .ok bytes
      | none => .error .missing := by
  obtain ⟨hfits, hcheck, hfree⟩ := (logWritable_iff h).mp hlog
  rw [Layout.readFile_auditLog_eq h.stands day.isName_text, hcheck, logFile?, Disk.fileAt?]
  simp only [Except.bind, if_neg hfits.short, auditView]
  rcases hget : d.get? (auditPlace s.layout.base [day.text]) with _ | bytes | _
  · rw [Layout.get?_log_of_none hget]
  · exact absurd hget (hfits.ne_file bytes)
  · rcases hentry : d.get? (auditPlace s.layout.base [day.text, logName]) with _ | bytes | _
    · rfl
    · rfl
    · exact absurd hentry hfree

/-- A log is read whole; where there is none, it is missing. -/
theorem readBytes_auditLog (h : s.AuditWritable days d) (hday : days day) :
    s.readBytes (Audit.logPath s day) d =
      match s.logFile? day d with
      | some bytes => .ok bytes
      | none => .error (.ofFault .missing) := by
  rw [readBytes, h.auditReadyAt.checkReady_eq, Audit.logPath,
    readFile_auditLog h.auditReadyAt (h.log day hday)]
  cases s.logFile? day d <;> rfl

end Storage

/-! ## Noting events -/

/-- Extending a log makes no directory where the log of a day belongs. -/
theorem Layout.directory_of_extendedLog {l : Layout} {name name' : String} {bytes : List UInt8}
    {view : List String → Option Entry}
    (h : extendedLog l name bytes view [name', logName] = some .directory) :
    view [name', logName] = some .directory := by
  have hfile {content : List UInt8}
      (hf : Function.update view [name, logName] (some (.file content)) [name', logName] =
        some .directory) : view [name', logName] = some .directory := by
    rw [Function.update_apply] at hf
    split at hf
    · cases hf
    · exact hf
  unfold extendedLog at h
  cases hcheck : checkPath (l.auditLog name) with
  | error fault =>
    rw [hcheck] at h
    exact h
  | ok =>
    rw [hcheck] at h
    cases hold : view [name, logName] with
    | none =>
      rw [hold] at h
      exact hfile h
    | some e =>
      rw [hold] at h
      cases e with
      | file old => exact hfile h
      | directory => exact h

/-- Nor does the directory of its day, which is made before. -/
theorem Layout.directory_of_extendedAudit {l : Layout} {name name' : String} {bytes : List UInt8}
    {view : List String → Option Entry}
    (h : l.extendedAudit name bytes view [name', logName] = some .directory) :
    view [name', logName] = some .directory := by
  have hmade : Function.update view [name] (some .directory) [name', logName] =
      view [name', logName] := Function.update_of_ne (by simp) _ _
  rw [extendedAudit] at h
  cases hcheck : checkPath (l.auditDay name) with
  | error fault =>
    rw [hcheck] at h
    exact h
  | ok =>
    rw [hcheck] at h
    by_cases hlong : nameLimit < name.utf8ByteSize
    · simp only [if_pos hlong] at h
      exact h
    simp only [if_neg hlong] at h
    rw [← hmade]
    cases hday : view [name] with
    | none =>
      rw [hday] at h
      exact directory_of_extendedLog h
    | some e =>
      rw [hday] at h
      cases e with
      | file old => rwa [hmade]
      | directory => exact directory_of_extendedLog h

namespace Audit

/-- The events of a day, in the order in which they were noted. -/
def onDay (day : Date) (events : List Event) : List Event :=
  events.filter fun e => e.timestamp.date = day

/-- The lines of events, one after the other. -/
def lineBytes (events : List Event) : List UInt8 := events.flatMap fun e => Text.utf8Bytes e.line

theorem onDay_eq_nil_iff {events : List Event} :
    onDay day events = [] ↔ ∀ e ∈ events, e.timestamp.date ≠ day := by
  simp [onDay, List.filter_eq_nil_iff]

theorem onDay_append (day : Date) (events more : List Event) :
    onDay day (events ++ more) = onDay day events ++ onDay day more :=
  List.filter_append ..

theorem lineBytes_append (events more : List Event) :
    lineBytes (events ++ more) = lineBytes events ++ lineBytes more :=
  List.flatMap_append

end Audit

open Audit (lineBytes onDay)

namespace Storage

/-- Each log grew by the lines of the events of its day, and not at all if there are none. The logs
of some days can still be extended. -/
structure Journals (s : Storage) (days : Date → Prop) (events : List Audit.Event) (d d' : Disk) :
    Prop where
  writable : s.AuditWritable days d'
  file (day : Date) : s.logFile? day d' =
    if onDay day events = [] then s.logFile? day d
    else some (s.logBytes day d ++ lineBytes (onDay day events))

theorem Journals.of_auditView_eq (h : s.AuditWritable days d) (hkeeps : KeepsDirectories d d')
    (hview : auditView s.layout.base d' = auditView s.layout.base d) : s.Journals days [] d d' :=
  ⟨h.of_auditView_eq hkeeps hview, logFile?_eq_of_auditView_eq hview⟩

theorem Journals.refl (h : s.AuditWritable days d) : s.Journals days [] d d := ⟨h, fun _ => rfl⟩

theorem Journals.logBytes_eq {events : List Audit.Event} (h : s.Journals days events d d')
    (day : Date) : s.logBytes day d' = s.logBytes day d ++ lineBytes (onDay day events) := by
  rw [Storage.logBytes_eq s day d', h.file]
  by_cases hnil : onDay day events = []
  · rw [if_pos hnil, hnil, Storage.logBytes_eq]
    exact (List.append_nil _).symm
  · rw [if_neg hnil]
    rfl

/-- What a log held before is where it was. -/
theorem Journals.logBytes_prefix {events : List Audit.Event} (h : s.Journals days events d d')
    (day : Date) : s.logBytes day d <+: s.logBytes day d' := by
  rw [h.logBytes_eq]
  exact List.prefix_append _ _

theorem Journals.trans {events more : List Audit.Event} (h : s.Journals days events d d')
    (h' : s.Journals days more d' d'') : s.Journals days (events ++ more) d d'' := by
  refine ⟨h'.writable, fun day => ?_⟩
  rw [h'.file, h.logBytes_eq, h.file, Audit.onDay_append]
  by_cases hmore : onDay day more = []
  · rw [if_pos hmore, hmore, List.append_nil]
  · rw [if_neg hmore, if_neg fun hnil => hmore (List.append_eq_nil_iff.mp hnil).2,
      Audit.lineBytes_append, List.append_assoc]

end Storage

/-- An event is noted where the log of its day can be extended. -/
theorem Audit.journals_log (h : s.AuditWritable days d) (e : Audit.Event)
    (hday : days e.timestamp.date) :
    ∃ d', Audit.log s e d = (.ok (), d') ∧ s.Journals days [e] d d' := by
  have hat := h.auditReadyAt
  obtain ⟨hfits, hcheck, hfree⟩ := (Storage.logWritable_iff hat).mp (h.log _ hday)
  have hok : (Audit.log s e d).1 = .ok () :=
    (Storage.append_auditLog_eq_ok_iff hat e.timestamp.date.isName_text _).mpr
      ⟨hfits, hcheck, hfree⟩
  have hextends := Storage.extendsAudit_append hat e.timestamp.date.isName_text
    (Text.utf8Bytes e.line)
  rcases Audit.log_footprint s e d with ⟨error, m, hlog, -⟩ | ⟨d', hlog, hsets⟩
  · rw [hlog] at hok
    cases hok
  have hsnd : (s.append (s.layout.auditLog e.timestamp.date.text) (Text.utf8Bytes e.line) d).2 =
      d' := congrArg Prod.snd hlog
  rw [hsnd] at hextends
  refine ⟨d', hlog, ?_, fun day => ?_⟩
  · apply h.of_view hextends.keeps
    · intro day hdayFits bytes hfile
      have hsame := hsets (auditPlace s.layout.base [day.text])
      rw [if_neg (by simp [Layout.auditPlace_inj]), Disk.fileAt?_eq_some_iff.mpr hfile] at hsame
      exact hdayFits.ne_file bytes (Disk.fileAt?_eq_some_iff.mp hsame.symm)
    · intro day hdayFree hdir
      rw [auditView, hextends.view] at hdir
      exact hdayFree (Layout.directory_of_extendedAudit hdir)
  · have hday : onDay day [e] = if e.timestamp.date = day then [e] else [] := by
      simp [onDay, List.filter_cons]
    rw [Storage.logFile?, hsets, hday]
    by_cases hsame : e.timestamp.date = day
    · rw [if_pos hsame, if_pos (by rw [hsame]), if_neg (List.cons_ne_nil _ _), hsame]
      simp [lineBytes, Storage.logBytes]
    · have hne : auditPlace s.layout.base [day.text, logName] ≠
          auditPlace s.layout.base [e.timestamp.date.text, logName] := by
        rw [ne_eq, Layout.auditPlace_inj]
        exact fun heq => hsame (Date.text_injective (List.cons.inj heq).1).symm
      rw [if_neg hsame, if_neg hne]
      rfl

end SealedVault
