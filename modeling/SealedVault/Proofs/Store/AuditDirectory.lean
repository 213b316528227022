import SealedVault.Audit.Log
import SealedVault.Proofs.Results
import SealedVault.Proofs.Store.Shelves

/-!
# The audit directory

Adding an event to an audit log changes nothing outside the audit directory, and what stands in the
audit directory afterwards depends on nothing but what stood there before.
-/

namespace SealedVault

open Disk (Fault KeepsDirectories checkPath nameLimit)
open SealedVault.Path (IsName)

/-! ## Days as names -/

namespace Calendar.Date

theorem mem_text {day : Calendar.Date} {c : Char} (h : c ∈ day.text.toList) :
    c.isDigit = true ∨ c = '-' ∨ c = '+' := by
  have hyear (n : Nat) (hc : c ∈ yearDigits n) : c.isDigit = true :=
    isDigit_of_mem_fixedDigits hc
  simp only [text, String.toList_ofList, toChars, yearChars, List.mem_append, List.mem_cons] at h
  rcases h with (h | rfl | h) | rfl | h
  · split at h
    · exact Or.inl (hyear _ h)
    split at h
    · rcases List.mem_cons.mp h with rfl | h
      · exact Or.inr (Or.inl rfl)
      · exact Or.inl (hyear _ h)
    · rcases List.mem_cons.mp h with rfl | h
      · exact Or.inr (Or.inr rfl)
      · exact Or.inl (hyear _ h)
  · exact Or.inr (Or.inl rfl)
  · exact Or.inl (isDigit_of_mem_fixedDigits h)
  · exact Or.inr (Or.inl rfl)
  · exact Or.inl (isDigit_of_mem_fixedDigits h)

theorem isName_text (day : Calendar.Date) : IsName day.text := by
  refine isName_of_mem (c := '-') ?_ (by decide) ?_
  · simp [text, toChars]
  · intro h
    rcases mem_text h with h | h | h
    · exact absurd h (by decide)
    · exact absurd h (by decide)
    · exact absurd h (by decide)

/-- A date is written with thirteen characters at most, six of them for the digits of the year. -/
theorem length_text_le (day : Calendar.Date) : day.text.toList.length ≤ 13 := by
  have hyear (n : Nat) : (yearDigits n).length ≤ 6 := by
    rw [yearDigits, length_fixedDigits]
    split
    · decide
    · split <;> decide
  have hchars : (yearChars day.year).length ≤ 7 := by
    unfold yearChars
    split
    · exact Nat.le_succ_of_le (hyear _)
    split
    · exact Nat.succ_le_succ (hyear _)
    · exact Nat.succ_le_succ (hyear _)
  simp only [text, String.toList_ofList, toChars, List.length_append, List.length_cons,
    length_fixedDigits]
  omega

end Calendar.Date

/-- The path of the data directory leads to the place `base`, and the audit directory is there. -/
structure Layout.AuditAt (l : Layout) (base : Place) (d : Disk) : Prop where
  root : d.descend [] l.root.names = .ok base
  audit : d.get? (base ++ ["audit"]) = some .directory

/-- The storage has been prepared, and its audit directory is in the directory at `base`. -/
structure Storage.AuditReadyAt (s : Storage) (base : Place) (d : Disk) : Prop where
  initialized : s.initialized = true
  stands : s.layout.AuditAt base d

theorem Storage.ReadyAt.auditReadyAt {s : Storage} {base : Place} {d : Disk}
    (h : s.ReadyAt base d) : s.AuditReadyAt base d :=
  ⟨h.initialized, h.stands.root, h.stands.audit⟩

theorem Storage.AuditReadyAt.checkReady_eq {s : Storage} {base : Place} {d : Disk}
    (h : s.AuditReadyAt base d) : s.checkReady = .ok () := by
  rw [checkReady, if_pos h.initialized]

/-- The name of the log in the directory of its day. -/
def logName : String := "events.jsonl"

theorem isName_logName : IsName logName := ⟨by decide, by decide, by decide, by decide⟩

namespace Layout

variable {l : Layout} {base : Place} {d d' : Disk} {day : String}

theorem auditLog_eq (l : Layout) (day : String) :
    l.auditLog day = (l.auditDay day).join logName := rfl

/-- The place of what is named by `rest` below the audit directory. -/
def auditPlace (base : Place) (rest : List String) : Place := base ++ "audit" :: rest

theorem auditPlace_append (base : Place) (rest more : List String) :
    auditPlace base rest ++ more = auditPlace base (rest ++ more) := by
  simp [auditPlace]

theorem auditPlace_inj {rest rest' : List String} :
    auditPlace base rest = auditPlace base rest' ↔ rest = rest' := by
  simp [auditPlace]

theorem recordPlace_ne_auditPlace (kind : Kind) (id : String) (rest : List String) :
    recordPlace base kind id ≠ auditPlace base rest := by
  simp [recordPlace, auditPlace, directory_ne_audit]

theorem AuditAt.of_keepsDirectories
    (h : l.AuditAt base d) (hkeeps : KeepsDirectories d d') : l.AuditAt base d' where
  root := Disk.descend_of_keepsDirectories hkeeps h.root
  audit := hkeeps _ h.audit

theorem AuditAt.get?_audit (h : l.AuditAt base d) :
    d.get? (auditPlace base []) = some .directory := h.audit

theorem names_auditDay (hday : IsName day) :
    (l.auditDay day).names = l.root.names ++ ["audit", day] := by
  rw [auditDay, Path.names_join hday, auditDirectory, Path.names_join isName_audit]
  simp

theorem names_auditLog (hday : IsName day) :
    (l.auditLog day).names = l.root.names ++ ["audit", day, logName] := by
  rw [auditLog_eq, Path.names_join isName_logName, names_auditDay hday]
  simp

theorem walk_audit (h : l.AuditAt base d) (rest : List String) (hrest : rest ≠ []) :
    d.walk [] (l.root.names ++ "audit" :: rest) = d.walk (auditPlace base []) rest := by
  rw [Disk.walk_append, h.root, Except.bind, Disk.walk, if_neg isName_audit.ne_dots,
    if_neg (by decide), if_neg hrest, h.audit]
  rfl

theorem locate_auditLog (h : l.AuditAt base d) (hday : IsName day) :
    d.locate (l.auditLog day) =
      (checkPath (l.auditLog day)).bind fun _ =>
        if nameLimit < day.utf8ByteSize then .error .tooLong
        else
          match d.get? (auditPlace base [day]) with
          | some .directory => .ok (auditPlace base [day, logName])
          | some (.file _) => .error .notDirectory
          | none => .error .missing := by
  have hlast : d.walk (auditPlace base [day]) [logName] = .ok (auditPlace base [day, logName]) := by
    rw [Disk.walk, if_neg isName_logName.ne_dots, if_neg (by decide), if_pos rfl,
      auditPlace_append]
    rfl
  have hwalk : d.walk (auditPlace base []) [day, logName] =
      if nameLimit < day.utf8ByteSize then .error .tooLong
      else
        match d.get? (auditPlace base [day]) with
        | some .directory => .ok (auditPlace base [day, logName])
        | some (.file _) => .error .notDirectory
        | none => .error .missing := by
    rw [Disk.walk, if_neg hday.ne_dots, if_neg (List.cons_ne_nil _ _), auditPlace_append,
      List.nil_append]
    by_cases hlong : nameLimit < day.utf8ByteSize
    · rw [if_pos hlong, if_pos hlong]
    · rw [if_neg hlong, if_neg hlong]
      rcases d.get? (auditPlace base [day]) with _ | _ | _
      · rfl
      · rfl
      · exact hlast
  rw [Disk.locate, names_auditLog hday, walk_audit h _ (List.cons_ne_nil _ _), hwalk]

theorem makeParent_auditLog (h : l.AuditAt base d) (hday : IsName day) :
    Disk.makeParent (l.auditLog day) d =
      match checkPath (l.auditDay day) with
      | .error fault => (.error fault, d)
      | .ok _ => Disk.makeAlong .notDirectory .fileExists (auditPlace base []) [day] d := by
  have hparent : (l.auditLog day).parent = l.auditDay day :=
    Path.parent_join_join hday isName_logName _
  have hdot : (l.auditDay day).endsInDot = false := Path.endsInDot_join hday _
  have haudit : Disk.makeAlong .notDirectory .fileExists base ["audit", day] d =
      Disk.makeAlong .notDirectory .fileExists (auditPlace base []) [day] d := by
    rw [Disk.makeAlong, if_neg isName_audit.ne_dots, if_neg (by decide), h.audit]
    rfl
  rw [Disk.makeParent, hparent, Disk.makeDirectory, hdot, names_auditDay hday]
  simp only [Bool.false_eq_true, if_false]
  cases checkPath (l.auditDay day) with
  | error fault => rfl
  | ok => exact (Disk.makeAlong_of_descend h.root).trans haudit

/-! ## What is written -/

/-- What stands below the audit directory after the log of a day was extended in the directory of
the day. -/
def extendedLog (l : Layout) (day : String) (bytes : List UInt8)
    (view : List String → Option Entry) : List String → Option Entry :=
  match checkPath (l.auditLog day) with
  | .error _ => view
  | .ok _ =>
    match view [day, logName] with
    | some .directory => view
    | some (.file old) => Function.update view [day, logName] (some (.file (old ++ bytes)))
    | none => Function.update view [day, logName] (some (.file bytes))

/-- The same when the directory of the day is made first. -/
def extendedAudit (l : Layout) (day : String) (bytes : List UInt8)
    (view : List String → Option Entry) : List String → Option Entry :=
  match checkPath (l.auditDay day) with
  | .error _ => view
  | .ok _ =>
    if nameLimit < day.utf8ByteSize then view
    else
      match view [day] with
      | some (.file _) => view
      | _ => extendedLog l day bytes (Function.update view [day] (some .directory))

/-- A change of the disk below the audit directory that keeps all directories. -/
structure AuditOnly (base : Place) (d d' : Disk) : Prop where
  keeps : KeepsDirectories d d'
  frame (q : Place) : (∀ rest, q ≠ auditPlace base rest) → d'.get? q = d.get? q

/-- Such a change after which `view` stands below the audit directory. -/
structure ExtendsAudit (base : Place) (view : List String → Option Entry) (d d' : Disk) : Prop
    extends AuditOnly base d d' where
  view (rest : List String) : d'.get? (auditPlace base rest) = view rest

theorem AuditOnly.refl (base : Place) (d : Disk) : AuditOnly base d d :=
  ⟨.refl d, fun _ _ => rfl⟩

theorem AuditOnly.trans {d'' : Disk} (h : AuditOnly base d d') (h' : AuditOnly base d' d'') :
    AuditOnly base d d'' :=
  ⟨h.keeps.trans h'.keeps, fun q hq => (h'.frame q hq).trans (h.frame q hq)⟩

theorem AuditOnly.get?_recordPlace (h : AuditOnly base d d') (kind : Kind) (id : String) :
    d'.get? (recordPlace base kind id) = d.get? (recordPlace base kind id) :=
  h.frame _ (recordPlace_ne_auditPlace kind id)

/-- What stands below the audit directory. -/
def auditView (base : Place) (d : Disk) (rest : List String) : Option Entry :=
  d.get? (auditPlace base rest)

theorem ExtendsAudit.refl (base : Place) (d : Disk) : ExtendsAudit base (auditView base d) d d :=
  ⟨.refl base d, fun _ => rfl⟩

theorem ExtendsAudit.put?
    {view : List String → Option Entry} {between : Disk} {rest : List String} {name : String}
    {e : Entry} (h : ExtendsAudit base view d between)
    (hput : between.put? (auditPlace base rest) name e = some d') :
    ExtendsAudit base (Function.update view (rest ++ [name]) (some e)) d d' where
  keeps := h.keeps.trans (Disk.keepsDirectories_of_put? hput)
  frame q hq := by
    rw [Disk.get?_of_put? hput, auditPlace_append, if_neg (hq _), h.frame q hq]
  view rest' := by
    rw [Disk.get?_of_put? hput, auditPlace_append, Function.update_apply, h.view]
    simp only [auditPlace_inj]

theorem writeAt_auditLog (d : Disk) (day : String) (bytes : List UInt8) :
    d.writeAt (auditPlace base [day, logName]) bytes =
      match d.put? (auditPlace base [day]) logName (.file bytes) with
      | some d' => .ok d'
      | none => .error .isDirectory := by
  have hplace : auditPlace base [day, logName] = auditPlace base [day] ++ [logName] := by
    rw [auditPlace_append]
    rfl
  rw [Disk.writeAt, hplace, List.getLast?_concat, List.dropLast_concat]
  rfl

/-- Extending the log of a day whose directory is there. -/
theorem appendFile_auditLog
    (h : l.AuditAt base d) (hday : IsName day) (hshort : ¬nameLimit < day.utf8ByteSize)
    (hdir : d.get? (auditPlace base [day]) = some .directory) (bytes : List UInt8) :
    d.appendFile (l.auditLog day) bytes =
      (checkPath (l.auditLog day)).bind fun _ =>
        match d.get? (auditPlace base [day, logName]) with
        | some .directory => .error .isDirectory
        | some (.file old) => d.writeAt (auditPlace base [day, logName]) (old ++ bytes)
        | none => d.writeAt (auditPlace base [day, logName]) bytes := by
  have hwants : (l.auditLog day).wantsDirectory = false :=
    Path.wantsDirectory_join isName_logName _
  have hlocate := locate_auditLog h hday
  rw [hdir, if_neg hshort] at hlocate
  have hwrite (new : List UInt8) : d.writeFile (l.auditLog day) new =
      (d.locate (l.auditLog day)).bind fun place => d.writeAt place new := by
    rw [auditLog_eq]
    exact Disk.putFile_join isName_logName _ _ _
  cases hcheck : checkPath (l.auditLog day) with
  | error fault =>
    rw [hcheck] at hlocate
    rw [Disk.appendFile, hwrite, hlocate]
    rfl
  | ok =>
    rw [hcheck] at hlocate
    have hread : d.readFile (l.auditLog day) =
        match d.get? (auditPlace base [day, logName]) with
        | some .directory => .error .isDirectory
        | some (.file old) => .ok old
        | none => .error .missing := by
      rw [Disk.readFile, Disk.find, hlocate, hwants]
      simp only [Except.bind]
      rcases d.get? (auditPlace base [day, logName]) with _ | _ | _ <;> rfl
    rw [Disk.appendFile, hwrite, hread, hlocate]
    cases hget : d.get? (auditPlace base [day, logName]) with
    | none => rfl
    | some e =>
      cases e with
      | file old => rfl
      | directory => exact Disk.writeAt_of_directory hget _

/-- The directory of a day is there or can be made. -/
structure DayFits (l : Layout) (base : Place) (day : String) (d : Disk) : Prop where
  checkDay : checkPath (l.auditDay day) = .ok ()
  short : ¬nameLimit < day.utf8ByteSize
  ne_file (bytes : List UInt8) : d.get? (auditPlace base [day]) ≠ some (.file bytes)

/-- Nothing is written where the directory of the day cannot be made. -/
theorem extendedAudit_of_not_dayFits (h : ¬l.DayFits base day d) (bytes : List UInt8) :
    extendedAudit l day bytes (auditView base d) = auditView base d := by
  rw [extendedAudit]
  cases hcheck : checkPath (l.auditDay day) with
  | error fault => rfl
  | ok =>
    simp only
    by_cases hlong : nameLimit < day.utf8ByteSize
    · rw [if_pos hlong]
    rw [if_neg hlong]
    split
    next => rfl
    next hne => exact absurd ⟨hcheck, hlong, fun old hold => hne old hold⟩ h

/-- Making the directory of a day fails and changes nothing, or the directory is there. -/
theorem makeParent_auditLog_cases (h : l.AuditAt base d) (hday : IsName day) :
    (¬l.DayFits base day d ∧ ∃ fault, Disk.makeParent (l.auditLog day) d = (.error fault, d)) ∨
      (l.DayFits base day d ∧ ∃ made, Disk.makeParent (l.auditLog day) d = (.ok (), made) ∧
        ExtendsAudit base (Function.update (auditView base d) [day] (some .directory)) d made) := by
  rw [makeParent_auditLog h hday]
  cases hcheck : checkPath (l.auditDay day) with
  | error fault =>
    refine Or.inl ⟨fun hfits => ?_, fault, rfl⟩
    rw [hfits.checkDay] at hcheck
    cases hcheck
  | ok u =>
    simp only
    rw [Disk.makeAlong, if_neg hday.ne_dots, auditPlace_append, List.nil_append]
    by_cases hlong : nameLimit < day.utf8ByteSize
    · rw [if_pos hlong]
      exact Or.inl ⟨fun hfits => hfits.short hlong, .tooLong, rfl⟩
    rw [if_neg hlong]
    cases hget : d.get? (auditPlace base [day]) with
    | none =>
      have hfree : d.get? (auditPlace base [] ++ [day]) ≠ some .directory := by
        rw [auditPlace_append, List.nil_append, hget]
        simp
      obtain ⟨made, hput⟩ := Disk.exists_put? h.get?_audit hfree .directory
      refine Or.inr ⟨⟨hcheck, hlong, by simp [hget]⟩, made, ?_, ?_⟩
      · simp only [hput]
        rfl
      · exact (ExtendsAudit.refl base d).put? hput
    | some e =>
      cases e with
      | file old => exact Or.inl ⟨fun hfits => hfits.ne_file old hget, .fileExists, rfl⟩
      | directory =>
        refine Or.inr ⟨⟨hcheck, hlong, by simp [hget]⟩, d, rfl, ?_⟩
        have hsame : Function.update (auditView base d) [day] (some .directory) =
            auditView base d := by
          rw [Function.update_eq_self_iff]
          exact hget.symm
        rw [hsame]
        exact .refl base d

end Layout

open Layout

variable {s : Storage} {base : Place} {d d' : Disk} {day : String}

/-- Adding to the log of a day whose directory is there. -/
theorem extendsAudit_appendFile {made : Disk} {view : List String → Option Entry}
    (h : s.layout.AuditAt base made) (hday : IsName day) (hshort : ¬nameLimit < day.utf8ByteSize)
    (hmade : ExtendsAudit base view d made) (hview : view [day] = some .directory)
    (bytes : List UInt8) :
    ExtendsAudit base (extendedLog s.layout day bytes view) d
      (DiskAction.change (fun d => d.appendFile (s.layout.auditLog day) bytes) made).2 := by
  have hdir : made.get? (auditPlace base [day]) = some .directory := by rw [hmade.view, hview]
  have hput (new : List UInt8)
      (hfile : made.get? (auditPlace base [day, logName]) ≠ some .directory) :
      ∃ d', made.writeAt (auditPlace base [day, logName]) new = .ok d' ∧
        ExtendsAudit base (Function.update view [day, logName] (some (.file new))) d d' := by
    have hfree : made.get? (auditPlace base [day] ++ [logName]) ≠ some .directory := by
      rw [auditPlace_append]
      exact hfile
    obtain ⟨d', hd'⟩ := Disk.exists_put? hdir hfree (.file new)
    refine ⟨d', ?_, hmade.put? hd'⟩
    rw [writeAt_auditLog, hd']
  rw [DiskAction.change, appendFile_auditLog h hday hshort hdir bytes, extendedLog,
    ← hmade.view [day, logName]]
  cases hlog : checkPath (s.layout.auditLog day) with
  | error fault => exact hmade
  | ok =>
    simp only [Except.bind]
    cases hold : made.get? (auditPlace base [day, logName]) with
    | none =>
      obtain ⟨d', hwrite, hextends⟩ := hput bytes (by rw [hold]; simp)
      simp only [hwrite]
      exact hextends
    | some e =>
      cases e with
      | directory => exact hmade
      | file old =>
        obtain ⟨d', hwrite, hextends⟩ := hput (old ++ bytes) (by rw [hold]; simp)
        simp only [hwrite]
        exact hextends

/-- Extending an audit log changes nothing but what stands below the audit directory, and that in a
way that follows from what stood there. -/
theorem Storage.extendsAudit_append
    (h : s.AuditReadyAt base d) (hday : IsName day) (bytes : List UInt8) :
    ExtendsAudit base (extendedAudit s.layout day bytes (auditView base d)) d
      (s.append (s.layout.auditLog day) bytes d).2 := by
  have hready : DiskAction.ask (fun _ => s.checkReady) d = (.ok (), d) := by
    rw [DiskAction.ask, h.checkReady_eq]
  rw [Storage.append, run_bind_of_ok hready]
  rcases makeParent_auditLog_cases h.stands hday with
    ⟨hnot, fault, hmake⟩ | ⟨hfits, made, hmake, hmade⟩
  · have hfails : DiskAction.make (Disk.makeParent (s.layout.auditLog day)) d =
        (.error (.ofFault fault), d) := by
      rw [DiskAction.make, hmake]
      rfl
    rw [run_bind_of_error hfails, extendedAudit_of_not_dayFits hnot]
    exact .refl base d
  · have hmakes : DiskAction.make (Disk.makeParent (s.layout.auditLog day)) d = (.ok (), made) := by
      rw [DiskAction.make, hmake]
      rfl
    have hview : extendedAudit s.layout day bytes (auditView base d) =
        extendedLog s.layout day bytes
          (Function.update (auditView base d) [day] (some .directory)) := by
      rw [extendedAudit, hfits.checkDay]
      simp only [if_neg hfits.short]
      split
      next old hold => exact absurd hold (hfits.ne_file old)
      next => rfl
    rw [run_bind_of_ok hmakes, hview]
    exact extendsAudit_appendFile (h.stands.of_keepsDirectories hmade.keeps) hday hfits.short hmade
      (Function.update_self ..) bytes

/-- Noting an event changes nothing but the audit directory. -/
theorem Audit.extendsAudit_log (h : s.ReadyAt base d) (e : Audit.Event) :
    ExtendsAudit base
      (extendedAudit s.layout e.timestamp.date.text (Text.utf8Bytes e.line) (auditView base d)) d
      (Audit.log s e d).2 :=
  Storage.extendsAudit_append h.auditReadyAt e.timestamp.date.isName_text _

/-! ## What is read -/

namespace Layout

variable {l : Layout}

/-- There is no log of a day where its directory is missing. -/
theorem get?_log_of_none (h : d.get? (auditPlace base [day]) = none) :
    d.get? (auditPlace base [day, logName]) = none := by
  by_contra hlog
  have hplace : d.get? (auditPlace base [day] ++ [logName]) ≠ none := by
    rwa [auditPlace_append]
  have hdirectory := Disk.get?_eq_directory_of_append hplace
  rw [h] at hdirectory
  cases hdirectory

/-- What the log of a day holds, or why it is not read, follows from what is at its place and from
whether a file is in the place of the directory of the day. -/
theorem readFile_auditLog_eq (h : l.AuditAt base d) (hday : IsName day) :
    d.readFile (l.auditLog day) =
      (checkPath (l.auditLog day)).bind fun _ =>
        if nameLimit < day.utf8ByteSize then .error .tooLong
        else
          match auditView base d [day] with
          | some (.file _) => .error .notDirectory
          | _ =>
            match auditView base d [day, logName] with
            | some (.file bytes) => .ok bytes
            | some .directory => .error .isDirectory
            | none => .error .missing := by
  have hwants : (l.auditLog day).wantsDirectory = false :=
    Path.wantsDirectory_join isName_logName _
  rw [Disk.readFile, Disk.find, locate_auditLog h hday, hwants]
  cases checkPath (l.auditLog day) with
  | error fault => rfl
  | ok =>
    by_cases hlong : nameLimit < day.utf8ByteSize
    · simp only [Except.bind, if_pos hlong]
    simp only [Except.bind, if_neg hlong, auditView]
    cases hget : d.get? (auditPlace base [day]) with
    | none => simp only [get?_log_of_none hget]
    | some e =>
      cases e with
      | file bytes => rfl
      | directory =>
        simp only
        rcases d.get? (auditPlace base [day, logName]) with _ | _ | _ <;> rfl

end Layout

/-- Reading the log of a day depends on nothing but what stands below the audit directory. -/
theorem Storage.readBytes_auditLog_congr
    (h : s.AuditReadyAt base d) (h' : s.AuditReadyAt base d') (hday : IsName day)
    (hview : auditView base d = auditView base d') :
    s.readBytes (s.layout.auditLog day) d = s.readBytes (s.layout.auditLog day) d' := by
  rw [Storage.readBytes, Storage.readBytes, readFile_auditLog_eq h.stands hday,
    readFile_auditLog_eq h'.stands hday, hview]

end SealedVault
