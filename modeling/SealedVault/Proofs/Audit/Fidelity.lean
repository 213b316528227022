import SealedVault.Proofs.Audit.RoundTrip
import SealedVault.Proofs.Store.AuditLogs
import SealedVault.Proofs.Vault.Sessions

/-!
# What was noted can be read

Noting events extends the logs of their days by their lines, in the order in which they were noted.
Reading a day then gives the events that its log held before, followed by those that were noted on
it. The texts of an event do not matter: none of them can break a line.
-/

namespace SealedVault.Audit

open Calendar (Date)

variable {s : Storage} {d d' : Disk} {day : Date}

/-- Notes events one after the other. -/
def logAll (s : Storage) : List Event → DiskAction Unit
  | [] => pure ()
  | e :: rest => do
    log s e
    logAll s rest

/-- The log of a day is made of complete lines that are read as these events; a log that is not
there has none. -/
def HoldsEvents (s : Storage) (day : Date) (events : List Event) (d : Disk) : Prop :=
  match s.logFile? day d with
  | some bytes => IsComplete bytes ∧ readContent bytes = .ok events
  | none => events = []

/-! ## The bytes of the logs -/

/-- Where every log can be extended, all events are noted. -/
theorem journals_logAll (h : s.AuditWritable (fun _ => True) d) (events : List Event) :
    ∃ d', logAll s events d = (.ok (), d') ∧ s.Journals (fun _ => True) events d d' := by
  induction events generalizing d with
  | nil => exact ⟨d, rfl, .refl h⟩
  | cons e rest ih =>
    obtain ⟨between, hlog, hfirst⟩ := journals_log h e trivial
    obtain ⟨d', hrest, hmore⟩ := ih hfirst.writable
    refine ⟨d', ?_, hfirst.trans hmore⟩
    rw [logAll, run_bind_of_ok hlog, hrest]

/-! ## Reading -/

/-- The lines of events that can be stored are complete and are read as these events. -/
theorem readContent_lineBytes {events : List Event} (h : ∀ e ∈ events, e.IsStorable) :
    readContent (lineBytes events) = .ok events := by
  induction events with
  | nil => exact readContent_nil
  | cons e rest ih =>
    have hline := readContent_line (h e List.mem_cons_self)
    have hcomplete := isComplete_append_line [] e
    have hrest := ih fun e' he' => h e' (List.mem_cons_of_mem _ he')
    rw [List.nil_append] at hcomplete
    rw [lineBytes, List.flatMap_cons]
    exact readContent_append hcomplete hline hrest

/-- A log that held some events holds these and further ones behind them. -/
theorem HoldsEvents.append {old new : List Event} (h : HoldsEvents s day old d)
    (hnew : ∀ e ∈ new, e.IsStorable) :
    readContent (s.logBytes day d ++ lineBytes new) = .ok (old ++ new) := by
  rw [HoldsEvents] at h
  rw [Storage.logBytes_eq]
  cases hfile : s.logFile? day d with
  | none =>
    rw [hfile] at h
    rw [h]
    exact readContent_lineBytes hnew
  | some bytes =>
    rw [hfile] at h
    exact readContent_append h.1 h.2 (readContent_lineBytes hnew)

theorem readEvents_of_read {date : String} (hdate : Date.read date = .ok day) (s : Storage)
    (d : Disk) : readEvents s date d = readDay s day d := by
  rw [readEvents, readDate, hdate]
  rfl

theorem readDay_of_logFile? (h : s.AuditWritable (fun _ => True) d) (day : Date) :
    readDay s day d =
      match s.logFile? day d with
      | some bytes => readContent bytes
      | none => .error (.notFound Disk.Fault.missing.message) := by
  rw [readDay, Storage.readBytes_auditLog h trivial]
  cases s.logFile? day d <;> rfl

/-- Events that can be stored are read back. Wherever every log can be extended and every log that
is there is made of complete lines that can be read, all of the events are noted, and for each day
the events that its log held before are read, followed by those that were noted on it, in their
order. There is nothing to be read of a day whose log was not there and on which nothing was noted.
The other days read as they did, and what each log held stays at its beginning. -/
theorem events_read_back (s : Storage) (d : Disk) (history : Date → List Event)
    (events : List Event) (hwritable : s.AuditWritable (fun _ => True) d)
    (hhistory : ∀ day, HoldsEvents s day (history day) d)
    (hevents : ∀ e ∈ events, e.IsStorable) :
    ∃ d', logAll s events d = (.ok (), d') ∧
      (∀ date day, Date.read date = .ok day →
        readEvents s date d' =
          if s.logFile? day d = none ∧ onDay day events = [] then
            .error (.notFound Disk.Fault.missing.message)
          else .ok (history day ++ onDay day events)) ∧
      ((∀ day, s.logFile? day d ≠ none → history day ≠ []) →
        ∀ date day, Date.read date = .ok day → history day ++ onDay day events = [] →
          readEvents s date d' = .error (.notFound Disk.Fault.missing.message)) ∧
      (∀ date day, Date.read date = .ok day → (∀ e ∈ events, e.timestamp.date ≠ day) →
        readEvents s date d' = readEvents s date d) ∧
      ∀ day, s.logBytes day d <+: s.logBytes day d' := by
  obtain ⟨d', hlogged, hjournals⟩ := journals_logAll hwritable events
  have hread (date : String) (day : Date) (hdate : Date.read date = .ok day) :
      readEvents s date d' =
        if s.logFile? day d = none ∧ onDay day events = [] then
          .error (.notFound Disk.Fault.missing.message)
        else .ok (history day ++ onDay day events) := by
    have hnew : ∀ e ∈ onDay day events, e.IsStorable :=
      fun e he => hevents e (List.mem_of_mem_filter he)
    have hcontent := (hhistory day).append hnew
    rw [readEvents_of_read hdate, readDay_of_logFile? hjournals.writable,
      hjournals.file]
    by_cases hnil : onDay day events = []
    · have hold := hhistory day
      rw [HoldsEvents] at hold
      rw [if_pos hnil, hnil, List.append_nil]
      cases hfile : s.logFile? day d with
      | none => rw [if_pos ⟨rfl, rfl⟩]
      | some bytes =>
        rw [hfile] at hold
        rw [if_neg (by simp)]
        exact hold.2
    · rw [if_neg hnil, if_neg fun hnone => hnil hnone.2]
      exact hcontent
  refine ⟨d', hlogged, hread, ?_, ?_, hjournals.logBytes_prefix⟩
  · intro hnonempty date day hdate hnone
    obtain ⟨hold, hnew⟩ := List.append_eq_nil_iff.mp hnone
    have hfile : s.logFile? day d = none := by
      by_contra hsome
      exact hnonempty day hsome hold
    rw [hread date day hdate, if_pos ⟨hfile, hnew⟩]
  · intro date day hdate hothers
    rw [readEvents_of_read hdate, readEvents_of_read hdate,
      readDay_of_logFile? hjournals.writable, readDay_of_logFile? hwritable, hjournals.file,
      if_pos (onDay_eq_nil_iff.mpr hothers)]

/-- An event with line ends, quotes and nested details in it. -/
def sampleEvent : Event :=
  { Event.plain "event\n1" Session.sampleInstant .recordRead with
    user := some "\"\u2028\"\n\x7b\x7d"
    resourceId := some "\x00"
    details := some (.object
      [("count", .array [.number (.int (-1)), .null]), ("text", .text "\r\n")]) }

theorem isStorable_sampleEvent : sampleEvent.IsStorable := by
  intro details hdetails
  cases hdetails
  have hint : Json.IsMachineInt (-1) := by decide
  exact ⟨nofun, by decide, by decide, ⟨by decide, hint, trivial, trivial⟩, trivial, trivial⟩

/-- Nothing stands in a new audit directory. -/
theorem auditView_sampleDisk {rest : List String} (h : rest ≠ []) :
    Layout.auditView (Layout.base ⟨⟨"/data"⟩⟩) Session.sampleDisk rest = none := by
  have hnone : ∀ entry ∈ Session.sampleDisk.toList,
      ["data", "audit"].isPrefixOf entry.1 → entry.1.length ≤ 2 := by
    decide +kernel
  have hbase : Layout.base ⟨⟨"/data"⟩⟩ = ["data"] := by decide
  by_contra hsome
  obtain ⟨e, he⟩ := Option.ne_none_iff_exists'.mp hsome
  rw [Layout.auditView, Layout.auditPlace, hbase] at he
  have hlength := hnone _ (Disk.mem_toList.mpr ⟨by simp, he⟩) (by simp)
  cases rest with
  | nil => exact h rfl
  | cons name more =>
    simp only [List.length_append, List.length_cons] at hlength
    omega

theorem auditWritable_sampleDisk (days : Date → Prop) :
    Storage.AuditWritable ⟨⟨⟨"/data"⟩⟩, true⟩ days Session.sampleDisk := by
  obtain ⟨-, -, base, hready⟩ := Storage.readyAt_of_prepare Session.prepare_sampleDisk
  obtain rfl := hready.auditReadyAt.stands.base_eq
  exact Storage.auditWritable_of_empty hready.auditReadyAt (by decide) (by decide)
    fun _ => auditView_sampleDisk

/-- In a new data directory the event is the only one of its day afterwards. -/
theorem sample_event_read_back :
    ∃ d', logAll ⟨⟨⟨"/data"⟩⟩, true⟩ [sampleEvent] Session.sampleDisk = (.ok (), d') ∧
      readEvents ⟨⟨⟨"/data"⟩⟩, true⟩ "1970-01-01" d' = .ok [sampleEvent] := by
  have hnofile (day : Date) :
      Storage.logFile? ⟨⟨⟨"/data"⟩⟩, true⟩ day Session.sampleDisk = none := by
    have hview := auditView_sampleDisk (List.cons_ne_nil day.text [logName])
    rw [Storage.logFile?, Disk.fileAt?]
    rw [Layout.auditView] at hview
    rw [hview]
  obtain ⟨d', hlogged, hread, -⟩ := events_read_back ⟨⟨⟨"/data"⟩⟩, true⟩ Session.sampleDisk
    (fun _ => []) [sampleEvent] (auditWritable_sampleDisk _)
    (fun day => by rw [HoldsEvents, hnofile])
    (by simpa using isStorable_sampleEvent)
  have hdate : Date.read "1970-01-01" = .ok Session.sampleInstant.date :=
    Date.read_text Session.sampleInstant.date
  have hevents := hread "1970-01-01" _ hdate
  rw [if_neg fun hnone => List.cons_ne_nil _ _ hnone.2] at hevents
  exact ⟨d', hlogged, hevents⟩

end SealedVault.Audit
