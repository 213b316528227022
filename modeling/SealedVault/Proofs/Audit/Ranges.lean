import SealedVault.Proofs.Audit.Fidelity
import SealedVault.Proofs.Calendar.Succession

/-!
# Reading a range of days

A range of days is read by reading each of its days, in ascending order, under the text of its date.
A day without a log adds nothing, and the first day that cannot be read ends the reading with its
failure. The walk steps beyond the last day of the range, which succeeds unless that is the last
date of the calendar: then the range is refused although each of its days was read.
-/

namespace SealedVault.Audit

open Calendar (Date lastYear)

variable {s : Storage} {d d' : Disk} {day first last : Date} {days : List Date}
  {start finish : String} {events : List Event} {e : StorageError}

/-- What a day adds to a range: what reading it gives, and nothing where it has no log. -/
def eventsOn (s : Storage) (d : Disk) (day : Date) : Except StorageError (List Event) :=
  match readEvents s day.text d with
  | .error (.notFound _) => .ok []
  | result => result

/-- The events of several days, one day after the other. -/
def readDays (s : Storage) (d : Disk) : List Date → Except StorageError (List Event)
  | [] => .ok []
  | day :: rest => do
    let events ← eventsOn s d day
    let more ← readDays s d rest
    return events ++ more

theorem readDay_eq_readEvents (s : Storage) (d : Disk) (day : Date) :
    readDay s day d = readEvents s day.text d :=
  (readEvents_of_read day.read_text s d).symm

/-! ## One day after the other -/

theorem addDay_eq (s : Storage) (d : Disk) (events : List Event) (day : Date) :
    addDay s d events day = (eventsOn s d day).map (events ++ ·) := by
  rw [addDay, eventsOn]
  cases readEvents s day.text d with
  | ok more => rfl
  | error e =>
    cases e with
    | notFound what => simp [Except.map]
    | _ => rfl

theorem readDays_cons_of_ok (h : eventsOn s d day = .ok events) (rest : List Date) :
    readDays s d (day :: rest) = (readDays s d rest).map (events ++ ·) := by
  rw [readDays, h]
  cases readDays s d rest <;> rfl

theorem readDays_cons_of_error (h : eventsOn s d day = .error e) (rest : List Date) :
    readDays s d (day :: rest) = .error e := by
  rw [readDays, h]
  rfl

/-! ## The walk -/

theorem readFrom_of_not_le (h : ¬first ≤ last) (events : List Event) :
    readFrom s d last first events = .ok events := by
  rw [readFrom, if_neg h]

/-- The walk reads a day and goes on with the day after it. -/
theorem readFrom_of_next? {next : Date} (h : first ≤ last) (hnext : first.next? = some next)
    (events : List Event) :
    readFrom s d last first events = addDay s d events first >>= readFrom s d last next := by
  rw [readFrom, if_pos h]
  apply bind_congr
  intro read
  split
  next found hfound =>
    rw [hnext] at hfound
    cases hfound
    rfl
  next hnone =>
    rw [hnext] at hnone
    cases hnone

/-- The last date of the calendar is read, but the walk cannot go on from it. -/
theorem readFrom_final (h : Date.final ≤ last) (events : List Event) :
    readFrom s d last Date.final events =
      addDay s d events Date.final >>= fun _ => .error (.serialization "Date overflow") := by
  rw [readFrom, if_pos h]
  apply bind_congr
  intro read
  have hnone : Date.final.next? = none := Date.next?_eq_none_iff.mpr rfl
  split
  next found hfound =>
    rw [hnone] at hfound
    cases hfound
  next => rfl

/-- The walk from one date to another reads the days between them. It steps beyond the last of them
in the end, and fails there if that is the last date of the calendar. -/
theorem readFrom_eq (s : Storage) (d : Disk) (first last : Date) (events : List Event) :
    readFrom s d last first events = do
      let more ← readDays s d (first.upTo last)
      if first ≤ last ∧ last.next? = none then throw (.serialization "Date overflow")
      return events ++ more := by
  fun_induction Date.upTo first last generalizing events with
  | case1 first hle ih =>
    cases hnext : first.next? with
    | some next =>
      have hend : (first ≤ last ∧ last.next? = none) ↔ (next ≤ last ∧ last.next? = none) := by
        rw [Date.next?_eq_none_iff]
        constructor
        · rintro ⟨-, rfl⟩
          exact ⟨Date.le_final next, rfl⟩
        · rintro ⟨-, rfl⟩
          exact ⟨Date.le_final first, rfl⟩
      rw [readFrom_of_next? hle hnext, addDay_eq]
      cases hday : eventsOn s d first with
      | error e =>
        rw [readDays_cons_of_error hday]
        rfl
      | ok read =>
        rw [readDays_cons_of_ok hday, Except.map, ok_bind, ih next hnext]
        cases readDays s d (next.upTo last) with
        | error e => rfl
        | ok more => simp only [Except.map, ok_bind, hend, List.append_assoc]
    | none =>
      obtain rfl := Date.next?_eq_none_iff.mp hnext
      obtain rfl : last = Date.final := le_antisymm (Date.le_final last) hle
      rw [readFrom_final hle, addDay_eq]
      cases hday : eventsOn s d Date.final with
      | error e =>
        rw [readDays_cons_of_error hday]
        rfl
      | ok read =>
        rw [readDays_cons_of_ok hday]
        simp only [Except.map, readDays, ok_bind, hle, hnext, and_self, if_true]
        rfl
  | case2 first hle =>
    have hend : ¬(first ≤ last ∧ last.next? = none) := fun h => hle h.1
    rw [readFrom_of_not_le hle, readDays, ok_bind, if_neg hend, List.append_nil]
    rfl

/-! ## The order of reading -/

/-- The days are read in their order: all of them, or up to the first that cannot be read. -/
structure ReadsInOrder (s : Storage) (d : Disk) (days : List Date)
    (result : Except StorageError (List Event)) : Prop where
  ok (events : Date → List Event) : (∀ day ∈ days, eventsOn s d day = .ok (events day)) →
    result = .ok (days.flatMap events)
  failed (day : Date) (e : StorageError) : day ∈ days → eventsOn s d day = .error e →
    (∀ earlier ∈ days, earlier < day → ∃ events, eventsOn s d earlier = .ok events) →
    result = .error e

theorem readDays_of_ok {events : Date → List Event}
    (h : ∀ day ∈ days, eventsOn s d day = .ok (events day)) :
    readDays s d days = .ok (days.flatMap events) := by
  induction days with
  | nil => rfl
  | cons day rest ih =>
    have hrest := ih fun later hlater => h later (List.mem_cons_of_mem day hlater)
    rw [readDays_cons_of_ok (h day List.mem_cons_self), hrest]
    rfl

theorem readDays_of_error (hascending : days.Pairwise (· < ·)) (hday : day ∈ days)
    (hfails : eventsOn s d day = .error e)
    (hbefore : ∀ earlier ∈ days, earlier < day → ∃ events, eventsOn s d earlier = .ok events) :
    readDays s d days = .error e := by
  induction days with
  | nil => cases hday
  | cons head rest ih =>
    rw [List.pairwise_cons] at hascending
    rcases List.mem_cons.mp hday with rfl | hlater
    · exact readDays_cons_of_error hfails rest
    · obtain ⟨events, hhead⟩ := hbefore head List.mem_cons_self (hascending.1 day hlater)
      have hrest := ih hascending.2 hlater
        fun earlier hearlier => hbefore earlier (List.mem_cons_of_mem head hearlier)
      rw [readDays_cons_of_ok hhead, hrest]
      rfl

theorem readsInOrder_readDays (hascending : days.Pairwise (· < ·)) :
    ReadsInOrder s d days (readDays s d days) :=
  ⟨fun _ => readDays_of_ok, fun _ _ => readDays_of_error hascending⟩

/-! ## Days that can be read -/

/-- There is no log of the day. -/
def HasNoLog (s : Storage) (d : Disk) (day : Date) : Prop :=
  ∃ what, readEvents s day.text d = .error (.notFound what)

/-- There is a log of the day, and it can be read. -/
def HasReadableLog (s : Storage) (d : Disk) (day : Date) : Prop :=
  ∃ events, readEvents s day.text d = .ok events

theorem eventsOn_of_noLog (h : HasNoLog s d day) : eventsOn s d day = .ok [] := by
  obtain ⟨what, hnone⟩ := h
  rw [eventsOn, hnone]

theorem eventsOn_of_readEvents (h : readEvents s day.text d = .ok events) :
    eventsOn s d day = .ok events := by
  rw [eventsOn, h]

theorem exists_eventsOn (h : HasNoLog s d day ∨ HasReadableLog s d day) :
    ∃ events, eventsOn s d day = .ok events := by
  rcases h with hnone | ⟨events, hread⟩
  · exact ⟨[], eventsOn_of_noLog hnone⟩
  · exact ⟨events, eventsOn_of_readEvents hread⟩

theorem exists_readDays (h : ∀ day ∈ days, HasNoLog s d day ∨ HasReadableLog s d day) :
    ∃ events, readDays s d days = .ok events := by
  have hread (day : Date) (hday : day ∈ days) := exists_eventsOn (h day hday)
  choose! events hevents using hread
  exact ⟨_, readDays_of_ok hevents⟩

theorem readEvents_eq (h : s.initialized = true) (d : Disk) (day : Date) :
    readEvents s day.text d =
      ((d.readFile (logPath s day)).mapError .ofFault >>= readContent) := by
  rw [← readDay_eq_readEvents, readDay, Storage.readBytes, Storage.checkReady, if_pos h, ok_bind]

theorem hasNoLog_of_missing (h : s.initialized = true)
    (hmissing : d.readFile (logPath s day) = .error .missing) : HasNoLog s d day := by
  refine ⟨Disk.Fault.missing.message, ?_⟩
  rw [readEvents_eq h, hmissing]
  rfl

theorem readEvents_of_readFile (h : s.initialized = true) {bytes : List UInt8}
    (hread : d.readFile (logPath s day) = .ok bytes) (hcontent : readContent bytes = .ok events) :
    readEvents s day.text d = .ok events := by
  rw [readEvents_eq h, hread]
  exact hcontent

/-! ## A new audit directory -/

/-- The sample event, noted when a date began. -/
def sampleEventOn (date : Date) : Event :=
  { sampleEvent with timestamp := { Session.sampleInstant with date := date } }

/-- The storage of the sample session. -/
def sampleStorage : Storage := ⟨⟨⟨"/data"⟩⟩, true⟩

theorem isStorable_sampleEventOn (date : Date) : (sampleEventOn date).IsStorable :=
  isStorable_sampleEvent

theorem logFile?_sampleDisk (day : Date) :
    sampleStorage.logFile? day Session.sampleDisk = none := by
  have hview := auditView_sampleDisk (List.cons_ne_nil day.text [logName])
  rw [Storage.logFile?, Disk.fileAt?]
  rw [Layout.auditView] at hview
  rw [sampleStorage, hview]

/-- Where nothing but some events was noted, each day can be read, and it adds those of the events
that were noted on it. -/
theorem exists_noted (events : List Event) (hevents : ∀ e ∈ events, e.IsStorable) :
    ∃ d', logAll sampleStorage events Session.sampleDisk = (.ok (), d') ∧
      ∀ day, (HasNoLog sampleStorage d' day ∨ HasReadableLog sampleStorage d' day) ∧
        eventsOn sampleStorage d' day = .ok (onDay day events) := by
  obtain ⟨d', hlogged, hjournals⟩ :=
    journals_logAll (s := sampleStorage) (auditWritable_sampleDisk _) events
  refine ⟨d', hlogged, fun day => ?_⟩
  have hwritable := hjournals.writable
  have hfile := hjournals.file day
  have hread := Storage.readFile_auditLog hwritable.auditReadyAt (hwritable.log day trivial)
  rw [hfile, logFile?_sampleDisk, Storage.logBytes_eq, logFile?_sampleDisk] at hread
  by_cases hnil : onDay day events = []
  · rw [if_pos hnil] at hread
    rw [hnil]
    have hnone := hasNoLog_of_missing rfl hread
    exact ⟨Or.inl hnone, eventsOn_of_noLog hnone⟩
  · rw [if_neg hnil] at hread
    have hcontent : readContent (lineBytes (onDay day events)) = .ok (onDay day events) :=
      readContent_lineBytes fun e he => hevents e (List.mem_of_mem_filter he)
    have hevents := readEvents_of_readFile rfl hread hcontent
    exact ⟨Or.inr ⟨_, hevents⟩, eventsOn_of_readEvents hevents⟩

/-! ## Ranges -/

theorem readRange_of_read (hstart : Date.read start = .ok first)
    (hfinish : Date.read finish = .ok last) :
    readRange s start finish d = do
      let events ← readDays s d (first.upTo last)
      if first ≤ last ∧ last.next? = none then throw (.serialization "Date overflow")
      return events := by
  rw [readRange, readDate, readDate, hstart, hfinish, ok_bind, ok_bind, readFrom_eq]
  rfl

theorem readRange_eq_readDays (hstart : Date.read start = .ok first)
    (hfinish : Date.read finish = .ok last) (hlast : last ≠ Date.final) :
    readRange s start finish d = readDays s d (first.upTo last) := by
  have hnext : ¬(first ≤ last ∧ last.next? = none) :=
    fun hnone => hlast (Date.next?_eq_none_iff.mp hnone.2)
  rw [readRange_of_read hstart hfinish]
  simp only [if_neg hnext]
  cases readDays s d (first.upTo last) <;> rfl

/-- A range is read day by day: it has each date between its ends once, in ascending order, and what
is read are the events of these days in this order, or the failure of the earliest of them that
cannot be read. This holds of every range that does not end with the last date of the calendar. -/
theorem range_reads_day_by_day (s : Storage) (d : Disk)
    (hstart : Date.read start = .ok first) (hfinish : Date.read finish = .ok last)
    (hlast : last ≠ Date.final) :
    Date.IsRange first last (first.upTo last) ∧
      ReadsInOrder s d (first.upTo last) (readRange s start finish d) ∧
      (¬first ≤ last → readRange s start finish d = .ok []) := by
  have hrange := Date.isRange_upTo first last
  rw [readRange_eq_readDays hstart hfinish hlast]
  refine ⟨hrange, readsInOrder_readDays hrange.ascending, fun hle => ?_⟩
  rw [Date.upTo_of_not_le hle]
  rfl

/-- Events are noted in the wrong order on the first of March and on the leap day before it. A range
around these days reads them in the right one. -/
theorem range_around_leap_day_read :
    ∃ d', logAll sampleStorage
          [sampleEventOn ⟨2024, 3, 1, by decide⟩, sampleEventOn ⟨2024, 2, 29, by decide⟩]
          Session.sampleDisk = (.ok (), d') ∧
      Date.read "2024-02-28" = .ok ⟨2024, 2, 28, by decide⟩ ∧
      Date.read "2024-03-01" = .ok ⟨2024, 3, 1, by decide⟩ ∧
      (⟨2024, 3, 1, by decide⟩ : Date) ≠ Date.final ∧
      readRange sampleStorage "2024-02-28" "2024-03-01" d' =
        .ok [sampleEventOn ⟨2024, 2, 29, by decide⟩, sampleEventOn ⟨2024, 3, 1, by decide⟩] := by
  obtain ⟨d', hlogged, hdays⟩ := exists_noted
    [sampleEventOn ⟨2024, 3, 1, by decide⟩, sampleEventOn ⟨2024, 2, 29, by decide⟩]
    (by simp [isStorable_sampleEventOn])
  have hstart : Date.read "2024-02-28" = .ok ⟨2024, 2, 28, by decide⟩ :=
    Date.read_of_text (by decide +kernel)
  have hfinish : Date.read "2024-03-01" = .ok ⟨2024, 3, 1, by decide⟩ :=
    Date.read_of_text (by decide +kernel)
  have hlast : (⟨2024, 3, 1, by decide⟩ : Date) ≠ Date.final := by decide
  obtain ⟨-, hread, -⟩ := range_reads_day_by_day sampleStorage d' hstart hfinish hlast
  refine ⟨d', hlogged, hstart, hfinish, hlast, ?_⟩
  rw [hread.ok _ fun day _ => (hdays day).2, Date.upTo_of_next? (by decide) rfl,
    Date.upTo_of_next? (by decide) rfl, Date.upTo_of_next? (by decide) rfl,
    Date.upTo_of_not_le (by decide)]
  rfl

/-- A range that ends with the last date of the calendar is refused after all of its days were
read. -/
theorem readRange_to_final (hstart : Date.read start = .ok first)
    (hfinish : Date.read finish = .ok Date.final)
    (hread : ∃ events, readDays s d (first.upTo Date.final) = .ok events) :
    readRange s start finish d = .error (.serialization "Date overflow") := by
  obtain ⟨events, hevents⟩ := hread
  have hend : first ≤ Date.final ∧ Date.final.next? = none :=
    ⟨Date.le_final first, Date.next?_eq_none_iff.mpr rfl⟩
  rw [readRange_of_read hstart hfinish, hevents, ok_bind, if_pos hend]
  rfl

/-- Where each day of a range either has no log or one that can be read, the range can be read if it
does not end with the last date of the calendar. If it does, the step beyond that date fails, and so
does the range; nothing else makes the step fail. -/
theorem readable_days_make_readable_range
    (hstart : Date.read start = .ok first) (hfinish : Date.read finish = .ok last)
    (hdays : ∀ day, first ≤ day → day ≤ last → HasNoLog s d day ∨ HasReadableLog s d day) :
    (last ≠ Date.final → ∃ events, readRange s start finish d = .ok events) ∧
      (readRange s start finish d = .error (.serialization "Date overflow") ↔
        last = Date.final) := by
  have hread : ∃ events, readDays s d (first.upTo last) = .ok events := by
    apply exists_readDays
    intro day hday
    obtain ⟨hle, hle'⟩ := ((Date.isRange_upTo first last).mem_iff day).mp hday
    exact hdays day hle hle'
  have hok (hlast : last ≠ Date.final) : ∃ events, readRange s start finish d = .ok events := by
    rwa [readRange_eq_readDays hstart hfinish hlast]
  refine ⟨hok, ?_, ?_⟩
  · intro hfails
    by_contra hlast
    obtain ⟨events, hevents⟩ := hok hlast
    rw [hfails] at hevents
    cases hevents
  · rintro rfl
    exact readRange_to_final hstart hfinish hread

/-- A range that begins before the year 0 and ends on a leap day of it can be read. -/
theorem range_into_year_zero_read :
    ∃ d', logAll sampleStorage [sampleEventOn ⟨0, 2, 29, by decide⟩] Session.sampleDisk =
        (.ok (), d') ∧
      Date.read "-0001-12-31" = .ok ⟨-1, 12, 31, by decide⟩ ∧
      Date.read "0000-02-29" = .ok ⟨0, 2, 29, by decide⟩ ∧
      (∀ day, ⟨-1, 12, 31, by decide⟩ ≤ day → day ≤ ⟨0, 2, 29, by decide⟩ →
        HasNoLog sampleStorage d' day ∨ HasReadableLog sampleStorage d' day) ∧
      ∃ events, readRange sampleStorage "-0001-12-31" "0000-02-29" d' = .ok events := by
  obtain ⟨d', hlogged, hdays⟩ := exists_noted [sampleEventOn ⟨0, 2, 29, by decide⟩]
    (by simp [isStorable_sampleEventOn])
  have hstart : Date.read "-0001-12-31" = .ok ⟨-1, 12, 31, by decide⟩ :=
    Date.read_of_text (by decide +kernel)
  have hfinish : Date.read "0000-02-29" = .ok ⟨0, 2, 29, by decide⟩ :=
    Date.read_of_text (by decide +kernel)
  have hreadable (day : Date) (_ : ⟨-1, 12, 31, by decide⟩ ≤ day)
      (_ : day ≤ ⟨0, 2, 29, by decide⟩) := (hdays day).1
  obtain ⟨hok, -⟩ := readable_days_make_readable_range hstart hfinish hreadable
  exact ⟨d', hlogged, hstart, hfinish, hreadable, hok (by decide)⟩

/-- An event is noted on the last date of the calendar. Every day of the range that is made of this
date and the one before it can be read or has no log, but the range cannot be read. -/
theorem range_to_last_date_overflows :
    ∃ d', logAll sampleStorage [sampleEventOn Date.final] Session.sampleDisk = (.ok (), d') ∧
      Date.read "+262142-12-30" = .ok ⟨lastYear, 12, 30, by decide⟩ ∧
      Date.read "+262142-12-31" = .ok Date.final ∧
      (∀ day, HasNoLog sampleStorage d' day ∨ HasReadableLog sampleStorage d' day) ∧
      ¬∃ events, readRange sampleStorage "+262142-12-30" "+262142-12-31" d' = .ok events := by
  obtain ⟨d', hlogged, hdays⟩ := exists_noted [sampleEventOn Date.final]
    (by simp [isStorable_sampleEventOn])
  have hstart : Date.read "+262142-12-30" = .ok ⟨lastYear, 12, 30, by decide⟩ :=
    Date.read_of_text (by decide +kernel)
  have hfinish : Date.read "+262142-12-31" = .ok Date.final :=
    Date.read_of_text (by decide +kernel)
  have hoverflow := readRange_to_final hstart hfinish
    (exists_readDays (s := sampleStorage) (d := d') fun day _ => (hdays day).1)
  refine ⟨d', hlogged, hstart, hfinish, fun day => (hdays day).1, ?_⟩
  rintro ⟨events, hevents⟩
  rw [hoverflow] at hevents
  cases hevents

end SealedVault.Audit
