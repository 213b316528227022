import SealedVault.Audit.Event
import SealedVault.Store.Storage

/-!
# Audit logs

The events of a day in universal time are the lines of one file, the latest at the end.
-/

namespace SealedVault.Audit

open Calendar (Date)

/-- The log of a day. -/
def logPath (s : Storage) (day : Date) : Path := s.layout.auditLog day.text

/-- Adds an event to the log of its day. -/
def log (s : Storage) (e : Event) : DiskAction Unit :=
  s.append (logPath s e.timestamp.date) (Text.utf8Bytes e.line)

/-- The lines of a text, given the reversed beginning of the first one. -/
def splitLines (line : List Char) : List Char → List (List Char)
  | [] => [line.reverse]
  | c :: rest =>
    if c = '\n' then line.reverse :: splitLines [] rest else splitLines (c :: line) rest

/-- The lines of a text that are not blank. -/
def eventLines (content : String) : List String :=
  ((splitLines [] content.toList).filter fun line => !line.all Text.isBlank).map String.ofList

/-- The event of a line. -/
def readLine (line : String) : Except StorageError Event :=
  match Event.ofBytes? (Text.utf8Bytes line) with
  | some e => .ok e
  | none => .error (.serialization "Failed to deserialize audit event")

/-- The events of the lines of a log. -/
def readContent (bytes : List UInt8) : Except StorageError (List Event) :=
  match Text.decodeUtf8 bytes with
  | .ok content => (eventLines content).mapM readLine
  | .error fault => .error (.serialization ("Invalid UTF-8 in audit log: " ++ fault.message))

/-- The events of a day. -/
def readDay (s : Storage) (day : Date) (d : Disk) : Except StorageError (List Event) := do
  let bytes ← s.readBytes (logPath s day) d
  readContent bytes

/-- The day that a text names, which is called `role` in the message. -/
def readDate (role text : String) : Except StorageError Date :=
  match Date.read text with
  | .ok day => .ok day
  | .error fault => .error (.serialization ("Invalid " ++ role ++ " date: " ++ fault.message))

/-- The events of the day that a text names. -/
def readEvents (s : Storage) (date : String) (d : Disk) : Except StorageError (List Event) := do
  let day ← readDate "audit" date
  readDay s day d

/-- Adds the events of a day to those read so far. A day without a log has none. -/
def addDay (s : Storage) (d : Disk) (events : List Event) (day : Date) :
    Except StorageError (List Event) :=
  match readEvents s day.text d with
  | .ok more => .ok (events ++ more)
  | .error (.notFound _) => .ok events
  | .error e => .error e

/-- Adds the events of one day after the other, from `current` up to `last`. The step to the next
day is taken after each of them, after `last` too. -/
def readFrom (s : Storage) (d : Disk) (last current : Date) (events : List Event) :
    Except StorageError (List Event) :=
  if current ≤ last then do
    let events ← addDay s d events current
    match _h : current.next? with
    | some next => readFrom s d last next events
    | none => throw (.serialization "Date overflow")
  else .ok events
termination_by (last.rank + 1 - current.rank).toNat
decreasing_by
  have := Date.rank_lt_of_next? _h
  have : current.rank ≤ last.rank := ‹current ≤ last›
  omega

/-- The events of the days from one date to another. -/
def readRange (s : Storage) (start finish : String) (d : Disk) :
    Except StorageError (List Event) := do
  let first ← readDate "start" start
  let last ← readDate "end" finish
  readFrom s d last first []

/-- The events of a day that a user caused. -/
def readByUser (s : Storage) (user date : String) (d : Disk) :
    Except StorageError (List Event) := do
  let events ← readEvents s date d
  return events.filter fun e => e.user = some user

/-- The events of a day that touched a record. -/
def readByResource (s : Storage) (resourceType resourceId date : String) (d : Disk) :
    Except StorageError (List Event) := do
  let events ← readEvents s date d
  return events.filter fun e => e.resourceType = some resourceType ∧ e.resourceId = some resourceId

end SealedVault.Audit
