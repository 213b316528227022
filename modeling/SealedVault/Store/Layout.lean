import SealedVault.Disk.Path
import SealedVault.Record.Kind

/-!
# Layout of the data directory

A directory for every kind of record with a file for each record, and a directory for audit logs
with a directory for each day.
-/

namespace SealedVault

/-- Two dots stand side by side. -/
def hasDoubleDot : List Char → Bool
  | '.' :: '.' :: _ => true
  | _ :: rest => hasDoubleDot rest
  | [] => false

/-- The id can be the name of a file that stays in its directory. -/
def isValidId (id : String) : Bool :=
  let cs := id.toList
  !cs.isEmpty && cs.head? != some '.' && !hasDoubleDot cs &&
    cs.all fun c => c.isAlphanum || c = '-' || c = '_' || c = '.'

/-- The place of the data directory. -/
structure Layout where
  root : Path
deriving Repr, DecidableEq

namespace Layout

/-- The data directory that is used when none is configured. -/
def defaultRoot : String := "/data"

/-- The extension of the files of records. -/
def recordExtension : String := "json"

/-- The directory of the records of a kind. -/
def kindDirectory (l : Layout) (kind : Kind) : Path := l.root.join kind.directory

/-- The file of a record. -/
def record (l : Layout) (kind : Kind) (id : String) : Path :=
  (l.kindDirectory kind).join (id ++ ".json")

/-- The directory of the audit logs. -/
def auditDirectory (l : Layout) : Path := l.root.join "audit"

/-- The directory for the audit log of a day. -/
def auditDay (l : Layout) (day : String) : Path := l.auditDirectory.join day

/-- The audit log of a day. -/
def auditLog (l : Layout) (day : String) : Path := (l.auditDay day).join "events.jsonl"

/-- All the directories that the store needs. -/
def directories (l : Layout) : List Path := Kind.all.map l.kindDirectory ++ [l.auditDirectory]

end Layout

end SealedVault
