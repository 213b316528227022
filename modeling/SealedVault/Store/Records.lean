import SealedVault.Record.Codec
import SealedVault.Store.Storage

/-!
# Records in storage

Each record has a file of its own, named by its id. A listing passes over files that do not hold
a record.
-/

namespace SealedVault.Storage

/-- The file of the record with an id. -/
def recordPath (s : Storage) (kind : Kind) (id : String) : Except StorageError Path :=
  if isValidId id then .ok (s.layout.record kind id) else .error (.invalidId id)

/-- There is a file for the record. -/
def hasRecord (s : Storage) (kind : Kind) (id : String) (d : Disk) : Bool :=
  isValidId id && d.isFile (s.layout.record kind id)

/-- The path of a record that is there. -/
def presentPath (s : Storage) (kind : Kind) (id : String) (d : Disk) :
    Except StorageError Path := do
  let p ← s.recordPath kind id
  if d.isFile p then return p else throw (.notFound (Record.labelOf kind id))

/-- The path for a record that is not there yet. -/
def absentPath (s : Storage) (kind : Kind) (id : String) (d : Disk) :
    Except StorageError Path := do
  let p ← s.recordPath kind id
  if d.isFile p then throw (.alreadyExists (Record.labelOf kind id)) else return p

/-- The record with an id. -/
def getRecord (s : Storage) (kind : Kind) (id : String) (d : Disk) :
    Except StorageError (Record kind) := do
  let p ← s.presentPath kind id d
  s.readWith (Record.ofBytes? kind) p d

/-- The records of a kind that satisfy a condition, in ascending order of the names of their
files. -/
def listRecords (s : Storage) (kind : Kind) (keep : Record kind → Bool) (d : Disk) :
    Except StorageError (List (Record kind)) := do
  let ids ← s.listStems (s.layout.kindDirectory kind) Layout.recordExtension d
  return (ids.filterMap fun id => (s.getRecord kind id d).toOption).filter keep

/-- All the records of a kind. -/
def listAll (s : Storage) (kind : Kind) (d : Disk) : Except StorageError (List (Record kind)) :=
  s.listRecords kind (fun _ => true) d

/-- The records of a kind that belong to an owner. -/
def listByOwner (s : Storage) (kind : Kind) (owner : String) (d : Disk) :
    Except StorageError (List (Record kind)) :=
  s.listRecords kind (fun r => r.owner = owner) d

/-- The records of a kind that hang on a document. -/
def listByDocument (s : Storage) (kind : Kind) (document : String) (d : Disk) :
    Except StorageError (List (Record kind)) :=
  s.listRecords kind (fun r => r.parent? = some document) d

variable {kind : Kind}

/-- Stores a record that is not there yet. -/
def createRecord (s : Storage) (r : Record kind) : DiskAction Unit := do
  let p ← DiskAction.ask (s.absentPath kind r.id)
  s.replace p r.toBytes

/-- Replaces a record that is there. -/
def updateRecord (s : Storage) (r : Record kind) : DiskAction Unit := do
  let p ← DiskAction.ask (s.presentPath kind r.id)
  s.replace p r.toBytes

/-- Takes a record away. -/
def deleteRecord (s : Storage) (kind : Kind) (id : String) : DiskAction Unit := do
  let p ← DiskAction.ask (s.presentPath kind id)
  s.delete p

end SealedVault.Storage
