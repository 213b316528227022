import SealedVault.Store.Error
import SealedVault.Store.Layout
import SealedVault.Text.Utf8

/-!
# Storage

Files in the data directory. Nothing but its initialization may be done before the directories
have been made. Reading takes the disk as it is; writing makes the directories on the way, and
replaces or extends a file as a whole or not at all.
-/

namespace SealedVault

/-- A change of the disk that can fail. What was changed before a failure stays changed. -/
abbrev DiskAction (α : Type) := ExceptT StorageError (StateM Disk) α

namespace DiskAction

/-- Asks the disk. -/
def ask {α : Type} (f : Disk → Except StorageError α) : DiskAction α := fun d => (f d, d)

/-- Changes the disk, or leaves it as it was. -/
def change (f : Disk → Except Disk.Fault Disk) : DiskAction Unit := fun d =>
  match f d with
  | .ok d' => (.ok (), d')
  | .error fault => (.error (.ofFault fault), d)

/-- Makes directories. -/
def make (f : Disk → Except Disk.Fault Unit × Disk) : DiskAction Unit := fun d =>
  let (result, d') := f d
  (result.mapError .ofFault, d')

end DiskAction

/-- The data directory, and whether its directories have been made. -/
structure Storage where
  layout : Layout
  initialized : Bool
deriving Repr, DecidableEq

namespace Storage

/-- Storage in which nothing has been made yet. -/
def fresh (layout : Layout) : Storage := ⟨layout, false⟩

/-- Refuses storage that has not been initialized. -/
def checkReady (s : Storage) : Except StorageError Unit :=
  if s.initialized then .ok () else .error .notInitialized

/-- Makes each of some directories. -/
def makeAll : List Path → DiskAction Unit
  | [] => pure ()
  | p :: rest => do
    DiskAction.make (Disk.makeDirectory p)
    makeAll rest

/-- Makes the directories that the storage needs. -/
def prepare (s : Storage) : DiskAction Storage := do
  makeAll s.layout.directories
  return { s with initialized := true }

/-! ### Reading -/

/-- The bytes of a file. -/
def readBytes (s : Storage) (p : Path) (d : Disk) : Except StorageError (List UInt8) := do
  checkReady s
  (d.readFile p).mapError .ofFault

/-- What a file holds, by a decoder of its bytes. A directory is there to be read, but holds nothing
that could be decoded. -/
def readWith {α : Type} (s : Storage) (decode : List UInt8 → Option α) (p : Path) (d : Disk) :
    Except StorageError α := do
  checkReady s
  match d.readFile p with
  | .ok bytes =>
    match decode bytes with
    | some a => return a
    | none => throw .json
  | .error .isDirectory => throw .json
  | .error fault => throw (.ofFault fault)

/-- The stems of the files in a directory with the given extension, in ascending order. -/
def listStems (s : Storage) (p : Path) (suffix : String) (d : Disk) :
    Except StorageError (List String) := do
  checkReady s
  (d.stems p suffix).mapError .ofFault

/-! ### Writing -/

/-- Replaces a file. -/
def write (s : Storage) (p : Path) (bytes : List UInt8) : DiskAction Unit := do
  DiskAction.ask fun _ => checkReady s
  DiskAction.make (Disk.makeParent p)
  DiskAction.change fun d => d.writeFile p bytes

/-- Replaces a file in one step, so that a reader finds the old bytes or the new ones. -/
def replace (s : Storage) (p : Path) (bytes : List UInt8) : DiskAction Unit := do
  DiskAction.ask fun _ => checkReady s
  DiskAction.make (Disk.makeParent p)
  DiskAction.change fun d => d.replaceFile p bytes

/-- Adds bytes to the end of a file. -/
def append (s : Storage) (p : Path) (bytes : List UInt8) : DiskAction Unit := do
  DiskAction.ask fun _ => checkReady s
  DiskAction.make (Disk.makeParent p)
  DiskAction.change fun d => d.appendFile p bytes

/-- Takes a file away. -/
def delete (s : Storage) (p : Path) : DiskAction Unit := do
  DiskAction.ask fun _ => checkReady s
  DiskAction.change fun d => d.removeFile p

/-! ### Health -/

/-- What the health check writes. -/
def healthData : List UInt8 := Text.utf8Bytes "health_check_data"

/-- The file that the health check uses. -/
def healthFile (s : Storage) : Path := s.layout.root.join ".health_check"

/-- Writes a file, reads it back and takes it away. -/
def healthCheck (s : Storage) : DiskAction Unit := do
  DiskAction.ask fun _ => checkReady s
  DiskAction.change fun d => d.writeFile s.healthFile healthData
  let found ← DiskAction.ask fun d => (d.readFile s.healthFile).mapError .ofFault
  DiskAction.change fun d => d.removeFile s.healthFile
  if found ≠ healthData then
    throw (.corrupted "Health check data mismatch")

end Storage

end SealedVault
