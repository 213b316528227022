import SealedVault.Calendar.Epoch
import SealedVault.Disk.Changes
import SealedVault.Startup
import SealedVault.Vault.Seed
import Std.Time.DateTime.Timestamp

/-!
# The command line

Reads the environment and the data directory, starts up, and carries the changes over to the files
of the system.
-/

namespace SealedVault.CommandLine

/-- The variables that the program reads. -/
def variableNames : List String :=
  ["DATA_DIR", "VAULT_MASTER_KEY", "VAULT_RESEAL_LEGACY", "LOG_FORMAT"]

/-- Reads the environment. The data directory is told by its whole path. -/
def readEnvironment : IO (String → Option String) := do
  let directory := Path.mk (← IO.currentDir).toString
  let found ← variableNames.filterMapM fun name => do
    return (← IO.getEnv name).map fun value => (name, value)
  let lookup (name : String) : Option String := found.lookup name
  return fun name =>
    if name = "DATA_DIR" then
      (Settings.nonBlank lookup name).map fun value => (directory.join value).text
    else lookup name

/-- Puts an entry where the system has one. -/
def putEntry (d : Disk) (place : Place) (name : String) (e : Entry) : Disk :=
  (d.put? place name e).getD d

/-- Adds all that a directory of the system holds. -/
partial def loadTree (place : Place) (d : Disk) : IO Disk := do
  let mut d := d
  for found in ← (System.mkFilePath ("/" :: place)).readDir do
    if ← found.path.isDir then
      d ← loadTree (place ++ [found.fileName]) (putEntry d place found.fileName .directory)
    else
      let bytes ← IO.FS.readBinFile found.path
      d := putEntry d place found.fileName (.file bytes.data.toList)
  return d

/-- Adds the directories of the system along some names, and all that the last one holds. -/
def loadAlong (place : Place) : List String → Disk → IO Disk
  | [], d => loadTree place d
  | name :: rest, d => do
    if name = ".." then return ← loadAlong place.dropLast rest d
    let path := System.mkFilePath ("/" :: place ++ [name])
    if ← path.isDir then
      loadAlong (place ++ [name]) rest (putEntry d place name .directory)
    else if ← path.pathExists then
      return putEntry d place name (.file [])
    else return d

/-- Carries a change over to the system. -/
def carryOver : Change → IO Unit
  | .removeFile place => IO.FS.removeFile (System.mkFilePath ("/" :: place))
  | .removeDirectory place => IO.FS.removeDir (System.mkFilePath ("/" :: place))
  | .makeDirectory place => IO.FS.createDir (System.mkFilePath ("/" :: place))
  | .writeFile place bytes =>
    IO.FS.writeBinFile (System.mkFilePath ("/" :: place)) ⟨bytes.toArray⟩

/-- Runs the program and tells its exit code. -/
def run : IO UInt32 := do
  let lookup ← readEnvironment
  let seed ← IO.getRandomBytes 32
  let clock ← Std.Time.Timestamp.now
  let some now := Calendar.Timestamp.ofEpochNanos? clock.toNanosecondsSinceUnixEpoch.toInt
    | return 1
  let before ← match Settings.ofLookup lookup with
    | .ok settings => loadAlong [] (Path.mk settings.dataDirectory).names .empty
    | .error _ => pure .empty
  let (outcome, world) := Startup.run lookup (.ofSeed seed.data.toList now before)
  (before.changes world.disk).forM carryOver
  IO.eprint outcome.complaint
  return if outcome.success then 0 else 1

end SealedVault.CommandLine

/-- Fails when the system does. -/
def main : IO UInt32 := do
  try SealedVault.CommandLine.run
  catch _ => return 1
