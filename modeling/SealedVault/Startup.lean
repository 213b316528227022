import SealedVault.Settings
import SealedVault.Vault.Reseal

/-!
# Startup

What the program does: it reads its settings, makes the data directory ready and checks it, tests
the key, and seals the records that are not sealed if it is told to.
-/

namespace SealedVault

/-- How the program ends. -/
structure Outcome where
  /-- What it says on standard error. -/
  complaint : String
  success : Bool
deriving Repr, DecidableEq

namespace Startup

/-- The program has done its work. -/
def ready : Outcome := ⟨"", true⟩

/-- The program has failed and says so in its log only. -/
def notReady : Outcome := ⟨"", false⟩

/-- Makes the storage ready and checks it. -/
def openStorage (settings : Settings) : Action Storage := do
  let storage ← Action.onDisk (Storage.prepare (.fresh ⟨⟨settings.dataDirectory⟩⟩))
  Action.onDisk storage.healthCheck
  return storage

/-- All that is done with valid settings. -/
def serve (settings : Settings) : Action Unit := do
  let service : Sealing.Service := ⟨settings.masterKey⟩
  let storage ← openStorage settings
  let initial ← Action.newInitial
  Action.sealing (service.selfTest initial)
  let vault ← Action.ofExcept (Vault.ofStorage storage service)
  if settings.resealLegacy then
    let _ ← vault.reseal

/-- Runs the program in an environment. -/
def run (lookup : String → Option String) (w : World) : Outcome × World :=
  match Settings.ofLookup lookup with
  | .error e => (⟨"Invalid configuration: " ++ e.message ++ "\n", false⟩, w)
  | .ok settings =>
    match serve settings w with
    | (.ok (), w) => (ready, w)
    | (.error _, w) => (notReady, w)

end Startup

end SealedVault
