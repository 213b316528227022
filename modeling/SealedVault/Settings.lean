import SealedVault.Role
import SealedVault.Sealing.Key
import SealedVault.Store.Layout
import SealedVault.Text.Quoted

/-!
# Settings

What the program is told by its environment: the data directory, the master key, whether records
are sealed when it starts, and the format of its log. A variable that is blank counts as missing.
-/

namespace SealedVault

open Sealing (MasterKey SealingError)

/-- How the log is written. -/
inductive LogFormat where
  | json
  | pretty
deriving Repr, DecidableEq

/-- What the environment says. -/
structure Settings where
  dataDirectory : String
  masterKey : Option MasterKey
  resealLegacy : Bool
  logFormat : LogFormat
deriving DecidableEq

/-- Why the environment cannot be used. -/
inductive SettingsError where
  | invalidKey (error : SealingError)
  | invalid (name reason : String)
deriving Repr, DecidableEq

namespace SettingsError

/-- What the failure says. -/
def message : SettingsError → String
  | invalidKey e => "invalid VAULT_MASTER_KEY: " ++ e.message
  | invalid name reason => "invalid " ++ name ++ ": " ++ reason

end SettingsError

namespace LogFormat

/-- The name of the format in descriptions. -/
def name : LogFormat → String
  | json => "Json"
  | pretty => "Pretty"

/-- The format that a text names in any case of its letters. -/
def parse (s : String) : Except SettingsError LogFormat :=
  let word := Text.lowercase (Text.trim s)
  if word = "json" then .ok json
  else if word = "pretty" ∨ word = "text" then .ok pretty
  else .error (.invalid "LOG_FORMAT" ("unknown log format `" ++ word ++ "`"))

end LogFormat

namespace Settings

/-- The switch that a text names in any case of its letters. -/
def parseSwitch (name s : String) : Except SettingsError Bool :=
  let word := Text.lowercase (Text.trim s)
  if word = "1" ∨ word = "true" ∨ word = "yes" then .ok true
  else if word = "0" ∨ word = "false" ∨ word = "no" then .ok false
  else .error (.invalid name ("expected a boolean, got `" ++ word ++ "`"))

/-- The value of a variable unless it is blank. -/
def nonBlank (lookup : String → Option String) (name : String) : Option String :=
  (lookup name).filter fun value => Text.trim value ≠ ""

/-- Reads a variable, if it is there and not blank. -/
def readWith {α : Type} (lookup : String → Option String) (name : String)
    (read : String → Except SettingsError α) : Except SettingsError (Option α) :=
  match nonBlank lookup name with
  | none => .ok none
  | some value => (read value).map some

/-- The settings of an environment. The first variable that cannot be used decides the failure. -/
def ofLookup (lookup : String → Option String) : Except SettingsError Settings := do
  let masterKey ← readWith lookup "VAULT_MASTER_KEY" fun s =>
    (MasterKey.ofBase64 s).mapError .invalidKey
  let resealLegacy ← readWith lookup "VAULT_RESEAL_LEGACY" (parseSwitch "VAULT_RESEAL_LEGACY")
  let logFormat ← readWith lookup "LOG_FORMAT" LogFormat.parse
  return {
    dataDirectory := (nonBlank lookup "DATA_DIR").getD Layout.defaultRoot
    masterKey
    resealLegacy := resealLegacy.getD false
    logFormat := logFormat.getD .pretty }

/-- A description that does not show the key. -/
def describe (s : Settings) : String :=
  let key := match s.masterKey with
    | none => "None"
    | some key => "Some(" ++ key.describe ++ ")"
  "VaultConfig \x7b data_dir: " ++ Text.quoted s.dataDirectory ++ ", master_key: " ++ key ++
    ", reseal_legacy: " ++ toString s.resealLegacy ++
    ", log_format: " ++ s.logFormat.name ++ " \x7d"

end Settings

end SealedVault
