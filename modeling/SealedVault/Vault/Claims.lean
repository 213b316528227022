import SealedVault.Vault.Basic

/-!
# Claims

Storing, reading, replacing and deleting the claims of users.
-/

namespace SealedVault.Vault

/-- Stores claims that belong to the caller. -/
def storeClaims (v : Vault) (caller : Caller) (claims : String) : Action (Record .claims) :=
  v.store caller caller.userId claims fun now => ({ updatedAt := now } : ClaimsFields)

/-- Opens claims of the caller's, or of anyone's for an admin. -/
def readClaims (v : Vault) (caller : Caller) (id : String) : Action (Opened .claims) :=
  v.readOwn .claims caller id

/-- Replaces the text of claims, which get the protection that new payloads get now. -/
def updateClaims (v : Vault) (caller : Caller) (id claims : String) : Action (Record .claims) := do
  let r ← v.authorized .claims caller id
  let payload ← v.sealFor .claims r.owner claims
  let now ← Action.now
  let r := r.setPayload payload now
  Action.onDisk (v.storage.updateRecord r)
  v.noteSuccess .recordUpdated caller r
  return r

/-- Deletes claims of the caller's, or of anyone's for an admin. -/
def deleteClaims (v : Vault) (caller : Caller) (id : String) : Action Unit := do
  let r ← v.authorized .claims caller id
  Action.onDisk (v.storage.deleteRecord .claims id)
  v.noteSuccess .recordDeleted caller r

/-- All claims of the caller, opened. -/
def listClaims (v : Vault) (caller : Caller) : Action (List (Opened .claims)) :=
  v.listOwn .claims caller

end SealedVault.Vault
