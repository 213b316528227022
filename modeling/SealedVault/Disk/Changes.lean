import SealedVault.Disk.Basic

/-!
# Changes between disks

The steps that turn one disk into another: first what is no longer there is removed, the contents
of a directory before the directory itself, and then what is new is made, a directory before its
contents.
-/

namespace SealedVault

/-- One step from a disk to another. -/
inductive Change where
  | removeFile (place : Place)
  | removeDirectory (place : Place)
  | makeDirectory (place : Place)
  | writeFile (place : Place) (bytes : List UInt8)
deriving Repr, DecidableEq

namespace Disk

/-- The step that removes an entry, unless there is still an entry of its kind. -/
def removal? (after : Disk) : Place × Entry → Option Change
  | (place, .file _) =>
    match after.get? place with
    | some (.file _) => none
    | _ => some (.removeFile place)
  | (place, .directory) =>
    if after.get? place = some .directory then none else some (.removeDirectory place)

/-- The step that makes an entry, unless it was there before. -/
def addition? (before : Disk) : Place × Entry → Option Change
  | (place, e) =>
    if before.get? place = some e then none
    else
      match e with
      | .file bytes => some (.writeFile place bytes)
      | .directory => some (.makeDirectory place)

/-- The steps from one disk to another. -/
def changes (before after : Disk) : List Change :=
  before.toList.reverse.filterMap after.removal? ++ after.toList.filterMap before.addition?

end Disk

end SealedVault
