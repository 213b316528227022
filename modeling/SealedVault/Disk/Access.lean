import SealedVault.Disk.Basic
import SealedVault.Disk.Path

/-!
# Access by path

Files and directories are reached by walking from directory to directory along the names of a
path. Neither a name nor a path may be too long. An operation that fails leaves the disk as it was,
except that directories which were made on the way to a deeper one stay.
-/

namespace SealedVault.Disk

/-- Why a path did not lead where it should. -/
inductive Fault where
  /-- Nothing is there. -/
  | missing
  /-- No entry can get the name, because the path has none at its end. -/
  | busy
  /-- A file stands where a directory is to be made. -/
  | fileExists
  /-- A file stands where a directory is needed. -/
  | notDirectory
  /-- A directory stands where a file is needed. -/
  | isDirectory
  /-- The path has a character that no name can have. -/
  | unusableName
  /-- The path, or a name in it, has too many bytes. -/
  | tooLong
deriving Repr, DecidableEq

/-- What messages say of the fault. -/
def Fault.message : Fault → String
  | missing => "No such file or directory (os error 2)"
  | busy => "Device or resource busy (os error 16)"
  | fileExists => "File exists (os error 17)"
  | notDirectory => "Not a directory (os error 20)"
  | isDirectory => "Is a directory (os error 21)"
  | unusableName => "file name contained an unexpected NUL byte"
  | tooLong => "File name too long (os error 36)"

/-- The greatest number of bytes in a name. -/
def nameLimit : Nat := 255

/-- Why a path cannot be followed on any disk. -/
def checkPath (p : Path) : Except Fault Unit :=
  if p.isUnusable then .error .unusableName
  else if p.isTooLong then .error .tooLong
  else .ok ()

/-- Follows names from a directory to a place, whose own entry is not looked at. Two dots lead
back to the containing directory. -/
def walk (d : Disk) (place : Place) : List String → Except Fault Place
  | [] => .ok place
  | name :: rest =>
    if name = ".." then walk d place.dropLast rest
    else if nameLimit < name.utf8ByteSize then .error .tooLong
    else if rest = [] then .ok (place ++ [name])
    else
      match d.get? (place ++ [name]) with
      | some .directory => walk d (place ++ [name]) rest
      | some (.file _) => .error .notDirectory
      | none => .error .missing

/-- The place that a path leads to. -/
def locate (d : Disk) (p : Path) : Except Fault Place :=
  (checkPath p).bind fun _ => walk d [] p.names

/-- The entry that a path leads to. -/
def find (d : Disk) (p : Path) : Except Fault Entry :=
  (locate d p).bind fun place =>
    match d.get? place with
    | none => .error .missing
    | some .directory => .ok .directory
    | some (.file bytes) => if p.wantsDirectory then .error .notDirectory else .ok (.file bytes)

/-- The path leads to a file. -/
def isFile (d : Disk) (p : Path) : Bool :=
  match find d p with
  | .ok (.file _) => true
  | _ => false

/-- The bytes of a file. -/
def readFile (d : Disk) (p : Path) : Except Fault (List UInt8) :=
  match find d p with
  | .ok (.file bytes) => .ok bytes
  | .ok .directory => .error .isDirectory
  | .error fault => .error fault

/-- Puts a file at a place, in place of the file that may be there. -/
def writeAt (d : Disk) (place : Place) (bytes : List UInt8) : Except Fault Disk :=
  match place.getLast?.bind fun name => d.put? place.dropLast name (.file bytes) with
  | some d => .ok d
  | none => .error .isDirectory

/-- Puts a file where a path leads, in place of the file that may be there. A path that can only
lead to a directory leads to no file: `unnamed` is what is said of it if it has no name at its end,
and `slash` if a slash stands behind the name. If it ends in a dot, the directory must be there. -/
def putFile (unnamed slash : Fault) (d : Disk) (p : Path) (bytes : List UInt8) :
    Except Fault Disk :=
  if p.endsInDot then (find d p).bind fun _ => .error unnamed
  else
    (locate d p).bind fun place =>
      if p.endsUnnamed then .error unnamed
      else if p.wantsDirectory then .error slash
      else writeAt d place bytes

/-- Replaces the bytes of a file, which is made if it is missing. -/
def writeFile (d : Disk) (p : Path) (bytes : List UInt8) : Except Fault Disk :=
  putFile .isDirectory .isDirectory d p bytes

/-- Gives a complete file the name that a path ends in. -/
def nameFile (d : Disk) (p : Path) (bytes : List UInt8) : Except Fault Disk :=
  putFile .busy .notDirectory d p bytes

/-- The name of the file that takes the bytes of another one until they are complete. -/
def workingName : String := ".tmp000000"

/-- Replaces a file in one step: a working file beside it takes the bytes, and then its name. The
path to the working file must not be too long either. -/
def replaceFile (d : Disk) (p : Path) (bytes : List UInt8) : Except Fault Disk :=
  (locate d (p.parent.join workingName)).bind fun _ => nameFile d p bytes

/-- Adds bytes to the end of a file, which is made if it is missing. -/
def appendFile (d : Disk) (p : Path) (bytes : List UInt8) : Except Fault Disk :=
  writeFile d p ((readFile d p).toOption.getD [] ++ bytes)

/-- Takes a file away. -/
def removeFile (d : Disk) (p : Path) : Except Fault Disk :=
  (readFile d p).bind fun _ => (locate d p).bind fun place =>
    match d.removeFile? place with
    | some d => .ok d
    | none => .error .missing

/-- Makes the directories along some names, as far as they are missing. Where a file stands in the
way, `through` is what is said of a name behind which there are more, and `last` of the last one.
From the first directory that is made, one is made after the other, so each name is once the last
one of a path. -/
def makeAlong (through last : Fault) (place : Place) :
    List String → Disk → Except Fault Unit × Disk
  | [], d => (.ok (), d)
  | name :: rest, d =>
    if name = ".." then makeAlong through last place.dropLast rest d
    else if nameLimit < name.utf8ByteSize then (.error .tooLong, d)
    else
      match d.get? (place ++ [name]) with
      | some .directory => makeAlong through last (place ++ [name]) rest d
      | some (.file _) => (.error (if rest = [] then last else through), d)
      | none =>
        match d.put? place name .directory with
        | some d => makeAlong .fileExists .fileExists (place ++ [name]) rest d
        | none => (.error .notDirectory, d)

/-- The path leads to a directory. -/
def checkDirectory (d : Disk) (p : Path) : Except Fault Unit :=
  (find d p).bind fun
    | .directory => .ok ()
    | .file _ => .error .notDirectory

/-- Makes a directory and those that contain it. A path that ends in a dot passes through its last
name, so that the directory of that name must already be there. -/
def makeDirectory (p : Path) (d : Disk) : Except Fault Unit × Disk :=
  match checkPath p with
  | .error fault => (.error fault, d)
  | .ok _ =>
    if p.endsInDot then
      let (result, d) := makeAlong .notDirectory .notDirectory [] p.names.dropLast d
      (result.bind fun _ => checkDirectory d p, d)
    else makeAlong .notDirectory .fileExists [] p.names d

/-- Makes the directory that is to contain what a path leads to. -/
def makeParent (p : Path) (d : Disk) : Except Fault Unit × Disk := makeDirectory p.parent d

/-- Splits a file name at its last dot. A dot that begins the name does not end a stem. -/
def splitExtension (name : String) : String × Option String :=
  let cs := name.toList
  let after := (cs.reverse.takeWhile (· ≠ '.')).reverse
  let before := cs.take (cs.length - after.length - 1)
  if before = [] then (name, none) else (String.ofList before, some (String.ofList after))

/-- The stem of a file name that has the given extension. -/
def stemOf? (suffix : String) (name : String) : Option String :=
  let (stem, found) := splitExtension name
  if found = some suffix then some stem else none

/-- The stems of the files in a directory with the given extension, in ascending order. A missing
directory holds none. -/
def stems (d : Disk) (p : Path) (suffix : String) : Except Fault (List String) :=
  match find d p with
  | .error _ => .ok []
  | .ok (.file _) => .error .notDirectory
  | .ok .directory =>
    (locate d p).map fun place =>
      let names := (d.fileNames place).filter fun name => isFile d (p.join name)
      (names.filterMap (stemOf? suffix)).mergeSort fun a b => a ≤ b

end SealedVault.Disk
