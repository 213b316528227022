import SealedVault.Json.Value
import SealedVault.Calendar.Reading

/-!
# Decoding fields

Readers for the fields of a record: texts, timestamps, and fields that may be missing or null.
-/

namespace SealedVault.Json.Tree

/-- A field that must be there. -/
def required? {α : Type} (read : Tree → Option α) (fields : List (String × Tree)) (name : String) :
    Option α :=
  (find? fields name).bind read

/-- A field that may be missing or null. -/
def optional? {α : Type} (read : Tree → Option α) (fields : List (String × Tree)) (name : String) :
    Option (Option α) :=
  match find? fields name with
  | none | some .null => some none
  | some tree => (read tree).map some

/-- A field that has a default when it is missing, but not when it is null. -/
def withDefault? {α : Type} (default : α) (read : Tree → Option α) (fields : List (String × Tree))
    (name : String) : Option α :=
  match find? fields name with
  | none => some default
  | some tree => read tree

/-- The instant that a string is. -/
def timestamp? (tree : Tree) : Option Calendar.Timestamp :=
  tree.text?.bind fun s => (Calendar.Timestamp.read s).toOption

end SealedVault.Json.Tree
