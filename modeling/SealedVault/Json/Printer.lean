import SealedVault.Json.Value
import SealedVault.Text.Quoted

/-!
# Printing

JSON text in two layouts: on one line without blanks, and with a line for every member and item,
indented by two spaces for each level.
-/

namespace SealedVault.Json

/-- How one character is written inside a string. -/
def escapedChar (c : Char) : List Char :=
  if c = '"' then ['\\', '"']
  else if c = '\\' then ['\\', '\\']
  else if c = '\x08' then ['\\', 'b']
  else if c = '\x0c' then ['\\', 'f']
  else if c = '\n' then ['\\', 'n']
  else if c = '\r' then ['\\', 'r']
  else if c = '\t' then ['\\', 't']
  else if c.toNat < 0x20 then
    ['\\', 'u', '0', '0', Nat.digitChar (c.toNat / 16), Nat.digitChar (c.toNat % 16)]
  else [c]

/-- A string with its quotes. -/
def stringChars (s : String) : List Char := '"' :: s.toList.flatMap escapedChar ++ ['"']

namespace Value

/-- Joins texts with a separator between them. -/
def join (separator : List Char) : List (List Char) → List Char
  | [] => []
  | [last] => last
  | first :: rest => first ++ separator ++ join separator rest

mutual

/-- The text of a value on one line. -/
def compactChars : Value → List Char
  | null => "null".toList
  | bool value => (if value then "true" else "false").toList
  | number value => value.toChars
  | text value => stringChars value
  | array items => '[' :: join [','] (compactItems items) ++ [']']
  | object members => '\x7b' :: join [','] (compactMembers members) ++ ['\x7d']

/-- The texts of the items of an array. -/
def compactItems : List Value → List (List Char)
  | [] => []
  | item :: rest => compactChars item :: compactItems rest

/-- The texts of the members of an object. -/
def compactMembers : List (String × Value) → List (List Char)
  | [] => []
  | (key, value) :: rest => (stringChars key ++ ':' :: compactChars value) :: compactMembers rest

end

/-- A new line at the given level. -/
def newLine (level : Nat) : List Char := '\n' :: List.replicate (2 * level) ' '

/-- Lines between two brackets, each a level deeper than the brackets. -/
def block (level : Nat) (first last : Char) (lines : List (List Char)) : List Char :=
  if lines.isEmpty then [first, last]
  else
    first :: newLine (level + 1) ++ join (',' :: newLine (level + 1)) lines ++
      newLine level ++ [last]

mutual

/-- The text of a value with a line for each member and item. -/
def prettyChars (level : Nat) : Value → List Char
  | null => "null".toList
  | bool value => (if value then "true" else "false").toList
  | number value => value.toChars
  | text value => stringChars value
  | array items => block level '[' ']' (prettyItems (level + 1) items)
  | object members => block level '\x7b' '\x7d' (prettyMembers (level + 1) members)

/-- The texts of the items of an array, which are at the given level. -/
def prettyItems (level : Nat) : List Value → List (List Char)
  | [] => []
  | item :: rest => prettyChars level item :: prettyItems level rest

/-- The texts of the members of an object, which are at the given level. -/
def prettyMembers (level : Nat) : List (String × Value) → List (List Char)
  | [] => []
  | (key, value) :: rest =>
    (stringChars key ++ ':' :: ' ' :: prettyChars level value) :: prettyMembers level rest

end

/-- The text of a value on one line. -/
def compact (value : Value) : String := String.ofList value.compactChars

/-- The text of a value with a line for each member and item. -/
def pretty (value : Value) : String := String.ofList (value.prettyChars 0)

end Value

end SealedVault.Json
