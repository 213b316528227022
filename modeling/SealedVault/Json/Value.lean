import SealedVault.Json.Number
import SealedVault.Json.Tree

/-!
# Values

JSON values. The members of an object that was read are in the order of their keys, and of
members with the same key the last one counts.
-/

namespace SealedVault.Json

/-- What a JSON text stands for. -/
inductive Value where
  | null
  | bool (value : Bool)
  | number (value : Number)
  | text (value : String)
  | array (items : List Value)
  | object (members : List (String × Value))
deriving Repr

namespace Value

/-- Puts a member into its place in the order of keys; one with the same key is replaced. -/
def insertMember (key : String) (value : Value) : List (String × Value) → List (String × Value)
  | [] => [(key, value)]
  | (k, v) :: rest =>
    if key < k then (key, value) :: (k, v) :: rest
    else if key = k then (key, value) :: rest
    else (k, v) :: insertMember key value rest

/-- The members in the order of their keys. -/
def sortMembers (members : List (String × Value)) : List (String × Value) :=
  members.foldl (fun sorted (key, value) => insertMember key value sorted) []

mutual

/-- The value of a tree whose arrays and objects are nested no more than `depth` times. -/
def ofTree? (depth : Nat) : Tree → Option Value
  | .null => some .null
  | .bool value => some (.bool value)
  | .number numeral => (Number.ofNumeral? numeral).map .number
  | .string s => s.map .text
  | .array items => if depth = 0 then none else (ofTrees? (depth - 1) items).map .array
  | .object members =>
    if depth = 0 then none
    else (ofMembers? (depth - 1) members).map fun members => .object (sortMembers members)

/-- The values of several trees. -/
def ofTrees? (depth : Nat) : List Tree → Option (List Value)
  | [] => some []
  | item :: rest => do
    let value ← ofTree? depth item
    let values ← ofTrees? depth rest
    return value :: values

/-- The members of several trees with keys, each of which must have a text. -/
def ofMembers? (depth : Nat) : List (Option String × Tree) → Option (List (String × Value))
  | [] => some []
  | (key, item) :: rest => do
    let key ← key
    let value ← ofTree? depth item
    let values ← ofMembers? depth rest
    return (key, value) :: values

end

/-- The number of times that arrays and objects may be nested. -/
def depthLimit : Nat := 127

/-- The value of a whole text. -/
def ofBytes? (bytes : List UInt8) : Option Value :=
  (Tree.ofBytes? bytes).bind (ofTree? depthLimit)

/-- The member of an object with the given key. -/
def member? (name : String) : Value → Option Value
  | object members => (members.find? (·.1 = name)).map (·.2)
  | _ => none

end Value

end SealedVault.Json
