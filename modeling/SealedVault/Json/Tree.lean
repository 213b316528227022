import SealedVault.Json.Token

/-!
# Trees

A JSON text as a tree of its tokens. Strings need not have a text and numbers need not have a
value, so a tree holds what can be skipped as well as what can be used. It is read with a stack of
the arrays and objects that are still open, so that no depth of nesting is too great.
-/

namespace SealedVault.Json

/-- The structure of a JSON text, before its strings and numbers are looked at. -/
inductive Tree where
  | null
  | bool (value : Bool)
  | number (numeral : Numeral)
  | string (text : Option String)
  | array (items : List Tree)
  | object (members : List (Option String × Tree))

namespace Tree

/-- An array or object that is still open, with what it holds so far, the latest first. -/
inductive Frame where
  | items (read : List Tree)
  /-- The key is that of the value that is read now. -/
  | members (read : List (Option String × Tree)) (key : Option String)

mutual

/-- Reads on where a value must begin. -/
def readValue (stack : List Frame) : List Token → Option Tree
  | .null :: rest => readAfter stack .null rest
  | .bool value :: rest => readAfter stack (.bool value) rest
  | .number numeral :: rest => readAfter stack (.number numeral) rest
  | .string text :: rest => readAfter stack (.string text) rest
  | .openBracket :: .closeBracket :: rest => readAfter stack (.array []) rest
  | .openBracket :: rest => readValue (.items [] :: stack) rest
  | .openBrace :: .closeBrace :: rest => readAfter stack (.object []) rest
  | .openBrace :: .string key :: .colon :: rest => readValue (.members [] key :: stack) rest
  | _ => none

/-- Reads on after a value. -/
def readAfter (stack : List Frame) (value : Tree) : List Token → Option Tree
  | [] => if stack.isEmpty then some value else none
  | .comma :: rest =>
    match stack, rest with
    | .items read :: stack, rest => readValue (.items (value :: read) :: stack) rest
    | .members read key :: stack, .string next :: .colon :: rest =>
      readValue (.members ((key, value) :: read) next :: stack) rest
    | _, _ => none
  | .closeBracket :: rest =>
    match stack with
    | .items read :: stack => readAfter stack (.array (value :: read).reverse) rest
    | _ => none
  | .closeBrace :: rest =>
    match stack with
    | .members read key :: stack =>
      readAfter stack (.object ((key, value) :: read).reverse) rest
    | _ => none
  | _ => none

end

/-- The tree of a list of tokens. -/
def ofTokens? (tokens : List Token) : Option Tree := readValue [] tokens

/-- The tree of a whole text. -/
def ofBytes? (bytes : List UInt8) : Option Tree := (tokens? bytes).bind ofTokens?

/-- The text of a string. -/
def text? : Tree → Option String
  | string text => text
  | _ => none

/-- The value of `true` and `false`. -/
def bool? : Tree → Option Bool
  | bool value => some value
  | _ => none

/-- The name of one of several cases: a string, or an object whose only member has that name and
holds null. -/
def caseName? : Tree → Option String
  | string text => text
  | object [(key, null)] => key
  | _ => none

/-- The first member that has the key. -/
def find? (members : List (String × Tree)) (name : String) : Option Tree :=
  (members.find? (·.1 = name)).map (·.2)

/-- The members of an object that have one of the given names, if every key has a text and none
of the names stands twice. -/
def namedMembers? (names : List String) (members : List (Option String × Tree)) :
    Option (List (String × Tree)) := do
  let members ← members.mapM fun (key, value) => key.map fun key => (key, value)
  let known := members.filter fun (key, _) => names.contains key
  if (known.map (·.1)).Nodup then return known else none

/-- The fields of a record: an object with members of these names, or an array of exactly as
many items in the order of the names. -/
def fields? (names : List String) : Tree → Option (List (String × Tree))
  | object members => namedMembers? names members
  | array items => if items.length = names.length then some (names.zip items) else none
  | _ => none

end Tree

end SealedVault.Json
