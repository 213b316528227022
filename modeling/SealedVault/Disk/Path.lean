/-!
# Paths

A path is a text in which slashes separate names. Joining paths changes nothing but the slash
between them, and a part that begins with a slash stands for itself.
-/

namespace SealedVault

/-- The text of a path, as it was given. -/
structure Path where
  text : String
deriving Repr, DecidableEq

namespace Path

/-- The path that is reached from another one by a relative part. -/
def join (p : Path) (part : String) : Path :=
  if part.toList.head? = some '/' then ⟨part⟩
  else if p.text = "" ∨ p.text.toList.getLast? = some '/' then ⟨p.text ++ part⟩
  else ⟨p.text ++ "/" ++ part⟩

/-- The parts of a text between slashes, given the reversed beginning of the first one. -/
def splitSlashes (part : List Char) : List Char → List (List Char)
  | [] => [part.reverse]
  | c :: rest =>
    if c = '/' then part.reverse :: splitSlashes [] rest else splitSlashes (c :: part) rest

/-- The parts of the path between its slashes. -/
def parts (p : Path) : List String := (splitSlashes [] p.text.toList).map String.ofList

/-- The part names nothing: it is empty or a dot. -/
def isEmptyPart (part : String) : Bool := part = "" || part = "."

/-- The names along the path. -/
def names (p : Path) : List String := p.parts.filter fun part => !isEmptyPart part

/-- The path ends in a slash or a dot, so that it can only lead to a directory. -/
def wantsDirectory (p : Path) : Bool := p.parts.getLast?.any isEmptyPart

/-- The path ends in a dot, but for slashes after it. Its last name is then passed through, like
the names before it. -/
def endsInDot (p : Path) : Bool := (p.parts.reverse.dropWhile (· = "")).head? = some "."

/-- The path has no name at its end: it has none at all, or two dots stand there. -/
def endsUnnamed (p : Path) : Bool := p.names.getLast?.all (· = "..")

/-- The path to what contains the last name. -/
def parent (p : Path) : Path :=
  let parts := (p.parts.reverse.dropWhile isEmptyPart).tail.dropWhile isEmptyPart
  ⟨"/".intercalate parts.reverse⟩

/-- The path has a character that no name can have. -/
def isUnusable (p : Path) : Bool := p.text.toList.contains '\x00'

/-- The least number of bytes that is too many for a path. -/
def sizeBound : Nat := 4096

/-- The path has too many bytes to be followed. -/
def isTooLong (p : Path) : Bool := sizeBound ≤ p.text.utf8ByteSize

end Path

end SealedVault
