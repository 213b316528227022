import SealedVault.Text.LetterCase

/-!
# Lower case

The full lower-case form of a text. Each character is replaced by its partner; the capital I
with a dot becomes an i followed by a combining dot, and a capital sigma at the end of a word
takes its final form.
-/

namespace SealedVault.Text

/-- After characters that case rules look past comes one that has case. -/
def casedAfterIgnorable (cs : List Char) : Bool :=
  match cs.dropWhile isCaseIgnorable with
  | c :: _ => isCased c
  | [] => false

/-- The lower-case form of one character between the reversed text before it and the text
after it. -/
def lowercaseAt (before : List Char) (c : Char) (after : List Char) : List Char :=
  if c = 'Σ' then
    if casedAfterIgnorable before && !casedAfterIgnorable after then ['ς'] else ['σ']
  else if c = 'İ' then ['i', '\u0307']
  else [lowercaseChar c]

/-- The lower-case form of the rest of a text whose reversed beginning is given. -/
def lowercaseFrom (before : List Char) : List Char → List Char
  | [] => []
  | c :: after => lowercaseAt before c after ++ lowercaseFrom (c :: before) after

/-- The lower-case form of a text. -/
def lowercase (s : String) : String := String.ofList (lowercaseFrom [] s.toList)

end SealedVault.Text
