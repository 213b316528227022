import SealedVault.Text.Quoted

/-!
# Payloads

The text that a record keeps for its owner, with the way it is protected. A payload is stored as
a tag that names the protection and a text.
-/

namespace SealedVault.Sealing

/-- How a stored payload is protected. -/
inductive Protection where
  /-- The text is the payload. -/
  | none
  /-- The text is the base64 of an envelope under the owner's key. -/
  | sealed
deriving Repr, DecidableEq

namespace Protection

/-- The tag that stands for the protection. -/
def tag : Protection → String
  | none => "NO_ENCRYPTION"
  | sealed => "AES_HMAC"

/-- The protection that a tag stands for. -/
def ofTag? (tag : String) : Option Protection :=
  if tag = "NO_ENCRYPTION" then some none
  else if tag = "AES_HMAC" then some sealed
  else Option.none

@[simp] theorem ofTag?_tag (p : Protection) : ofTag? p.tag = some p := by
  cases p <;> simp [ofTag?, tag]

end Protection

/-- A stored text together with its protection. -/
inductive Payload where
  | plain (text : String)
  | sealed (text : String)
deriving Repr, DecidableEq

namespace Payload

/-- The payload stored as the given tag and text. -/
def ofStored : Protection → String → Payload
  | .none, text => plain text
  | .sealed, text => sealed text

/-- How the text is protected. -/
def protection : Payload → Protection
  | plain _ => .none
  | sealed _ => .sealed

/-- The stored text. -/
def text : Payload → String
  | plain text => text
  | sealed text => text

/-- The tag and the text as which the payload is stored. -/
def toStored (p : Payload) : Protection × String := (p.protection, p.text)

/-- A description for messages. -/
def describe : Payload → String
  | plain text => "Plaintext(" ++ Text.quoted text ++ ")"
  | sealed text => "Encrypted(" ++ Text.quoted text ++ ")"

@[simp] theorem ofStored_protection_text (p : Payload) : ofStored p.protection p.text = p := by
  cases p <;> rfl

@[simp] theorem protection_ofStored (p : Protection) (text : String) :
    (ofStored p text).protection = p := by
  cases p <;> rfl

@[simp] theorem text_ofStored (p : Protection) (text : String) :
    (ofStored p text).text = text := by
  cases p <;> rfl

end Payload

end SealedVault.Sealing
