/-!
# Failures of sealing and opening

The kinds of failure, each with a detail that says what was wrong, and their texts.
-/

namespace SealedVault.Sealing

/-- Why a payload could not be sealed or opened. -/
inductive SealingError where
  /-- The key is missing or cannot be used. -/
  | invalidKeyMaterial (detail : String)
  /-- The caller passed something unusable. -/
  | invalidArgument (detail : String)
  /-- The stored value is not an envelope. -/
  | malformedEnvelope (detail : String)
  /-- The envelope does not open under the key. -/
  | decryptionFailed (detail : String)
  /-- The cipher itself failed. -/
  | cipher (detail : String)
deriving Repr, DecidableEq

namespace SealingError

/-- The stable name of the kind of failure. -/
def code : SealingError → String
  | invalidKeyMaterial _ => "invalid_key_material"
  | invalidArgument _ => "invalid_argument"
  | malformedEnvelope _ => "malformed_envelope"
  | decryptionFailed _ => "decryption_failed"
  | cipher _ => "cipher_error"

/-- What the failure says. -/
def message : SealingError → String
  | invalidKeyMaterial detail => "invalid key material: " ++ detail
  | invalidArgument detail => "invalid argument: " ++ detail
  | malformedEnvelope detail => "malformed envelope: " ++ detail
  | decryptionFailed detail => "decryption failed: " ++ detail
  | cipher detail => "cipher error: " ++ detail

end SealingError

end SealedVault.Sealing
