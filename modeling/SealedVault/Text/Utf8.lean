/-!
# UTF-8

The bytes of a text, the text of bytes that are well formed, and the first fault of bytes that
are not. A fault is told by where it begins and by the number of bytes that cannot be continued
to a character, or by the fact that the bytes end inside a character.
-/

namespace SealedVault.Text

/-- The UTF-8 bytes of a text. -/
def utf8Bytes (s : String) : List UInt8 := s.toUTF8.data.toList

/-- The text with the given UTF-8 bytes, if they are well formed. -/
def ofUtf8Bytes? (bytes : List UInt8) : Option String :=
  String.fromUTF8? ⟨bytes.toArray⟩

/-- Where bytes stop being UTF-8. -/
inductive Utf8Fault where
  /-- The `length` bytes at `index` do not begin any character. -/
  | invalid (index length : Nat)
  /-- The bytes end inside the character that begins at `index`. -/
  | incomplete (index : Nat)
deriving Repr, DecidableEq

namespace Utf8Fault

/-- What messages say of the fault. -/
def message : Utf8Fault → String
  | invalid index length =>
    "invalid utf-8 sequence of " ++ toString length ++ " bytes from index " ++ toString index
  | incomplete index => "incomplete utf-8 byte sequence from index " ++ toString index

/-- What stands at the front of some bytes. -/
inductive Front where
  | character (length : Nat)
  | invalid (length : Nat)
  | incomplete
deriving Repr, DecidableEq

/-- A byte that continues a character. -/
def isContinuation (b : UInt8) : Bool := 0x80 ≤ b && b ≤ 0xbf

/-- The bytes after the first, given the range of the second and the number that must follow
it. -/
def frontTail (low high : UInt8) (more : Nat) : List UInt8 → Front
  | [] => .incomplete
  | b :: rest =>
    if low ≤ b && b ≤ high then
      let good := ((rest.take more).takeWhile isContinuation).length
      if good = more then .character (2 + more)
      else if good = rest.length then .incomplete
      else .invalid (2 + good)
    else .invalid 1

/-- Reads the front of nonempty bytes from their first byte. The second byte is narrowed where
longer forms of short characters, surrogates or code points past the last would begin. -/
def front (b : UInt8) (rest : List UInt8) : Front :=
  if b < 0x80 then .character 1
  else if 0xc2 ≤ b && b ≤ 0xdf then frontTail 0x80 0xbf 0 rest
  else if b = 0xe0 then frontTail 0xa0 0xbf 1 rest
  else if b = 0xed then frontTail 0x80 0x9f 1 rest
  else if 0xe1 ≤ b && b ≤ 0xef then frontTail 0x80 0xbf 1 rest
  else if b = 0xf0 then frontTail 0x90 0xbf 2 rest
  else if 0xf1 ≤ b && b ≤ 0xf3 then frontTail 0x80 0xbf 2 rest
  else if b = 0xf4 then frontTail 0x80 0x8f 2 rest
  else .invalid 1

/-- The first fault of bytes that are read from `index` on, after `skip` bytes that belong to a
character already read. -/
def firstFrom (index : Nat) : Nat → List UInt8 → Option Utf8Fault
  | _, [] => none
  | skip + 1, _ :: rest => firstFrom (index + 1) skip rest
  | 0, b :: rest =>
    match front b rest with
    | .character length => firstFrom (index + 1) (length - 1) rest
    | .invalid length => some (.invalid index length)
    | .incomplete => some (.incomplete index)

/-- The first fault of some bytes, if they have one. -/
def first? (bytes : List UInt8) : Option Utf8Fault := firstFrom 0 0 bytes

end Utf8Fault

/-- The text with the given UTF-8 bytes, or the first fault. -/
def decodeUtf8 (bytes : List UInt8) : Except Utf8Fault String :=
  match ofUtf8Bytes? bytes with
  | some s => .ok s
  | none => .error ((Utf8Fault.first? bytes).getD (.incomplete bytes.length))

theorem ofUtf8Bytes?_utf8Bytes (s : String) : ofUtf8Bytes? (utf8Bytes s) = some s := by
  have h : (⟨(utf8Bytes s).toArray⟩ : ByteArray) = s.toUTF8 := by simp [utf8Bytes]
  simp [ofUtf8Bytes?, h, String.fromUTF8?, String.fromUTF8, s.isValidUTF8]

theorem utf8Bytes_of_ofUtf8Bytes?
    {bytes : List UInt8} {s : String} (h : ofUtf8Bytes? bytes = some s) :
    utf8Bytes s = bytes := by
  unfold ofUtf8Bytes? String.fromUTF8? at h
  split at h
  · cases h
    simp [utf8Bytes, String.fromUTF8]
  · simp at h

end SealedVault.Text
