import Mathlib.Algebra.Order.Floor.Div
import SealedVault.Proofs.Sealing.Opening
import SealedVault.Proofs.Text.Utf8
import SealedVault.Record.Codec

/-!
# What the length of a sealed text tells

Padding adds from one to sixteen bytes, so that a plaintext of `n` bytes fills one block more than
the `n / 16` that it fills alone; the initial block is one more. Base64 turns each begun group of
three bytes into four characters. As blocks are longer than such groups, one block more always
makes the text longer: its length tells the number of whole blocks of the plaintext, and neither
the key nor the owner nor the initial block has any part in it. None of its characters is escaped
in a record's file, so the length of the file tells as much.
-/

namespace SealedVault

/-! ## The length of a base64 text -/

namespace Text.Base64

/-- The characters of the standard alphabet, in the order of their values. -/
def alphabet : List Char :=
  "ABCDEFGHIJKLMNOPQRSTUVWXYZabcdefghijklmnopqrstuvwxyz0123456789+/".toList

/-- Characters of the alphabet, behind which padding may stand. -/
def IsPaddedText (chars : List Char) : Prop :=
  ∃ (digits : List Char) (n : Nat), n ≤ 2 ∧ chars = digits ++ List.replicate n '=' ∧
    ∀ c ∈ digits, c ∈ alphabet

theorem digit_mem_alphabet {n : Nat} (h : n < 64) : digit n ∈ alphabet := by
  have hall : ∀ i : Fin 64, digit i ∈ alphabet := by decide +kernel
  exact hall ⟨n, h⟩

theorem length_encodeChars (bytes : List UInt8) :
    (encodeChars bytes).length = 4 * (bytes.length ⌈/⌉ 3) := by
  rw [Nat.ceilDiv_eq_add_pred_div]
  fun_induction encodeChars bytes with
  | case1 => rfl
  | case2 a => simp
  | case3 a b => simp
  | case4 a b c rest ih =>
    simp only [List.length_cons, ih]
    omega

theorem isPaddedText_encodeChars (bytes : List UInt8) : IsPaddedText (encodeChars bytes) := by
  fun_induction encodeChars bytes with
  | case1 => exact ⟨[], 0, by omega, rfl, by simp⟩
  | case2 a =>
    have ha := a.toNat_lt
    refine ⟨[_, _], 2, by omega, rfl, ?_⟩
    simp only [List.forall_mem_cons, List.not_mem_nil, false_implies, implies_true, and_true]
    exact ⟨digit_mem_alphabet (by omega), digit_mem_alphabet (by omega)⟩
  | case3 a b =>
    have ha := a.toNat_lt
    have hb := b.toNat_lt
    refine ⟨[_, _, _], 1, by omega, rfl, ?_⟩
    simp only [List.forall_mem_cons, List.not_mem_nil, false_implies, implies_true, and_true]
    exact ⟨digit_mem_alphabet (by omega), digit_mem_alphabet (by omega),
      digit_mem_alphabet (by omega)⟩
  | case4 a b c rest ih =>
    have ha := a.toNat_lt
    have hb := b.toNat_lt
    have hc := c.toNat_lt
    obtain ⟨digits, n, hn, hrest, hdigits⟩ := ih
    refine ⟨_ :: _ :: _ :: _ :: digits, n, hn, by rw [hrest]; rfl, ?_⟩
    simp only [List.forall_mem_cons]
    exact ⟨digit_mem_alphabet (by omega), digit_mem_alphabet (by omega),
      digit_mem_alphabet (by omega), digit_mem_alphabet (by omega), hdigits⟩

theorem IsPaddedText.forall_mem {chars : List Char} (h : IsPaddedText chars) {p : Char → Bool}
    (hp : ('=' :: alphabet).all p = true) : ∀ c ∈ chars, p c = true := by
  have hall := List.all_eq_true.mp hp
  obtain ⟨digits, n, -, rfl, hdigits⟩ := h
  intro c hc
  rcases List.mem_append.mp hc with hc | hc
  · exact hall c (List.mem_cons_of_mem _ (hdigits c hc))
  · rw [List.eq_of_mem_replicate hc]
    exact hall '=' List.mem_cons_self

end Text.Base64

/-! ## The length of an envelope -/

namespace Cipher

/-- Padding completes the last block, or adds one when there is nothing to complete. -/
theorem length_encryptBytes (key : List UInt8) (initial : Block) (plain : List UInt8) :
    (encryptBytes key initial plain).length = 16 + 16 * (plain.length / 16) := by
  obtain ⟨blocks, hpad, hencrypt⟩ := exists_encryptBytes key initial plain
  have hlength := congrArg List.length hpad
  rw [length_bytesOfBlocks, length_pad] at hlength
  rw [hencrypt, length_bytesOfBlocks, length_chainEncrypt, hlength]
  simp only [paddingLength, Block.size]
  omega

end Cipher

namespace Sealing

open Cipher (Block)
open Text.Base64 (IsPaddedText)

/-- How long a plaintext makes its envelope behind the initial block, and how long and of which
characters the text of the envelope is. -/
structure HasLengthOf (initial : Block) (plaintext : String) (envelope : List UInt8)
    (stored : String) : Prop where
  front : initial.toList <+: envelope
  envelope_length : envelope.length = 32 + 16 * (plaintext.utf8ByteSize / 16)
  text_length : stored.length = 4 * ((32 + 16 * (plaintext.utf8ByteSize / 16)) ⌈/⌉ 3)
  characters : IsPaddedText stored.toList

theorem length_encode (bytes : List UInt8) :
    (Text.Base64.encode bytes).length = 4 * (bytes.length ⌈/⌉ 3) := by
  rw [Text.Base64.encode, String.length_ofList, Text.Base64.length_encodeChars]

theorem hasLengthOf_of_wrap {key envelope : List UInt8} {initial : Block} {plaintext : String}
    (h : Envelope.wrap key initial (Text.utf8Bytes plaintext) = .ok envelope) :
    HasLengthOf initial plaintext envelope (Text.Base64.encode envelope) := by
  rw [Envelope.wrap_eq_ok (Envelope.length_mem_of_wrap h)] at h
  cases h
  have hlength : (initial.toList ++
      Cipher.encryptBytes key initial (Text.utf8Bytes plaintext)).length =
        32 + 16 * (plaintext.utf8ByteSize / 16) := by
    rw [List.length_append, Block.length_toList, Cipher.length_encryptBytes,
      Text.length_utf8Bytes, Block.size]
    omega
  refine ⟨List.prefix_append _ _, hlength, ?_, ?_⟩
  · rw [length_encode, hlength]
  · rw [Text.Base64.encode, String.toList_ofList]
    exact Text.Base64.isPaddedText_encodeChars _

/-- A block is longer than a group of three bytes, so that each block more shows in the text. -/
theorem ceilDiv_blocks_inj {m n : Nat} :
    4 * ((32 + 16 * m) ⌈/⌉ 3) = 4 * ((32 + 16 * n) ⌈/⌉ 3) ↔ m = n := by
  rw [Nat.ceilDiv_eq_add_pred_div, Nat.ceilDiv_eq_add_pred_div]
  omega

theorem HasLengthOf.length_eq_iff {initial initial' : Block} {plaintext plaintext' : String}
    {envelope envelope' : List UInt8} {stored stored' : String}
    (h : HasLengthOf initial plaintext envelope stored)
    (h' : HasLengthOf initial' plaintext' envelope' stored') :
    stored.length = stored'.length ↔
      plaintext.utf8ByteSize / 16 = plaintext'.utf8ByteSize / 16 := by
  rw [h.text_length, h'.text_length]
  exact ceilDiv_blocks_inj

end Sealing

/-! ## The length of a record's file -/

namespace Json

theorem stringChars_of_isPaddedText {s : String} (h : Text.Base64.IsPaddedText s.toList) :
    stringChars s = '"' :: s.toList ++ ['"'] := by
  have hkept : ∀ c ∈ s.toList, escapedChar c = [c] := fun c hc =>
    of_decide_eq_true (h.forall_mem (p := fun c => decide (escapedChar c = [c])) (by decide +kernel)
      c hc)
  have hall : s.toList.flatMap escapedChar = s.toList := by
    rw [List.flatMap_congr hkept, List.flatMap_singleton']
  rw [stringChars, hall]

end Json

namespace Record

open Json.Value (join prettyMembers)

variable {kind : Kind}

/-- The record with a sealed payload in place of its own. -/
def withSealed (r : Record kind) (stored : String) : Record kind :=
  { r with payload := .sealed stored }

/-- A text that is joined with others stands between texts that do not depend on it. -/
theorem exists_join_context (separator : List Char) (before after : List (List Char)) :
    ∃ left right, ∀ line, join separator (before ++ line :: after) = left ++ line ++ right := by
  induction before with
  | nil =>
    cases after with
    | nil => exact ⟨[], [], fun line => by simp [join]⟩
    | cons next rest =>
      exact ⟨[], separator ++ join separator (next :: rest), fun line => by simp [join]⟩
  | cons first rest ih =>
    obtain ⟨left, right, hjoin⟩ := ih
    refine ⟨first ++ separator ++ left, right, fun line => ?_⟩
    have hstep : join separator (first :: rest ++ line :: after) =
        first ++ separator ++ join separator (rest ++ line :: after) := by
      rw [List.cons_append, join]
      simp
    rw [hstep, hjoin]
    simp only [List.append_assoc]

theorem prettyMembers_append (level : Nat) (front back : List (String × Json.Value)) :
    prettyMembers level (front ++ back) =
      prettyMembers level front ++ prettyMembers level back := by
  induction front with
  | nil => rfl
  | cons m rest ih => rw [List.cons_append, prettyMembers, prettyMembers, ih, List.cons_append]

/-- The payload is one member; the others say nothing of it but that it is sealed. -/
theorem exists_members_withSealed (r : Record kind) :
    ∃ front back, ∀ stored, (r.withSealed stored).members =
      front ++ (kind.payloadField, .text stored) :: back := by
  let members := (r.withSealed "").members
  let index := kind.fieldNames.idxOf kind.payloadField
  refine ⟨members.take index, members.drop (index + 1), fun stored => ?_⟩
  cases kind <;> rfl

/-- In the file of a record the stored text stands between texts that do not depend on it. -/
theorem exists_file_context (r : Record kind) :
    ∃ left right, ∀ stored, (r.withSealed stored).toJson.pretty =
      String.ofList (left ++ Json.stringChars stored ++ right) := by
  obtain ⟨front, back, hmembers⟩ := r.exists_members_withSealed
  obtain ⟨left, right, hjoin⟩ := exists_join_context (',' :: Json.Value.newLine 1)
    (prettyMembers 1 front) (prettyMembers 1 back)
  refine ⟨'\x7b' :: Json.Value.newLine 1 ++ left ++ Json.stringChars kind.payloadField ++
    [':', ' '], right ++ Json.Value.newLine 0 ++ ['\x7d'], fun stored => ?_⟩
  have hlines : prettyMembers 1 (r.withSealed stored).members ≠ [] := by
    rw [hmembers, prettyMembers_append, prettyMembers]
    simp
  rw [Json.Value.pretty, toJson, Json.Value.prettyChars, Json.Value.block, Nat.zero_add,
    if_neg (by simpa using hlines), hmembers, prettyMembers_append, prettyMembers, hjoin,
    Json.Value.prettyChars]
  simp only [List.append_assoc, List.cons_append, List.nil_append]

/-- A base64 text adds its own length to the file of the record that keeps it. -/
theorem exists_length_toBytes_eq (r : Record kind) :
    ∃ rest, ∀ stored : String, Text.Base64.IsPaddedText stored.toList →
      (r.withSealed stored).toBytes.length = rest + stored.length := by
  obtain ⟨left, right, hfile⟩ := r.exists_file_context
  refine ⟨(Text.charBytes left).length + (Text.charBytes right).length + 2, fun stored h => ?_⟩
  have hascii : ∀ c ∈ stored.toList, c.toNat < 128 := fun c hc =>
    of_decide_eq_true (h.forall_mem (p := fun c => decide (c.toNat < 128)) (by decide +kernel) c hc)
  have hbytes := Text.charBytes_of_lt hascii
  have hquote : Text.charBytes ['"'] = [0x22] := rfl
  rw [toBytes, hfile, Text.utf8Bytes_ofList, Json.stringChars_of_isPaddedText h,
    List.cons_append, ← List.singleton_append]
  simp only [Text.charBytes_append, hbytes, hquote, List.length_append, List.length_map,
    String.length_toList, List.length_singleton]
  omega

end Record

/-! ## Lengths and whole blocks -/

namespace Sealing.Service

open Cipher (Block)

variable {key : MasterKey} {owner : String} {initial : Block} {plaintext stored : String}

theorem exists_envelope_of_protect
    (h : (⟨some key⟩ : Service).protect initial owner plaintext = .ok (.sealed stored)) :
    ∃ envelope, HasLengthOf initial plaintext envelope stored := by
  have howner : checkOwner owner = .ok () := by
    obtain ⟨_, howner, -⟩ := bind_eq_ok_iff.mp h
    exact howner
  obtain ⟨found, hprotect, envelope, hwrap, rfl⟩ := exists_protect key howner initial plaintext
  rw [h] at hprotect
  cases hprotect
  exact ⟨envelope, hasLengthOf_of_wrap hwrap⟩

/-- With a key every payload of an owner who has a name is sealed, into an envelope of two blocks
and one more for each whole block of the plaintext. The stored texts of two payloads are equally
long, and so are the files of a record that keeps one or the other, if and only if the plaintexts
have the same number of whole blocks, whatever the keys, the owners and the initial blocks are. -/
theorem stored_length_tells_whole_blocks_only :
    (∀ (key : MasterKey) (owner : String) (initial : Block) (plaintext : String),
      Text.trim owner ≠ "" →
        ∃ envelope stored,
          Envelope.wrap (key.ownerKey owner) initial (Text.utf8Bytes plaintext) = .ok envelope ∧
            (⟨some key⟩ : Service).protect initial owner plaintext = .ok (.sealed stored) ∧
            stored = Text.Base64.encode envelope ∧
            HasLengthOf initial plaintext envelope stored) ∧
      ∀ (key key' : MasterKey) (owner owner' : String) (initial initial' : Block)
        (plaintext plaintext' stored stored' : String),
        (⟨some key⟩ : Service).protect initial owner plaintext = .ok (.sealed stored) →
        (⟨some key'⟩ : Service).protect initial' owner' plaintext' = .ok (.sealed stored') →
          (stored.length = stored'.length ↔
            plaintext.utf8ByteSize / 16 = plaintext'.utf8ByteSize / 16) ∧
          ∀ (kind : Kind) (r : Record kind),
            (r.withSealed stored).toBytes.length = (r.withSealed stored').toBytes.length ↔
              plaintext.utf8ByteSize / 16 = plaintext'.utf8ByteSize / 16 := by
  constructor
  · intro key owner initial plaintext howner
    obtain ⟨stored, hprotect, envelope, hwrap, rfl⟩ :=
      exists_protect key (checkOwner_of_ne howner) initial plaintext
    exact ⟨envelope, _, hwrap, hprotect, rfl, hasLengthOf_of_wrap hwrap⟩
  · intro key key' owner owner' initial initial' plaintext plaintext' stored stored' h h'
    obtain ⟨envelope, hlength⟩ := exists_envelope_of_protect h
    obtain ⟨envelope', hlength'⟩ := exists_envelope_of_protect h'
    have htexts := hlength.length_eq_iff hlength'
    refine ⟨htexts, fun kind r => ?_⟩
    obtain ⟨rest, hfile⟩ := r.exists_length_toBytes_eq
    rw [hfile stored hlength.characters, hfile stored' hlength'.characters, Nat.add_right_inj]
    exact htexts

/-- Fifteen bytes and none fill no whole block and are stored in 44 characters. -/
theorem stored_length_of_less_than_a_block :
    Text.trim "alice" ≠ "" ∧
      ∃ stored stored',
        (⟨some ⟨List.replicate 16 1, by decide⟩⟩ : Service).protect default "alice"
            "fifteen bytes.." = .ok (.sealed stored) ∧
          (⟨some ⟨List.replicate 32 2, by decide⟩⟩ : Service).protect default "bob" "" =
            .ok (.sealed stored') ∧
          stored.length = 44 ∧ stored.length = stored'.length := by
  have hname : Text.trim "alice" ≠ "" := by decide
  obtain ⟨hseals, htells⟩ := stored_length_tells_whole_blocks_only
  obtain ⟨_, stored, -, hprotect, -, hlength⟩ :=
    hseals ⟨List.replicate 16 1, by decide⟩ "alice" default "fifteen bytes.." hname
  obtain ⟨_, stored', -, hprotect', -, -⟩ :=
    hseals ⟨List.replicate 32 2, by decide⟩ "bob" default "" (by decide)
  refine ⟨hname, stored, stored', hprotect, hprotect', ?_, ?_⟩
  · rw [hlength.text_length]
    decide
  · exact (htells _ _ _ _ _ _ _ _ _ _ hprotect hprotect').1.mpr (by decide)

end Sealing.Service

end SealedVault
