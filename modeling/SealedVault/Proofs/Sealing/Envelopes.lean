import SealedVault.Proofs.Sealing.Opening

/-!
# Envelopes and their failures

Which bytes are envelopes under a key, and how those that are not fail to open. Bytes too short for
an initial block are malformed whatever the key. Behind an initial block and with a key of a
supported size, what opens is what was wrapped, and everything else fails to decrypt: bytes that are
not whole blocks, no blocks at all, and blocks that do not decrypt to padded bytes.
-/

namespace SealedVault

/-! ## Padding -/

namespace Cipher

/-- The bytes end with `n` bytes of value `n`, of which there are one to sixteen. -/
def IsPadded (bytes : List UInt8) : Prop :=
  ∃ (plain : List UInt8) (n : Nat), 1 ≤ n ∧ n ≤ 16 ∧
    bytes = plain ++ List.replicate n (UInt8.ofNat n)

theorem not_isPadded_nil : ¬IsPadded [] := by
  rintro ⟨plain, n, hpos, -, hbytes⟩
  have hlength := congrArg List.length hbytes
  rw [List.length_append, List.length_replicate, List.length_nil] at hlength
  omega

theorem isPadded_of_unpad? {bytes plain : List UInt8} (h : unpad? bytes = some plain) :
    IsPadded bytes := by
  unfold unpad? at h
  split at h
  · cases h
  next last hlast =>
    simp only at h
    split at h
    next hok =>
      obtain ⟨hpos, hle, -, htail⟩ := hok
      refine ⟨bytes.take (bytes.length - last.toNat), last.toNat, hpos, hle, ?_⟩
      rw [UInt8.ofNat_toNat, ← htail, List.take_append_drop]
    · cases h

theorem unpad?_of_isPadded {plain : List UInt8} {n : Nat} (hpos : 1 ≤ n) (hle : n ≤ 16) :
    unpad? (plain ++ List.replicate n (UInt8.ofNat n)) = some plain := by
  have hne : List.replicate n (UInt8.ofNat n) ≠ [] := by
    rw [Ne, List.replicate_eq_nil_iff]
    omega
  have hlast : (plain ++ List.replicate n (UInt8.ofNat n)).getLast? = some (UInt8.ofNat n) := by
    rw [List.getLast?_append_of_ne_nil _ hne, List.getLast?_replicate, if_neg (by omega)]
  have hbyte : (UInt8.ofNat n).toNat = n := by
    rw [UInt8.toNat_ofNat']
    omega
  simp only [unpad?, hlast, hbyte, List.length_append, List.length_replicate]
  rw [if_pos ⟨hpos, hle, by omega, by simp⟩]
  simp

/-- Padding can be removed if and only if it is there. -/
theorem unpad?_eq_none_iff {bytes : List UInt8} : unpad? bytes = none ↔ ¬IsPadded bytes := by
  constructor
  · rintro hnone ⟨plain, n, hpos, hle, rfl⟩
    rw [unpad?_of_isPadded hpos hle] at hnone
    cases hnone
  · intro hnot
    rw [Option.eq_none_iff_forall_ne_some]
    intro plain hplain
    exact hnot (isPadded_of_unpad? hplain)

/-- Bytes do not decrypt if and only if they are no whole blocks, or blocks whose decryption is not
padded. -/
theorem decryptBytes?_eq_none_iff {key bytes : List UInt8} {initial : Block} :
    decryptBytes? key initial bytes = none ↔
      ∀ blocks, bytes = bytesOfBlocks blocks →
        ¬IsPadded (bytesOfBlocks (chainDecrypt (Aes.roundKeys key) initial blocks)) := by
  constructor
  · rintro hnone blocks rfl
    rw [decryptBytes?, blocks?_bytesOfBlocks] at hnone
    exact unpad?_eq_none_iff.mp hnone
  · intro hnot
    rw [decryptBytes?]
    cases hblocks : blocks? bytes with
    | none => rfl
    | some blocks => exact unpad?_eq_none_iff.mpr (hnot blocks (bytesOfBlocks_of_blocks? hblocks))

end Cipher

/-! ## Envelopes -/

namespace Sealing.Envelope

open Cipher (Block IsPadded bytesOfBlocks chainDecrypt decryptBytes? encryptBytes)

variable {key envelope plain : List UInt8}

/-- An envelope begins with its initial block. -/
theorem take_of_wrap {initial : Block} (h : wrap key initial plain = .ok envelope) :
    initial.toList = envelope.take 16 := by
  rw [wrap_eq_ok (length_mem_of_wrap h)] at h
  cases h
  exact (List.take_left' initial.length_toList).symm

/-- There is one initial block and one plaintext behind an envelope. -/
theorem wrap_injective {initial initial' : Block} {plain' : List UInt8}
    (h : wrap key initial plain = .ok envelope) (h' : wrap key initial' plain' = .ok envelope) :
    initial = initial' ∧ plain = plain' := by
  constructor
  · apply Block.toList_injective
    rw [take_of_wrap h, take_of_wrap h']
  · have hkey := length_mem_of_wrap h
    have hopen := (unwrap_eq_ok_iff hkey).mpr ⟨initial, h⟩
    rw [(unwrap_eq_ok_iff hkey).mpr ⟨initial', h'⟩] at hopen
    cases hopen
    rfl

/-- The initial block of an envelope is one with which the cipher can be set up. -/
theorem wrap_ne_cipher (key : List UInt8) (initial : Block) (plain : List UInt8)
    (detail : String) : wrap key initial plain ≠ .error (.cipher detail) := by
  intro h
  rw [wrap] at h
  cases hsetUp : setUp key initial.toList with
  | ok chain =>
    rw [hsetUp] at h
    cases h
  | error e =>
    rw [hsetUp, error_bind] at h
    cases h
    obtain ⟨-, hlength⟩ := setUp_eq_cipher_iff.mp ⟨detail, hsetUp⟩
    exact hlength initial.length_toList

/-! ### Opening -/

theorem unwrap_of_unsupported (h : 16 ≤ envelope.length) (hkey : key.length ∉ [16, 24, 32]) :
    unwrap key envelope = .error (unsupportedKey key) := by
  obtain ⟨initial, body, rfl⟩ := Block.exists_eq_append h
  rw [unwrap_append_eq, setUp_of_unsupported hkey]
  rfl

theorem unwrap_of_wrap {initial : Block} (h : wrap key initial plain = .ok envelope) :
    unwrap key envelope = .ok plain :=
  (unwrap_eq_ok_iff (length_mem_of_wrap h)).mpr ⟨initial, h⟩

/-- What an outcome of opening tells about the envelope and the key. -/
def Tells (key envelope : List UInt8) : Except SealingError (List UInt8) → Prop
  | .ok plain => ∃ initial, wrap key initial plain = .ok envelope
  | .error (.malformedEnvelope _) => envelope.length < 16
  | .error (.invalidKeyMaterial _) => 16 ≤ envelope.length ∧ key.length ∉ [16, 24, 32]
  | .error (.decryptionFailed _) =>
    16 ≤ envelope.length ∧ key.length ∈ [16, 24, 32] ∧
      ∀ initial plain, wrap key initial plain ≠ .ok envelope
  | .error _ => False

theorem tells_unwrap (key envelope : List UInt8) : Tells key envelope (unwrap key envelope) := by
  by_cases hshort : envelope.length < 16
  · obtain ⟨detail, h⟩ : ∃ detail, unwrap key envelope = .error (.malformedEnvelope detail) :=
      unwrap_of_short hshort
    rw [h]
    exact hshort
  have hlong := Nat.le_of_not_lt hshort
  by_cases hkey : key.length ∈ [16, 24, 32]
  · cases h : unwrap key envelope with
    | ok plain => exact (unwrap_eq_ok_iff hkey).mp h
    | error e =>
      have hfailed : e = .decryptionFailed "bad padding or wrong key" := by
        obtain ⟨initial, body, rfl⟩ := Block.exists_eq_append hlong
        rw [unwrap_append hkey] at h
        cases hdecrypt : decryptBytes? key initial body with
        | some plain =>
          rw [hdecrypt] at h
          cases h
        | none =>
          rw [hdecrypt] at h
          cases h
          rfl
      subst hfailed
      refine ⟨hlong, hkey, fun initial plain hwrap => ?_⟩
      rw [unwrap_of_wrap hwrap] at h
      cases h
  · rw [unwrap_of_unsupported hlong hkey]
    exact ⟨hlong, hkey⟩

theorem tells_of_unwrap_eq {outcome : Except SealingError (List UInt8)}
    (h : unwrap key envelope = outcome) : Tells key envelope outcome :=
  h ▸ tells_unwrap key envelope

/-- Decryption fails where no whole blocks that decrypt to padded bytes follow an initial block. -/
theorem unwrap_eq_failed_iff_not_padded :
    (∃ detail, unwrap key envelope = .error (.decryptionFailed detail)) ↔
      16 ≤ envelope.length ∧ key.length ∈ [16, 24, 32] ∧
        ∀ (initial : Block) (blocks : List Block),
          envelope = initial.toList ++ bytesOfBlocks blocks →
            ¬IsPadded (bytesOfBlocks (chainDecrypt (Cipher.Aes.roundKeys key) initial blocks)) := by
  constructor
  · rintro ⟨detail, h⟩
    obtain ⟨hlong, hkey, -⟩ := tells_of_unwrap_eq h
    refine ⟨hlong, hkey, ?_⟩
    rintro initial blocks rfl
    rw [unwrap_append hkey] at h
    cases hdecrypt : decryptBytes? key initial (bytesOfBlocks blocks) with
    | none => exact Cipher.decryptBytes?_eq_none_iff.mp hdecrypt blocks rfl
    | some plain =>
      rw [hdecrypt] at h
      cases h
  · rintro ⟨hlong, hkey, hnot⟩
    obtain ⟨initial, body, rfl⟩ := Block.exists_eq_append hlong
    have hnone : decryptBytes? key initial body = none :=
      Cipher.decryptBytes?_eq_none_iff.mpr fun blocks hblocks =>
        hnot initial blocks (by rw [hblocks])
    rw [unwrap_append hkey, hnone]
    exact ⟨_, rfl⟩

/-- When an envelope opens under a key, and which failure it gives when it does not. -/
structure Classified (key envelope : List UInt8) : Prop where
  /-- Bytes are malformed if and only if they are too short for an initial block. -/
  malformed_iff : (∃ detail, unwrap key envelope = .error (.malformedEnvelope detail)) ↔
    envelope.length < 16
  /-- Longer bytes blame the key if and only if its size is not supported. -/
  invalidKey_iff : (∃ detail, unwrap key envelope = .error (.invalidKeyMaterial detail)) ↔
    16 ≤ envelope.length ∧ key.length ∉ [16, 24, 32]
  /-- Bytes open to what was wrapped behind the initial block that they begin with. -/
  ok_iff (plain : List UInt8) : unwrap key envelope = .ok plain ↔
    ∃ initial : Block, initial.toList = envelope.take 16 ∧ wrap key initial plain = .ok envelope
  /-- Decryption fails in all remaining cases. -/
  failed_iff : (∃ detail, unwrap key envelope = .error (.decryptionFailed detail)) ↔
    16 ≤ envelope.length ∧ key.length ∈ [16, 24, 32] ∧
      ∀ initial plain, wrap key initial plain ≠ .ok envelope
  /-- Among them are no whole blocks, no blocks at all, and any wrong padding. -/
  failed_iff_not_padded :
    (∃ detail, unwrap key envelope = .error (.decryptionFailed detail)) ↔
      16 ≤ envelope.length ∧ key.length ∈ [16, 24, 32] ∧
        ∀ (initial : Block) (blocks : List Block),
          envelope = initial.toList ++ bytesOfBlocks blocks →
            ¬IsPadded (bytesOfBlocks (chainDecrypt (Cipher.Aes.roundKeys key) initial blocks))
  /-- The cipher can always be set up with the initial block of an envelope. -/
  ne_cipher (detail : String) : unwrap key envelope ≠ .error (.cipher detail)

theorem classified (key envelope : List UInt8) : Classified key envelope where
  malformed_iff := ⟨fun ⟨_, h⟩ => tells_of_unwrap_eq h, unwrap_of_short⟩
  invalidKey_iff := by
    refine ⟨fun ⟨_, h⟩ => tells_of_unwrap_eq h, ?_⟩
    rintro ⟨hlong, hkey⟩
    exact ⟨_, unwrap_of_unsupported hlong hkey⟩
  ok_iff plain := by
    constructor
    · intro h
      obtain ⟨initial, hwrap⟩ := tells_of_unwrap_eq h
      exact ⟨initial, take_of_wrap hwrap, hwrap⟩
    · rintro ⟨initial, -, hwrap⟩
      exact unwrap_of_wrap hwrap
  failed_iff := by
    refine ⟨fun ⟨_, h⟩ => tells_of_unwrap_eq h, ?_⟩
    rintro ⟨hlong, hkey, hnone⟩
    have htells := tells_unwrap key envelope
    cases h : unwrap key envelope with
    | ok plain =>
      obtain ⟨initial, hwrap⟩ := tells_of_unwrap_eq h
      exact absurd hwrap (hnone initial plain)
    | error e =>
      rw [h] at htells
      cases e with
      | decryptionFailed detail => exact ⟨detail, rfl⟩
      | malformedEnvelope detail => exact absurd htells (Nat.not_lt.mpr hlong)
      | invalidKeyMaterial detail => exact absurd hkey htells.2
      | invalidArgument detail => exact htells.elim
      | cipher detail => exact htells.elim
  failed_iff_not_padded := unwrap_eq_failed_iff_not_padded
  ne_cipher _ h := tells_of_unwrap_eq h

/-- Under a key of a supported size, everything is wrapped behind every initial block, and opens
again. Under no other key is anything wrapped, and with none does setting up the cipher fail. No two
plaintexts or initial blocks have an envelope in common. Whatever is opened is classified. -/
theorem wraps_exactly_what_opens (key : List UInt8) :
    (∀ initial plain, key.length ∈ [16, 24, 32] →
        ∃ envelope, wrap key initial plain = .ok envelope ∧ unwrap key envelope = .ok plain) ∧
      (∀ initial plain, key.length ∉ [16, 24, 32] →
        wrap key initial plain = .error (unsupportedKey key)) ∧
      (∀ initial plain detail, wrap key initial plain ≠ .error (.cipher detail)) ∧
      (∀ initial initial' plain plain' envelope, wrap key initial plain = .ok envelope →
        wrap key initial' plain' = .ok envelope → initial = initial' ∧ plain = plain') ∧
      ∀ envelope, Classified key envelope := by
  refine ⟨fun initial plain hkey => ?_, fun initial plain hkey => wrap_eq_error hkey initial plain,
    wrap_ne_cipher key, fun _ _ _ _ _ => wrap_injective, classified key⟩
  have hwrap := wrap_eq_ok hkey initial plain
  exact ⟨_, hwrap, unwrap_of_wrap hwrap⟩

/-- Three bytes are wrapped under a key of 24 bytes, and sixteen bytes are no envelope under it. -/
theorem wraps_under_a_key_of_24_bytes :
    (∃ envelope, wrap (List.replicate 24 9) default [1, 2, 3] = .ok envelope ∧
        unwrap (List.replicate 24 9) envelope = .ok [1, 2, 3]) ∧
      wrap (List.replicate 23 9) default [1, 2, 3] =
        .error (unsupportedKey (List.replicate 23 9)) ∧
      ∃ detail, unwrap (List.replicate 24 9) (List.replicate 16 0) =
        .error (.decryptionFailed detail) := by
  obtain ⟨hopens, -, -, -, hclassified⟩ := wraps_exactly_what_opens (List.replicate 24 9)
  obtain ⟨-, hrefuses, -⟩ := wraps_exactly_what_opens (List.replicate 23 9)
  refine ⟨hopens default [1, 2, 3] (by decide), hrefuses default [1, 2, 3] (by decide), ?_⟩
  refine (hclassified _).failed_iff_not_padded.mpr ⟨by decide, by decide, ?_⟩
  intro initial blocks henvelope
  have hlength := congrArg List.length henvelope
  rw [List.length_append, Block.length_toList, Cipher.length_bytesOfBlocks] at hlength
  obtain rfl : blocks = [] := by
    rw [← List.length_eq_zero_iff]
    simp only [List.length_replicate, Block.size] at hlength
    omega
  exact Cipher.not_isPadded_nil

end Sealing.Envelope

end SealedVault
