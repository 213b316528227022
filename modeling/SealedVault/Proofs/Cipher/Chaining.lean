import SealedVault.Cipher.Chain
import SealedVault.Proofs.Cipher.Inverse

/-!
# Decryption of a chain accepts exactly what encryption makes

Chained decryption and encryption are inverse on lists of blocks, padding is inverse to its removal
on whole blocks, and byte strings of whole blocks are the same as lists of blocks. Together: some
bytes decrypt to a plaintext if and only if they are its encryption. Setting a variant of the cipher
up fails for keys and initial blocks of the wrong length, and for no others.
-/

namespace SealedVault.Cipher

/-! ## Chains -/

theorem chainDecrypt_chainEncrypt
    (roundKeys : List Block) (previous : Block) (blocks : List Block) :
    chainDecrypt roundKeys previous (chainEncrypt roundKeys previous blocks) =
      blocks := by
  induction blocks generalizing previous with
  | nil => rfl
  | cons block rest ih =>
    simp only [chainEncrypt, chainDecrypt]
    rw [ih, Aes.decryptBlock_encryptBlock, Block.xor_xor_cancel]

theorem chainEncrypt_chainDecrypt
    (roundKeys : List Block) (previous : Block) (blocks : List Block) :
    chainEncrypt roundKeys previous (chainDecrypt roundKeys previous blocks) =
      blocks := by
  induction blocks generalizing previous with
  | nil => rfl
  | cons block rest ih =>
    simp only [chainEncrypt, chainDecrypt]
    rw [Block.xor_xor_cancel, Aes.encryptBlock_decryptBlock, ih]

@[simp] theorem length_chainEncrypt
    (roundKeys : List Block) (previous : Block) (blocks : List Block) :
    (chainEncrypt roundKeys previous blocks).length = blocks.length := by
  induction blocks generalizing previous with
  | nil => rfl
  | cons block rest ih => simp [chainEncrypt, ih]

/-! ## Bytes and blocks -/

theorem length_bytesOfBlocks (blocks : List Block) :
    (bytesOfBlocks blocks).length = Block.size * blocks.length := by
  induction blocks with
  | nil => rfl
  | cons block rest ih =>
    rw [bytesOfBlocks, List.flatMap_cons, List.length_append, ← bytesOfBlocks, ih,
      Block.length_toList, List.length_cons, Nat.mul_succ, Nat.add_comm]

@[simp] theorem blocks?_bytesOfBlocks (blocks : List Block) :
    blocks? (bytesOfBlocks blocks) = some blocks := by
  induction blocks with
  | nil => rw [blocks?]; rfl
  | cons block rest ih =>
    have hcons : bytesOfBlocks (block :: rest) =
        block.toList ++ bytesOfBlocks rest := rfl
    rw [hcons, blocks?, Block.take?_toList_append]
    simp [ih]

theorem bytesOfBlocks_of_blocks?
    {bytes : List UInt8} {blocks : List Block} (h : blocks? bytes = some blocks) :
    bytes = bytesOfBlocks blocks := by
  fun_induction blocks? bytes generalizing blocks with
  | case1 bytes block rest htake ih =>
    obtain ⟨more, hmore, rfl⟩ := Option.map_eq_some_iff.mp h
    rw [Block.eq_append_of_take? htake, ih hmore]
    rfl
  | case2 htake =>
    cases h
    rfl
  | case3 bytes htake hnil => simp at h

theorem Block.toList_injective {a b : Block} (h : a.toList = b.toList) : a = b := by
  have hsame := Block.take?_toList_append a []
  rw [h, Block.take?_toList_append] at hsame
  cases hsame
  rfl

theorem Block.exists_take?
    {bytes : List UInt8} (h : Block.size ≤ bytes.length) :
    ∃ block rest, Block.take? bytes = some (block, rest) := by
  match bytes, h with
  | _ :: _ :: _ :: _ :: _ :: _ :: _ :: _ :: _ :: _ :: _ :: _ :: _ :: _ :: _ :: _ :: _, _ =>
    exact ⟨_, _, rfl⟩

/-- Any sixteen bytes, and more, begin with a block. -/
theorem Block.exists_eq_append {bytes : List UInt8} (h : 16 ≤ bytes.length) :
    ∃ (block : Block) (rest : List UInt8), bytes = block.toList ++ rest := by
  obtain ⟨block, rest, htake⟩ := Block.exists_take? h
  exact ⟨block, rest, Block.eq_append_of_take? htake⟩

/-- Sixteen bytes are those of a block. -/
theorem Block.exists_toList_eq {bytes : List UInt8} (h : bytes.length = 16) :
    ∃ block : Block, block.toList = bytes := by
  obtain ⟨block, rest, rfl⟩ := Block.exists_eq_append h.ge
  rw [List.length_append, Block.length_toList, Block.size] at h
  have hrest : rest = [] := List.length_eq_zero_iff.mp (by omega)
  exact ⟨block, by rw [hrest, List.append_nil]⟩

/-- Whole blocks can be cut. -/
theorem exists_blocks?
    {bytes : List UInt8} (h : bytes.length % Block.size = 0) :
    ∃ blocks, blocks? bytes = some blocks := by
  fun_induction blocks? bytes with
  | case1 bytes block rest htake ih =>
    have hlength := Block.length_of_take? htake
    obtain ⟨blocks, hblocks⟩ := ih (by
      rw [hlength, Nat.add_mod_left] at h
      exact h)
    exact ⟨block :: blocks, by rw [hblocks]; rfl⟩
  | case2 htake => exact ⟨[], rfl⟩
  | case3 bytes htake hnil =>
    have hpos : 0 < bytes.length := List.length_pos_iff.mpr hnil
    obtain ⟨block, rest, hsome⟩ :=
      Block.exists_take? (Nat.le_of_dvd hpos (Nat.dvd_of_mod_eq_zero h))
    rw [htake] at hsome
    cases hsome

/-! ## Padding -/

theorem paddingLength_bounds (length : Nat) :
    1 ≤ paddingLength length ∧ paddingLength length ≤ Block.size := by
  simp only [paddingLength, Block.size]
  omega

theorem length_pad (bytes : List UInt8) :
    (pad bytes).length = bytes.length + paddingLength bytes.length := by
  simp [pad]

theorem length_pad_mod (bytes : List UInt8) :
    (pad bytes).length % Block.size = 0 := by
  rw [length_pad]
  simp only [paddingLength, Block.size]
  omega

/-- The number of padding bytes fits a byte. -/
theorem toNat_ofNat_paddingLength (length : Nat) :
    (UInt8.ofNat (paddingLength length)).toNat = paddingLength length := by
  have hle := (paddingLength_bounds length).2
  simp only [Block.size] at hle
  rw [UInt8.toNat_ofNat']
  omega

theorem unpad?_pad (bytes : List UInt8) : unpad? (pad bytes) = some bytes := by
  have hbounds := paddingLength_bounds bytes.length
  have hne : List.replicate (paddingLength bytes.length)
      (UInt8.ofNat (paddingLength bytes.length)) ≠ [] := by
    simp
    omega
  have hlast : (pad bytes).getLast? =
      some (UInt8.ofNat (paddingLength bytes.length)) := by
    simp only [pad]
    rw [List.getLast?_append_of_ne_nil _ hne, List.getLast?_replicate, if_neg (by omega)]
  simp only [unpad?, hlast, toNat_ofNat_paddingLength, length_pad]
  rw [if_pos ⟨hbounds.1, hbounds.2, by omega, by simp [pad]⟩]
  simp [pad]

theorem pad_of_unpad?
    {bytes plain : List UInt8} (hsize : bytes.length % Block.size = 0)
    (h : unpad? bytes = some plain) : bytes = pad plain := by
  unfold unpad? at h
  split at h
  · cases h
  next last hlast =>
    simp only at h
    split at h
    next hok =>
      obtain ⟨hpos, hle, hlength, htail⟩ := hok
      cases h
      have hpad :
          paddingLength (bytes.take (bytes.length - last.toNat)).length =
            last.toNat := by
        rw [List.length_take, Nat.min_eq_left (Nat.sub_le _ _)]
        simp only [paddingLength, Block.size] at hsize hle ⊢
        omega
      have hbyte : UInt8.ofNat last.toNat = last := UInt8.ofNat_toNat
      rw [pad, hpad, hbyte, ← htail, List.take_append_drop]
    · cases h

/-! ## Bytes -/

/-- Encryption cuts the padded bytes into blocks and loses none of them. -/
theorem exists_encryptBytes
    (key : List UInt8) (initial : Block) (plain : List UInt8) :
    ∃ blocks, bytesOfBlocks blocks = pad plain ∧
      encryptBytes key initial plain =
        bytesOfBlocks (chainEncrypt (Aes.roundKeys key) initial blocks) := by
  obtain ⟨blocks, hblocks⟩ := exists_blocks? (length_pad_mod plain)
  refine ⟨blocks, (bytesOfBlocks_of_blocks? hblocks).symm, ?_⟩
  rw [encryptBytes, hblocks, Option.getD_some]

theorem decryptBytes?_encryptBytes
    (key : List UInt8) (initial : Block) (plain : List UInt8) :
    decryptBytes? key initial (encryptBytes key initial plain) = some plain := by
  obtain ⟨blocks, hpad, hencrypt⟩ := exists_encryptBytes key initial plain
  rw [hencrypt, decryptBytes?, blocks?_bytesOfBlocks]
  simp only [Option.bind_eq_bind, Option.bind_some]
  rw [chainDecrypt_chainEncrypt, hpad, unpad?_pad]

theorem encryptBytes_of_decryptBytes?
    {key : List UInt8} {initial : Block} {bytes plain : List UInt8}
    (h : decryptBytes? key initial bytes = some plain) :
    bytes = encryptBytes key initial plain := by
  obtain ⟨blocks, hblocks, hunpad⟩ := Option.bind_eq_some_iff.mp h
  have hsize : (bytesOfBlocks
      (chainDecrypt (Aes.roundKeys key) initial blocks)).length % Block.size = 0 := by
    rw [length_bytesOfBlocks, Nat.mul_mod_right]
  have hpad := pad_of_unpad? hsize hunpad
  rw [encryptBytes, ← hpad, blocks?_bytesOfBlocks, Option.getD_some,
    chainEncrypt_chainDecrypt]
  exact bytesOfBlocks_of_blocks? hblocks

/-- Bytes decrypt to a plaintext if and only if they are its encryption. -/
theorem decryptBytes?_eq_some_iff
    {key : List UInt8} {initial : Block} {bytes plain : List UInt8} :
    decryptBytes? key initial bytes = some plain ↔
      bytes = encryptBytes key initial plain := by
  constructor
  · exact encryptBytes_of_decryptBytes?
  · rintro rfl
    exact decryptBytes?_encryptBytes key initial plain

/-! ## Setting up -/

namespace Variant

variable {variant : Variant} {key initial : List UInt8}

theorem ofKeySize?_keySize (variant : Variant) : ofKeySize? variant.keySize = some variant := by
  cases variant <;> rfl

theorem exists_keySize_eq {n : Nat} (h : n ∈ [16, 24, 32]) :
    ∃ variant : Variant, n = variant.keySize := by
  simp only [List.mem_cons, List.not_mem_nil, or_false] at h
  rcases h with rfl | rfl | rfl
  · exact ⟨aes128, rfl⟩
  · exact ⟨aes192, rfl⟩
  · exact ⟨aes256, rfl⟩

theorem ofKeySize?_eq_none {n : Nat} (h : n ∉ [16, 24, 32]) : ofKeySize? n = none := by
  simp only [List.mem_cons, List.not_mem_nil, or_false, not_or] at h
  obtain ⟨h16, h24, h32⟩ := h
  rw [ofKeySize?]
  · exact h16
  · exact h24
  · exact h32

/-- What is set up has the key and the initial block that it was given. -/
theorem setUp_eq_ok_iff {chain : Chain} :
    variant.setUp key initial = .ok chain ↔
      chain.variant = variant ∧ chain.key = key ∧ chain.initial.toList = initial := by
  constructor
  · intro h
    unfold setUp at h
    split at h
    next hkey =>
      split at h
      next block htake =>
        cases h
        refine ⟨rfl, rfl, ?_⟩
        rw [Block.eq_append_of_take? htake, List.append_nil]
      · cases h
    · cases h
  · rintro ⟨rfl, rfl, rfl⟩
    have htake := Block.take?_toList_append chain.initial []
    rw [List.append_nil] at htake
    rw [setUp, dif_pos chain.length_key, htake]

/-- The lengths decide alone whether a variant can be set up. -/
theorem setUp_eq_error_iff :
    variant.setUp key initial = .error {} ↔
      key.length ≠ variant.keySize ∨ initial.length ≠ Block.size := by
  constructor
  · intro h
    by_contra hlengths
    push Not at hlengths
    obtain ⟨hkey, hinitial⟩ := hlengths
    obtain ⟨block, rfl⟩ := Block.exists_toList_eq hinitial
    have hok : variant.setUp key block.toList = .ok ⟨variant, key, block, hkey⟩ :=
      setUp_eq_ok_iff.mpr ⟨rfl, rfl, rfl⟩
    rw [hok] at h
    cases h
  · intro hlengths
    cases h : variant.setUp key initial with
    | error e => rfl
    | ok chain =>
      obtain ⟨rfl, rfl, rfl⟩ := setUp_eq_ok_iff.mp h
      rcases hlengths with hkey | hinitial
      · exact absurd chain.length_key hkey
      · exact absurd chain.initial.length_toList hinitial

end Variant

end SealedVault.Cipher
