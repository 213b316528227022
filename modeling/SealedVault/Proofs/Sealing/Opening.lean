import SealedVault.Proofs.Cipher.Chaining
import SealedVault.Proofs.Results
import SealedVault.Proofs.Text.Base64
import SealedVault.Sealing.Service

/-!
# Opening accepts exactly what sealing can produce

The layers of a sealed payload (the envelope, its base64 text, the key of the owner and the UTF-8
form of the plaintext) are each inverse to the reading of that layer. So a service opens a stored
text to a plaintext if and only if the text, but for blanks around it, is that plaintext sealed
behind some initial block.
-/

namespace SealedVault.Sealing

open Cipher (Block Chain Variant decryptBytes? encryptBytes)
open Digest (Keyed.digest)

/-! ## Keys of owners -/

/-- The key of an owner: the beginning of the keyed digest of the owner's name, as long as the
master key. -/
def MasterKey.ownerKey (key : MasterKey) (owner : String) : List UInt8 :=
  (Keyed.digest key.bytes (Text.utf8Bytes owner)).take key.bytes.length

theorem checkOwner_of_ne {owner : String} (h : Text.trim owner ≠ "") :
    checkOwner owner = .ok () := by
  rw [checkOwner, if_neg h]

theorem ne_of_checkOwner {owner : String} (h : checkOwner owner = .ok ()) :
    Text.trim owner ≠ "" := by
  intro hblank
  rw [checkOwner, if_pos hblank] at h
  cases h

namespace MasterKey

variable {owner : String}

theorem length_ownerKey (key : MasterKey) (owner : String) :
    (key.ownerKey owner).length = key.bytes.length := by
  have hsize := key.size_mem
  simp only [keySizes, List.mem_cons, List.not_mem_nil, or_false] at hsize
  rw [ownerKey, List.length_take, Digest.Keyed.length_digest]
  omega

theorem length_ownerKey_mem (key : MasterKey) (owner : String) :
    (key.ownerKey owner).length ∈ keySizes := by
  rw [length_ownerKey]
  exact key.size_mem

theorem deriveKey_eq (key : MasterKey) (howner : checkOwner owner = .ok ()) :
    deriveKey key.bytes owner = .ok (key.ownerKey owner) := by
  simp only [deriveKey, checkKeySize, if_pos key.size_mem, howner, ok_bind, ownerKey]
  rfl

end MasterKey

/-! ## Envelopes -/

namespace Envelope

/-! ### Setting the cipher up -/

section

variable {key initial : List UInt8}

theorem setUp_of_unsupported (hkey : key.length ∉ keySizes) (initial : List UInt8) :
    setUp key initial = .error (unsupportedKey key) := by
  rw [setUp, Variant.ofKeySize?_eq_none hkey]

/-- With a key of a supported size, what sets the cipher up is a variant that has keys of this
size. -/
theorem exists_setUp_eq (hkey : key.length ∈ keySizes) (initial : List UInt8) :
    ∃ variant : Variant, key.length = variant.keySize ∧
      setUp key initial = (variant.setUp key initial).mapError fun e =>
        .cipher ("cipher init failed: " ++ e.message) := by
  obtain ⟨variant, hsize⟩ := Variant.exists_keySize_eq hkey
  refine ⟨variant, hsize, ?_⟩
  rw [setUp, hsize, Variant.ofKeySize?_keySize]

/-- A block is the initial block that the cipher asks for. -/
theorem exists_setUp (hkey : key.length ∈ keySizes) (initial : Block) :
    ∃ chain, setUp key initial.toList = .ok chain ∧ chain.key = key ∧ chain.initial = initial := by
  obtain ⟨variant, hsize, heq⟩ := exists_setUp_eq hkey initial.toList
  have hok : variant.setUp key initial.toList = .ok ⟨variant, key, initial, hsize⟩ :=
    Variant.setUp_eq_ok_iff.mpr ⟨rfl, rfl, rfl⟩
  refine ⟨⟨variant, key, initial, hsize⟩, ?_, rfl, rfl⟩
  rw [heq, hok]
  rfl

/-- The cipher blames nothing but an initial block that is too short or too long. -/
theorem setUp_eq_cipher_iff :
    (∃ detail, setUp key initial = .error (.cipher detail)) ↔
      key.length ∈ keySizes ∧ initial.length ≠ Block.size := by
  by_cases hkey : key.length ∈ keySizes
  · obtain ⟨variant, hsize, heq⟩ := exists_setUp_eq hkey initial
    rw [heq]
    constructor
    · rintro ⟨detail, h⟩
      refine ⟨hkey, ?_⟩
      cases hsetUp : variant.setUp key initial with
      | ok chain =>
        rw [hsetUp] at h
        cases h
      | error e =>
        rcases Variant.setUp_eq_error_iff.mp hsetUp with hother | hinitial
        · exact absurd hsize hother
        · exact hinitial
    · rintro ⟨-, hinitial⟩
      rw [Variant.setUp_eq_error_iff.mpr (Or.inr hinitial)]
      exact ⟨_, rfl⟩
  · rw [setUp_of_unsupported hkey]
    exact ⟨nofun, fun h => absurd h.1 hkey⟩

end

/-! ### Wrapping and unwrapping -/

theorem wrap_eq_ok
    {key : List UInt8} (hkey : key.length ∈ keySizes)
    (initial : Block) (plain : List UInt8) :
    wrap key initial plain =
      .ok (initial.toList ++ encryptBytes key initial plain) := by
  obtain ⟨chain, hsetUp, hchain, hinitial⟩ := exists_setUp hkey initial
  rw [wrap, hsetUp, ok_bind, Chain.encrypt, hchain, hinitial]
  rfl

theorem wrap_eq_error
    {key : List UInt8} (hkey : key.length ∉ keySizes)
    (initial : Block) (plain : List UInt8) :
    wrap key initial plain = .error (unsupportedKey key) := by
  rw [wrap, setUp_of_unsupported hkey]
  rfl

theorem length_mem_of_wrap
    {key plain envelope : List UInt8} {initial : Block}
    (h : wrap key initial plain = .ok envelope) : key.length ∈ keySizes := by
  by_contra hkey
  rw [wrap_eq_error hkey] at h
  cases h

theorem initialSize_le_length_of_wrap
    {key plain envelope : List UInt8} {initial : Block}
    (h : wrap key initial plain = .ok envelope) :
    initialSize ≤ envelope.length := by
  rw [wrap_eq_ok (length_mem_of_wrap h)] at h
  cases h
  rw [List.length_append, Block.length_toList]
  exact Nat.le_add_right _ _

/-- The cipher of an envelope is set up with the initial block that the envelope begins with, and
decrypts what follows. -/
theorem unwrap_append_eq (key : List UInt8) (initial : Block) (body : List UInt8) :
    unwrap key (initial.toList ++ body) =
      setUp key initial.toList >>= fun chain =>
        match chain.decrypt? body with
        | some plain => .ok plain
        | none => .error (.decryptionFailed "bad padding or wrong key") := by
  have hlong : ¬(initial.toList ++ body).length < initialSize := by
    rw [List.length_append, Block.length_toList]
    exact Nat.not_lt.mpr (Nat.le_add_right _ _)
  have htake : (initial.toList ++ body).take initialSize = initial.toList :=
    List.take_left' initial.length_toList
  have hdrop : (initial.toList ++ body).drop initialSize = body :=
    List.drop_left' initial.length_toList
  rw [unwrap, if_neg hlong, htake, hdrop]
  rfl

/-- With a key of a supported size, what follows the initial block decrypts or fails. -/
theorem unwrap_append
    {key : List UInt8} (hkey : key.length ∈ keySizes)
    (initial : Block) (body : List UInt8) :
    unwrap key (initial.toList ++ body) =
      match decryptBytes? key initial body with
      | some plain => .ok plain
      | none => .error (.decryptionFailed "bad padding or wrong key") := by
  obtain ⟨chain, hsetUp, hchain, hinitial⟩ := exists_setUp hkey initial
  rw [unwrap_append_eq, hsetUp, ok_bind, Chain.decrypt?, hchain, hinitial]

/-- Behind an initial block stands the envelope of what it opens to. -/
theorem unwrap_append_eq_ok_iff
    {key plain body : List UInt8} (hkey : key.length ∈ keySizes) {initial : Block} :
    unwrap key (initial.toList ++ body) = .ok plain ↔
      wrap key initial plain = .ok (initial.toList ++ body) := by
  rw [unwrap_append hkey, wrap_eq_ok hkey, Except.ok.injEq, List.append_cancel_left_eq,
    eq_comm (b := body), ← Cipher.decryptBytes?_eq_some_iff]
  cases decryptBytes? key initial body with
  | none => simp
  | some found => simp

theorem unwrap_of_short
    {key envelope : List UInt8} (h : envelope.length < initialSize) :
    ∃ detail, unwrap key envelope = .error (.malformedEnvelope detail) :=
  ⟨_, if_pos h⟩

/-- An envelope opens to some bytes if and only if it is their envelope behind some initial
block. -/
theorem unwrap_eq_ok_iff
    {key envelope plain : List UInt8} (hkey : key.length ∈ keySizes) :
    unwrap key envelope = .ok plain ↔
      ∃ initial, wrap key initial plain = .ok envelope := by
  constructor
  · intro h
    have hlong : initialSize ≤ envelope.length := by
      by_contra hshort
      obtain ⟨detail, hfails⟩ :
          ∃ detail, unwrap key envelope = .error (.malformedEnvelope detail) :=
        unwrap_of_short (Nat.lt_of_not_le hshort)
      rw [hfails] at h
      cases h
    obtain ⟨initial, body, rfl⟩ := Block.exists_eq_append hlong
    exact ⟨initial, (unwrap_append_eq_ok_iff hkey).mp h⟩
  · rintro ⟨initial, hwrap⟩
    have henvelope := wrap_eq_ok hkey initial plain
    rw [hwrap] at henvelope
    cases henvelope
    exact (unwrap_append_eq_ok_iff hkey).mpr hwrap

end Envelope

/-! ## Stored texts -/

namespace Service

theorem storedEnvelope_eq_ok_iff {stored : String} {envelope : List UInt8} :
    storedEnvelope stored = .ok envelope ↔
      Text.trim stored = Text.Base64.encode envelope ∧
        Envelope.initialSize ≤ envelope.length := by
  unfold storedEnvelope
  constructor
  · intro h
    split at h
    · cases h
    next found hfound =>
      split at h
      · cases h
      next hlength =>
        cases h
        exact ⟨Text.Base64.decode?_eq_some_iff.mp hfound, Nat.le_of_not_lt hlength⟩
  · rintro ⟨htext, hlength⟩
    rw [htext, Text.Base64.decode?_encode]
    simp only
    rw [if_neg (Nat.not_lt.mpr hlength)]

variable {key : MasterKey} {owner : String}

/-- The stored text is the plaintext sealed for the owner behind the initial block. -/
def IsSealing (key : MasterKey) (owner : String) (initial : Block)
    (plaintext stored : String) : Prop :=
  ∃ envelope,
    Envelope.wrap (key.ownerKey owner) initial (Text.utf8Bytes plaintext) =
        .ok envelope ∧
      stored = Text.Base64.encode envelope

theorem sealText_eq_ok_iff (howner : checkOwner owner = .ok ())
    {initial : Block} {plaintext stored : String} :
    sealText key initial owner plaintext = .ok stored ↔
      IsSealing key owner initial plaintext stored := by
  simp only [sealText, key.deriveKey_eq howner, ok_bind, bind_eq_ok_iff, IsSealing]
  apply exists_congr
  intro envelope
  apply and_congr_right
  intro _
  constructor
  · intro h
    cases h
    rfl
  · intro h
    rw [h]
    rfl

theorem exists_isSealing
    (key : MasterKey) (owner : String) (initial : Block) (plaintext : String) :
    ∃ stored, IsSealing key owner initial plaintext stored :=
  ⟨_, _, Envelope.wrap_eq_ok (key.length_ownerKey_mem owner) _ _, rfl⟩

theorem unsealText_eq_ok_iff (howner : checkOwner owner = .ok ())
    {stored plaintext : String} :
    unsealText key owner stored = .ok plaintext ↔
      ∃ initial, IsSealing key owner initial plaintext (Text.trim stored) := by
  have hkey := key.length_ownerKey_mem owner
  simp only [unsealText, key.deriveKey_eq howner, ok_bind, bind_eq_ok_iff]
  constructor
  · rintro ⟨envelope, henvelope, plain, hplain, htext⟩
    obtain ⟨hstored, -⟩ := storedEnvelope_eq_ok_iff.mp henvelope
    obtain ⟨initial, hwrap⟩ := (Envelope.unwrap_eq_ok_iff hkey).mp hplain
    refine ⟨initial, envelope, ?_, hstored⟩
    split at htext
    next found hfound =>
      cases htext
      rw [Text.utf8Bytes_of_ofUtf8Bytes? hfound]
      exact hwrap
    · cases htext
  · rintro ⟨initial, envelope, hwrap, hstored⟩
    refine ⟨envelope, ?_, _, (Envelope.unwrap_eq_ok_iff hkey).mpr ⟨initial, hwrap⟩, ?_⟩
    · exact storedEnvelope_eq_ok_iff.mpr
        ⟨hstored, Envelope.initialSize_le_length_of_wrap hwrap⟩
    · rw [Text.ofUtf8Bytes?_utf8Bytes]
      rfl

/-! ## The service -/

theorem reveal_plain (service : Service) (howner : checkOwner owner = .ok ())
    (text : String) : service.reveal owner (.plain text) = .ok text := by
  rw [reveal, howner]
  rfl

theorem reveal_sealed (key : MasterKey) (howner : checkOwner owner = .ok ())
    (stored : String) :
    (⟨some key⟩ : Service).reveal owner (.sealed stored) =
      unsealText key owner stored := by
  simp only [reveal, howner, ok_bind]

theorem reveal_sealed_of_disabled (howner : checkOwner owner = .ok ())
    (stored : String) :
    disabled.reveal owner (.sealed stored) =
      .error (.invalidKeyMaterial "master key not configured") := by
  rw [reveal, howner]
  rfl

/-- Without a key a payload is stored as it is. -/
theorem protect_of_disabled (howner : checkOwner owner = .ok ())
    (initial : Block) (plaintext : String) :
    disabled.protect initial owner plaintext = .ok (.plain plaintext) := by
  rw [protect, howner]
  rfl

/-- With a key a payload is sealed, and sealing never fails for an owner who has a name. -/
theorem exists_protect (key : MasterKey) (howner : checkOwner owner = .ok ())
    (initial : Block) (plaintext : String) :
    ∃ stored, (⟨some key⟩ : Service).protect initial owner plaintext =
        .ok (.sealed stored) ∧ IsSealing key owner initial plaintext stored := by
  obtain ⟨stored, hstored⟩ := exists_isSealing key owner initial plaintext
  refine ⟨stored, ?_, hstored⟩
  rw [protect, howner]
  simp only [ok_bind]
  rw [(sealText_eq_ok_iff howner).mpr hstored]
  rfl

theorem exists_protect_of_enabled {service : Service} (hkey : service.isEnabled = true)
    (howner : checkOwner owner = .ok ()) (initial : Block) (plaintext : String) :
    ∃ stored, service.protect initial owner plaintext = .ok (.sealed stored) := by
  obtain ⟨masterKey⟩ := service
  obtain ⟨key, rfl⟩ := Option.isSome_iff_exists.mp hkey
  obtain ⟨stored, hprotect, -⟩ := exists_protect key howner initial plaintext
  exact ⟨stored, hprotect⟩

theorem IsSealing.trim_eq {initial : Block} {plaintext stored : String}
    (h : IsSealing key owner initial plaintext stored) :
    Text.trim stored = stored := by
  obtain ⟨envelope, -, rfl⟩ := h
  exact Text.Base64.trim_encode envelope

/-- A sealed text opens to what was sealed. -/
theorem unsealText_of_isSealing (howner : checkOwner owner = .ok ())
    {initial : Block} {plaintext stored : String}
    (h : IsSealing key owner initial plaintext stored) :
    unsealText key owner stored = .ok plaintext := by
  refine (unsealText_eq_ok_iff howner).mpr ⟨initial, ?_⟩
  rw [h.trim_eq]
  exact h

/-- The initial block of a sealed text is its own, so two texts that were sealed from one plaintext
behind the same initial block are the same. -/
theorem IsSealing.trim_unique
    {initial initial' : Block} {plaintext stored stored' : String}
    (h : IsSealing key owner initial plaintext (Text.trim stored))
    (h' : IsSealing key owner initial' plaintext (Text.trim stored'))
    (hinitial : (storedEnvelope stored).map (·.take Envelope.initialSize) =
      (storedEnvelope stored').map (·.take Envelope.initialSize)) :
    Text.trim stored = Text.trim stored' := by
  obtain ⟨envelope, hwrap, htext⟩ := h
  obtain ⟨envelope', hwrap', htext'⟩ := h'
  rw [storedEnvelope_eq_ok_iff.mpr
      ⟨htext, Envelope.initialSize_le_length_of_wrap hwrap⟩,
    storedEnvelope_eq_ok_iff.mpr
      ⟨htext', Envelope.initialSize_le_length_of_wrap hwrap'⟩] at hinitial
  rw [Envelope.wrap_eq_ok (key.length_ownerKey_mem owner)] at hwrap hwrap'
  cases hwrap
  cases hwrap'
  have hfront (block : Block) : block.toList.take Block.size = block.toList :=
    List.take_of_length_le (Block.length_toList block).le
  have hblocks : initial.toList = initial'.toList := by
    simpa [Except.map, Envelope.initialSize, List.take_append, hfront] using hinitial
  have hsame : initial = initial' := Block.toList_injective hblocks
  rw [htext, htext', hsame]

/-- A service with a key opens a stored text to a plaintext if and only if the text, but for blanks
around it, is the plaintext sealed under the owner's key behind some initial block. In particular
whatever is sealed opens again, by the entry points of each kind too, and no second text with the
same initial block opens to the same plaintext. -/
theorem opens_exactly_what_is_sealed
    (key : MasterKey) (owner : String) (howner : Text.trim owner ≠ "") :
    deriveKey key.bytes owner = .ok (key.ownerKey owner) ∧
      (∀ stored plaintext,
        (⟨some key⟩ : Service).reveal owner (.sealed stored) = .ok plaintext ↔
          ∃ initial, IsSealing key owner initial plaintext (Text.trim stored)) ∧
      (∀ initial plaintext, ∃ stored,
        (⟨some key⟩ : Service).protect initial owner plaintext = .ok (.sealed stored) ∧
          IsSealing key owner initial plaintext stored ∧
          (⟨some key⟩ : Service).reveal owner (.sealed stored) = .ok plaintext ∧
          ∀ kind,
            (⟨some key⟩ : Service).encryptOf kind initial owner plaintext =
                .ok (.sealed, stored) ∧
              (⟨some key⟩ : Service).decryptOf kind owner .sealed stored = .ok plaintext) ∧
      (∀ stored stored' plaintext,
        (⟨some key⟩ : Service).reveal owner (.sealed stored) = .ok plaintext →
        (⟨some key⟩ : Service).reveal owner (.sealed stored') = .ok plaintext →
        (storedEnvelope stored).map (·.take Envelope.initialSize) =
          (storedEnvelope stored').map (·.take Envelope.initialSize) →
        Text.trim stored = Text.trim stored') := by
  have hcheck := checkOwner_of_ne howner
  refine ⟨key.deriveKey_eq hcheck, ?_, ?_, ?_⟩
  · intro stored plaintext
    rw [reveal_sealed key hcheck]
    exact unsealText_eq_ok_iff hcheck
  · intro initial plaintext
    obtain ⟨stored, hprotect, hsealing⟩ := exists_protect key hcheck initial plaintext
    have hreveal : (⟨some key⟩ : Service).reveal owner (.sealed stored) = .ok plaintext := by
      rw [reveal_sealed key hcheck]
      exact unsealText_of_isSealing hcheck hsealing
    refine ⟨stored, hprotect, hsealing, hreveal, fun kind => ⟨?_, ?_⟩⟩
    · rw [encryptOf_eq, encrypt, hprotect]
      rfl
    · rw [decryptOf_eq]
      exact hreveal
  · intro stored stored' plaintext h h' hinitial
    rw [reveal_sealed key hcheck] at h h'
    obtain ⟨initial, hsealing⟩ := (unsealText_eq_ok_iff hcheck).mp h
    obtain ⟨initial', hsealing'⟩ := (unsealText_eq_ok_iff hcheck).mp h'
    exact hsealing.trim_unique hsealing' hinitial

/-- A key of 24 bytes, an owner and a text outside ASCII. -/
theorem opens_what_is_sealed_for_alice :
    Text.trim "alice" ≠ "" ∧
      ∃ stored,
        (⟨some ⟨List.replicate 24 7, by decide⟩⟩ : Service).protect default "alice" "Γειά" =
            .ok (.sealed stored) ∧
          (⟨some ⟨List.replicate 24 7, by decide⟩⟩ : Service).reveal "alice"
            (.sealed stored) = .ok "Γειά" := by
  have hname : Text.trim "alice" ≠ "" := by decide
  obtain ⟨stored, hprotect, -, hreveal, -⟩ :=
    (opens_exactly_what_is_sealed ⟨List.replicate 24 7, by decide⟩ "alice"
      hname).2.2.1 default "Γειά"
  exact ⟨hname, stored, hprotect, hreveal⟩

end Service

end SealedVault.Sealing
