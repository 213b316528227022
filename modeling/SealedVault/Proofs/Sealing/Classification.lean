import SealedVault.Proofs.Sealing.Envelopes

/-!
# What the service answers

The name of the owner, the size of the key and the length of the envelope are each checked in
several places. A master key has a supported size, and so has every key that is derived from it.
Therefore only the first check of each can fail, and setting up the digest and the cipher never
does. What the service answers is decided by four questions in a fixed order: whether the owner has
a name, whether there is a key, whether the stored text is an envelope, and whether the envelope
opens.
-/

namespace SealedVault.Sealing

open Cipher (Block)
open Digest (Keyed.digest Keyed.setUp)
open Text (Base64.decode? Base64.encode)

/-! ## Keys -/

namespace MasterKey

/-- What is done with a master key for an owner never finds a key, a digest or an initial block of
the wrong size, nor an envelope without an initial block. -/
structure FitsFor (key : MasterKey) (owner : String) : Prop where
  /-- The derivation accepts the size of the key. -/
  check_ok : checkKeySize key.bytes = .ok ()
  /-- The keyed digest can be set up with the key. -/
  digest_ok : ∃ digest, Keyed.setUp key.bytes = .ok digest
  /-- The derivation succeeds for every owner who has a name. -/
  derives_iff : (∃ derived, deriveKey key.bytes owner = .ok derived) ↔ Text.trim owner ≠ ""
  /-- No more bytes are taken from the digest than it has. -/
  length_le_digest : key.bytes.length ≤ (Keyed.digest key.bytes (Text.utf8Bytes owner)).length
  /-- The cipher accepts the size of a derived key. -/
  length_mem (derived : List UInt8) : deriveKey key.bytes owner = .ok derived →
    derived.length ∈ [16, 24, 32]
  /-- The cipher can be set up with a derived key and any sixteen bytes. -/
  sets_up (derived initial : List UInt8) :
    deriveKey key.bytes owner = .ok derived → initial.length = 16 →
      ∃ chain, Envelope.setUp derived initial = .ok chain
  /-- Under a derived key everything can be wrapped. -/
  wraps (derived : List UInt8) (initial : Block) (plain : List UInt8) :
    deriveKey key.bytes owner = .ok derived →
      ∃ envelope, Envelope.wrap derived initial plain = .ok envelope
  /-- Under a derived key a stored envelope opens or does not decrypt. -/
  unwraps (derived : List UInt8) (stored : String) (envelope : List UInt8) (e : SealingError) :
    deriveKey key.bytes owner = .ok derived → Service.storedEnvelope stored = .ok envelope →
      Envelope.unwrap derived envelope = .error e → ∃ detail, e = .decryptionFailed detail

variable {key : MasterKey} {owner : String} {derived : List UInt8}

theorem checkOwner_of_deriveKey (h : deriveKey key.bytes owner = .ok derived) :
    checkOwner owner = .ok () := by
  simp only [deriveKey, bind_eq_ok_iff] at h
  obtain ⟨_, -, _, howner, -⟩ := h
  exact howner

theorem eq_ownerKey_of_deriveKey (h : deriveKey key.bytes owner = .ok derived) :
    derived = key.ownerKey owner := by
  rw [key.deriveKey_eq (checkOwner_of_deriveKey h)] at h
  exact (Except.ok.inj h).symm

theorem length_mem_of_deriveKey (h : deriveKey key.bytes owner = .ok derived) :
    derived.length ∈ [16, 24, 32] := by
  rw [eq_ownerKey_of_deriveKey h]
  exact key.length_ownerKey_mem owner

end MasterKey

/-- Under a key of a supported size, whatever is long enough for an initial block opens or does not
decrypt. -/
theorem Envelope.failed_of_unwrap {key envelope : List UInt8} {e : SealingError}
    (hkey : key.length ∈ [16, 24, 32]) (hlong : 16 ≤ envelope.length)
    (h : unwrap key envelope = .error e) : ∃ detail, e = .decryptionFailed detail := by
  have htells := tells_of_unwrap_eq h
  cases e with
  | decryptionFailed detail => exact ⟨detail, rfl⟩
  | malformedEnvelope detail => exact absurd htells (Nat.not_lt.mpr hlong)
  | invalidKeyMaterial detail => exact absurd hkey htells.2
  | invalidArgument detail => exact htells.elim
  | cipher detail => exact htells.elim

theorem MasterKey.fitsFor (key : MasterKey) (owner : String) : key.FitsFor owner where
  check_ok := if_pos key.size_mem
  digest_ok := ⟨_, rfl⟩
  derives_iff := ⟨fun ⟨_, h⟩ => ne_of_checkOwner (checkOwner_of_deriveKey h),
    fun h => ⟨_, key.deriveKey_eq (checkOwner_of_ne h)⟩⟩
  length_le_digest := by
    rw [← key.length_ownerKey owner]
    exact List.length_take_le' _ _
  length_mem _ := length_mem_of_deriveKey
  sets_up derived initial h hlength := by
    obtain ⟨block, rfl⟩ := Block.exists_toList_eq hlength
    obtain ⟨chain, hsetUp, -⟩ := Envelope.exists_setUp (length_mem_of_deriveKey h) block
    exact ⟨chain, hsetUp⟩
  wraps _ initial plain h := ⟨_, Envelope.wrap_eq_ok (length_mem_of_deriveKey h) initial plain⟩
  unwraps _ _ _ _ h hstored hfails :=
    Envelope.failed_of_unwrap (length_mem_of_deriveKey h)
      (Service.storedEnvelope_eq_ok_iff.mp hstored).2 hfails

namespace Service

/-! ## Stored texts -/

/-- But for blanks around it, the text is not the base64 of any bytes, or of too few for an initial
block. -/
def IsMalformed (stored : String) : Prop :=
  (∀ bytes, Text.trim stored ≠ Base64.encode bytes) ∨
    ∃ bytes, Text.trim stored = Base64.encode bytes ∧ bytes.length < 16

theorem not_isMalformed_of_storedEnvelope {stored : String} {envelope : List UInt8}
    (h : storedEnvelope stored = .ok envelope) : ¬IsMalformed stored := by
  obtain ⟨htext, hlong⟩ := storedEnvelope_eq_ok_iff.mp h
  rintro (hnone | ⟨bytes, hbytes, hshort⟩)
  · exact hnone envelope htext
  · have hsame : some bytes = some envelope := by
      rw [← Text.Base64.decode?_encode bytes, ← hbytes, htext, Text.Base64.decode?_encode]
    cases hsame
    exact absurd hlong (Nat.not_le.mpr hshort)

theorem IsSealing.not_isMalformed {key : MasterKey} {owner plaintext stored : String}
    {initial : Block} (h : IsSealing key owner initial plaintext (Text.trim stored)) :
    ¬IsMalformed stored := by
  obtain ⟨envelope, hwrap, htext⟩ := h
  exact not_isMalformed_of_storedEnvelope (storedEnvelope_eq_ok_iff.mpr
    ⟨htext, Envelope.initialSize_le_length_of_wrap hwrap⟩)

/-- There is one text in an envelope. -/
theorem IsSealing.plaintext_eq {key : MasterKey} {owner plaintext plaintext' stored : String}
    {initial initial' : Block} (howner : Text.trim owner ≠ "")
    (h : IsSealing key owner initial plaintext (Text.trim stored))
    (h' : IsSealing key owner initial' plaintext' (Text.trim stored)) : plaintext = plaintext' := by
  have hcheck := checkOwner_of_ne howner
  have hopen := (unsealText_eq_ok_iff hcheck).mpr ⟨initial, h⟩
  rw [(unsealText_eq_ok_iff hcheck).mpr ⟨initial', h'⟩] at hopen
  exact (Except.ok.inj hopen).symm

theorem isMalformed_of_storedEnvelope {stored : String} {e : SealingError}
    (h : storedEnvelope stored = .error e) :
    IsMalformed stored ∧ ∃ detail, e = .malformedEnvelope detail := by
  unfold storedEnvelope at h
  split at h
  next hnone =>
    cases h
    refine ⟨Or.inl fun bytes hbytes => ?_, _, rfl⟩
    rw [hbytes, Text.Base64.decode?_encode] at hnone
    cases hnone
  next envelope hsome =>
    split at h
    next hshort =>
      cases h
      exact ⟨Or.inr ⟨envelope, Text.Base64.decode?_eq_some_iff.mp hsome, hshort⟩, _, rfl⟩
    · cases h

/-! ## Answers -/

variable {service : Service} {key : MasterKey} {owner plaintext stored : String} {initial : Block}
  {answer : Except SealingError String}

/-- The answers to a request to decrypt what is stored, by the questions that decide them. -/
inductive Answers (service : Service) (owner : String) :
    Protection → String → Except SealingError String → Prop
  | noOwner (protection : Protection) (stored detail : String) :
    Text.trim owner = "" →
      Answers service owner protection stored (.error (.invalidArgument detail))
  | plain (stored : String) :
    Text.trim owner ≠ "" → Answers service owner .none stored (.ok stored)
  | noKey (stored detail : String) :
    Text.trim owner ≠ "" → service.masterKey = none →
      Answers service owner .sealed stored (.error (.invalidKeyMaterial detail))
  | malformed (stored detail : String) (key : MasterKey) :
    Text.trim owner ≠ "" → service.masterKey = some key → IsMalformed stored →
      Answers service owner .sealed stored (.error (.malformedEnvelope detail))
  | opened (stored plaintext : String) (key : MasterKey) (initial : Block) :
    Text.trim owner ≠ "" → service.masterKey = some key →
      IsSealing key owner initial plaintext (Text.trim stored) →
        Answers service owner .sealed stored (.ok plaintext)
  | failed (stored detail : String) (key : MasterKey) :
    Text.trim owner ≠ "" → service.masterKey = some key → ¬IsMalformed stored →
      (∀ initial plaintext, ¬IsSealing key owner initial plaintext (Text.trim stored)) →
        Answers service owner .sealed stored (.error (.decryptionFailed detail))

/-- A stored text that is an envelope is opened, or it fails to decrypt. -/
theorem failed_of_unsealText (howner : checkOwner owner = .ok ()) {envelope : List UInt8}
    {e : SealingError} (henvelope : storedEnvelope stored = .ok envelope)
    (h : unsealText key owner stored = .error e) : ∃ detail, e = .decryptionFailed detail := by
  have hderive := key.deriveKey_eq howner
  simp only [unsealText, henvelope, hderive, ok_bind] at h
  cases hunwrap : Envelope.unwrap (key.ownerKey owner) envelope with
  | error e' =>
    rw [hunwrap] at h
    cases h
    exact (key.fitsFor owner).unwraps _ _ _ _ hderive henvelope hunwrap
  | ok plain =>
    simp only [hunwrap, ok_bind] at h
    split at h
    · cases h
    · cases h
      exact ⟨_, rfl⟩

theorem answers_unsealText (hkey : service.masterKey = some key) (howner : Text.trim owner ≠ "")
    (stored : String) : Answers service owner .sealed stored (unsealText key owner stored) := by
  have hcheck := checkOwner_of_ne howner
  cases henvelope : storedEnvelope stored with
  | error e =>
    obtain ⟨hmalformed, detail, rfl⟩ := isMalformed_of_storedEnvelope henvelope
    rw [unsealText, henvelope]
    exact .malformed stored detail key howner hkey hmalformed
  | ok envelope =>
    cases hopen : unsealText key owner stored with
    | ok plaintext =>
      obtain ⟨initial, hsealing⟩ := (unsealText_eq_ok_iff hcheck).mp hopen
      exact .opened stored plaintext key initial howner hkey hsealing
    | error e =>
      have hform := not_isMalformed_of_storedEnvelope henvelope
      have hnone (initial : Block) (plaintext : String) :
          ¬IsSealing key owner initial plaintext (Text.trim stored) := by
        intro hsealing
        rw [(unsealText_eq_ok_iff hcheck).mpr ⟨initial, hsealing⟩] at hopen
        cases hopen
      obtain ⟨detail, rfl⟩ := failed_of_unsealText hcheck henvelope hopen
      exact .failed stored detail key howner hkey hform hnone

theorem answers_decrypt (service : Service) (owner : String) (protection : Protection)
    (stored : String) :
    Answers service owner protection stored (service.decrypt owner protection stored) := by
  rw [decrypt]
  by_cases howner : Text.trim owner = ""
  · have hrefused : service.reveal owner (.ofStored protection stored) =
        .error (.invalidArgument "owner user id must not be blank") := by
      simp only [reveal, checkOwner, if_pos howner, error_bind]
    rw [hrefused]
    exact .noOwner protection stored _ howner
  have hcheck := checkOwner_of_ne howner
  cases protection with
  | none =>
    rw [Payload.ofStored, reveal_plain service hcheck]
    exact .plain stored howner
  | sealed =>
    obtain ⟨masterKey⟩ := service
    cases masterKey with
    | none =>
      have hnokey := reveal_sealed_of_disabled hcheck stored
      rw [disabled] at hnokey
      rw [Payload.ofStored, hnokey]
      exact .noKey stored _ howner rfl
    | some key =>
      rw [Payload.ofStored, reveal_sealed key hcheck]
      exact answers_unsealText rfl howner stored

/-! ## The classification -/

/-- A request to encrypt a text fails for blank owners only, and blames them. -/
structure ClassifiesEncrypt (service : Service) (owner : String)
    (answer : Except SealingError (Protection × String)) : Prop where
  fails_iff : (∃ e, answer = .error e) ↔ Text.trim owner = ""
  invalidArgument_iff : (∃ detail, answer = .error (.invalidArgument detail)) ↔ Text.trim owner = ""
  protection_eq (protection : Protection) (stored : String) : answer = .ok (protection, stored) →
    protection = service.writeProtection
  ne_cipher (detail : String) : answer ≠ .error (.cipher detail)

/-- When each answer is given to a request to decrypt what is stored. -/
structure ClassifiesDecrypt (service : Service) (owner : String) (protection : Protection)
    (stored : String) (answer : Except SealingError String) : Prop where
  invalidArgument_iff : (∃ detail, answer = .error (.invalidArgument detail)) ↔ Text.trim owner = ""
  plain_eq : Text.trim owner ≠ "" → protection = .none → answer = .ok stored
  invalidKey_iff : (∃ detail, answer = .error (.invalidKeyMaterial detail)) ↔
    Text.trim owner ≠ "" ∧ protection = .sealed ∧ service.masterKey = none
  malformed_iff : (∃ detail, answer = .error (.malformedEnvelope detail)) ↔
    Text.trim owner ≠ "" ∧ protection = .sealed ∧ service.masterKey ≠ none ∧ IsMalformed stored
  /-- An envelope opens to the text that was sealed in it. -/
  opened_iff (plaintext : String) : Text.trim owner ≠ "" → protection = .sealed →
    (answer = .ok plaintext ↔ ∃ key initial, service.masterKey = some key ∧
      IsSealing key owner initial plaintext (Text.trim stored))
  /-- Any other envelope does not decrypt. -/
  failed_iff : (∃ detail, answer = .error (.decryptionFailed detail)) ↔
    Text.trim owner ≠ "" ∧ protection = .sealed ∧ ¬IsMalformed stored ∧
      ∃ key, service.masterKey = some key ∧
        ∀ initial plaintext, ¬IsSealing key owner initial plaintext (Text.trim stored)
  ne_cipher (detail : String) : answer ≠ .error (.cipher detail)

theorem Answers.classifiesDecrypt {protection : Protection}
    (h : Answers service owner protection stored answer) :
    ClassifiesDecrypt service owner protection stored answer where
  invalidArgument_iff := by
    constructor
    · rintro ⟨detail, rfl⟩
      cases h with
      | noOwner _ _ _ hblank => exact hblank
    · intro hblank
      cases h with
      | noOwner => exact ⟨_, rfl⟩
      | plain _ howner => exact absurd hblank howner
      | noKey _ _ howner => exact absurd hblank howner
      | malformed _ _ _ howner => exact absurd hblank howner
      | opened _ _ _ _ howner => exact absurd hblank howner
      | failed _ _ _ howner => exact absurd hblank howner
  plain_eq := by
    rintro howner rfl
    cases h with
    | noOwner _ _ _ hblank => exact absurd hblank howner
    | plain => rfl
  invalidKey_iff := by
    constructor
    · rintro ⟨detail, rfl⟩
      cases h with
      | noKey _ _ howner hkey => exact ⟨howner, rfl, hkey⟩
    · rintro ⟨howner, rfl, hnone⟩
      cases h with
      | noOwner _ _ _ hblank => exact absurd hblank howner
      | noKey => exact ⟨_, rfl⟩
      | malformed _ _ _ _ hkey => simp [hnone] at hkey
      | opened _ _ _ _ _ hkey => simp [hnone] at hkey
      | failed _ _ _ _ hkey => simp [hnone] at hkey
  malformed_iff := by
    constructor
    · rintro ⟨detail, rfl⟩
      cases h with
      | malformed _ _ key howner hkey hmalformed =>
        exact ⟨howner, rfl, by simp [hkey], hmalformed⟩
    · rintro ⟨howner, rfl, hkey, hmalformed⟩
      cases h with
      | noOwner _ _ _ hblank => exact absurd hblank howner
      | noKey _ _ _ hnone => exact absurd hnone hkey
      | malformed => exact ⟨_, rfl⟩
      | opened _ _ _ _ _ _ hsealing => exact absurd hmalformed hsealing.not_isMalformed
      | failed _ _ _ _ _ hform => exact absurd hmalformed hform
  opened_iff plaintext := by
    rintro howner rfl
    constructor
    · rintro rfl
      cases h with
      | opened _ _ key initial _ hkey hsealing => exact ⟨key, initial, hkey, hsealing⟩
    · rintro ⟨key, initial, hkey, hsealing⟩
      cases h with
      | noOwner _ _ _ hblank => exact absurd hblank howner
      | noKey _ _ _ hnone => simp [hnone] at hkey
      | malformed _ _ _ _ _ hmalformed => exact absurd hmalformed hsealing.not_isMalformed
      | opened _ plaintext' key' initial' _ hkey' hsealing' =>
        obtain rfl : key = key' := Option.some.inj (hkey.symm.trans hkey')
        rw [hsealing.plaintext_eq howner hsealing']
      | failed _ _ key' _ hkey' _ hnone =>
        obtain rfl : key = key' := Option.some.inj (hkey.symm.trans hkey')
        exact absurd hsealing (hnone initial plaintext)
  failed_iff := by
    constructor
    · rintro ⟨detail, rfl⟩
      cases h with
      | failed _ _ key howner hkey hform hnone => exact ⟨howner, rfl, hform, key, hkey, hnone⟩
    · rintro ⟨howner, rfl, hform, key, hkey, hnone⟩
      cases h with
      | noOwner _ _ _ hblank => exact absurd hblank howner
      | noKey _ _ _ hnokey => simp [hnokey] at hkey
      | malformed _ _ _ _ _ hmalformed => exact absurd hmalformed hform
      | opened _ _ key' _ _ hkey' hsealing =>
        obtain rfl : key = key' := Option.some.inj (hkey.symm.trans hkey')
        exact absurd hsealing (hnone _ _)
      | failed => exact ⟨_, rfl⟩
  ne_cipher := by
    rintro detail rfl
    cases h

theorem protect_of_blank (howner : Text.trim owner = "") (service : Service) (initial : Block)
    (plaintext : String) :
    service.protect initial owner plaintext =
      .error (.invalidArgument "owner user id must not be blank") := by
  simp only [protect, checkOwner, if_pos howner, error_bind]

theorem exists_protect_of_ne (howner : Text.trim owner ≠ "") (service : Service) (initial : Block)
    (plaintext : String) :
    ∃ payload, service.protect initial owner plaintext = .ok payload ∧
      payload.protection = service.writeProtection := by
  have hcheck := checkOwner_of_ne howner
  obtain ⟨masterKey⟩ := service
  cases masterKey with
  | none => exact ⟨_, protect_of_disabled hcheck initial plaintext, rfl⟩
  | some key =>
    obtain ⟨stored, hprotect, -⟩ := exists_protect key hcheck initial plaintext
    exact ⟨_, hprotect, rfl⟩

theorem classifiesEncrypt (service : Service) (initial : Block) (owner plaintext : String) :
    ClassifiesEncrypt service owner (service.encrypt initial owner plaintext) := by
  by_cases howner : Text.trim owner = ""
  · have hrefused : service.encrypt initial owner plaintext =
        .error (.invalidArgument "owner user id must not be blank") := by
      rw [encrypt, protect_of_blank howner]
      rfl
    rw [hrefused]
    refine ⟨⟨fun _ => howner, fun _ => ⟨_, rfl⟩⟩, ⟨fun _ => howner, fun _ => ⟨_, rfl⟩⟩, ?_, ?_⟩
    · intro protection stored h
      cases h
    · intro detail h
      cases h
  · obtain ⟨payload, hprotect, hprotection⟩ :=
      exists_protect_of_ne howner service initial plaintext
    have hanswer : service.encrypt initial owner plaintext =
        .ok (payload.protection, payload.text) := by
      rw [encrypt, hprotect]
      rfl
    rw [hanswer]
    refine ⟨⟨?_, fun hblank => absurd hblank howner⟩, ⟨?_, fun hblank => absurd hblank howner⟩,
      ?_, ?_⟩
    · rintro ⟨e, h⟩
      cases h
    · rintro ⟨detail, h⟩
      cases h
    · intro protection stored h
      cases h
      exact hprotection
    · intro detail h
      cases h

/-! ## The self-test -/

theorem ne_sampleText_of_isSealing (h : IsSealing key owner initial plaintext stored) :
    stored ≠ sampleText := by
  obtain ⟨envelope, -, rfl⟩ := h
  intro hsame
  have hdecode := Text.Base64.decode?_encode envelope
  have hnone : Base64.decode? sampleText = none := by decide +kernel
  rw [hsame, hnone] at hdecode
  cases hdecode

theorem selfTest_eq_ok (service : Service) (initial : Block) :
    service.selfTest initial = .ok () := by
  obtain ⟨masterKey⟩ := service
  cases masterKey with
  | none => rfl
  | some key =>
    have howner : checkOwner sampleOwner = .ok () := checkOwner_of_ne (by decide)
    obtain ⟨stored, hprotect, hsealing⟩ := exists_protect key howner initial sampleText
    have hreveal : (⟨some key⟩ : Service).reveal sampleOwner (.sealed stored) = .ok sampleText := by
      rw [reveal_sealed key howner, unsealText_of_isSealing howner hsealing]
    have hother : ¬(Payload.sealed stored).text = sampleText :=
      ne_sampleText_of_isSealing hsealing
    have henabled : (⟨some key⟩ : Service).isEnabled = true := rfl
    simp only [selfTest, if_pos henabled, hprotect, ok_bind, if_neg hother, hreveal]
    rfl

/-! ## All answers -/

/-- Without a key or with any master key, a service encrypts every text for every owner who has a
name, and what it answers to a request to decrypt is decided by the owner, the protection, the key
and the form of what is stored, in this order. Its key fits wherever it is used, and the self-test
succeeds. -/
theorem every_answer_classified (service : Service) :
    (∀ initial owner plaintext,
        ClassifiesEncrypt service owner (service.encrypt initial owner plaintext)) ∧
      (∀ owner protection stored, ClassifiesDecrypt service owner protection stored
        (service.decrypt owner protection stored)) ∧
      (∀ key ∈ service.masterKey, ∀ owner, key.FitsFor owner) ∧
      ∀ initial, service.selfTest initial = .ok () :=
  ⟨service.classifiesEncrypt,
    fun owner protection stored =>
      (service.answers_decrypt owner protection stored).classifiesDecrypt,
    fun key _ => key.fitsFor, service.selfTest_eq_ok⟩

/-- A service with a key of 16 bytes: three bytes are no envelope, a blank owner is refused, and the
self-test succeeds. -/
theorem answers_under_a_key_of_16_bytes :
    (∃ detail, (⟨some ⟨List.replicate 16 7, by decide⟩⟩ : Service).decrypt "alice" .sealed
        " AAAA " = .error (.malformedEnvelope detail)) ∧
      (∃ detail, (⟨some ⟨List.replicate 16 7, by decide⟩⟩ : Service).encrypt default " " "Γειά" =
        .error (.invalidArgument detail)) ∧
      (⟨some ⟨List.replicate 16 7, by decide⟩⟩ : Service).selfTest default = .ok () := by
  obtain ⟨hencrypt, hdecrypt, -, htest⟩ :=
    every_answer_classified ⟨some ⟨List.replicate 16 7, by decide⟩⟩
  refine ⟨(hdecrypt "alice" .sealed " AAAA ").malformed_iff.mpr ⟨by decide, rfl, nofun, ?_⟩,
    (hencrypt default " " "Γειά").invalidArgument_iff.mpr (by decide), htest default⟩
  exact Or.inr ⟨[0, 0, 0], by decide +kernel, by decide⟩

end Service

end SealedVault.Sealing
