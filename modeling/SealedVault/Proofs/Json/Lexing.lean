import SealedVault.Json.Printer
import SealedVault.Proofs.Text.Utf8

/-!
# Tokens of printed text

Bytes that read as the same tokens in front of any bytes can be put one after the other, so the
tokens of a printed value are put together from those of its parts. The part that needs an argument
is a string: its escapes and the bytes of its characters read back as the string.
-/

namespace SealedVault.Json

open Text (charBytes)

/-! ## Tokens one after the other -/

/-- The tokens of bytes are those of the rest behind the blanks and the first token. -/
theorem tokens?_eq (bytes : List UInt8) :
    tokens? bytes =
      match bytes.dropWhile isSpace with
      | [] => some []
      | b :: rest =>
        match readToken (b :: rest) with
        | some (t, rest) => (tokens? rest).map (t :: ·)
        | none => none := by
  rw [tokens?]
  split
  next h => rw [h]
  next b rest h =>
    simp only [h]
    split
    next t more hread => simp only [hread]
    next hread => simp only [hread]

/-- In front of any bytes, these read as the given tokens. -/
def Lexes (bytes : List UInt8) (ts : List Token) : Prop :=
  ∀ rest, tokens? (bytes ++ rest) = (tokens? rest).map (ts ++ ·)

theorem Lexes.tokens?_eq
    {bytes : List UInt8} {ts : List Token} (h : Lexes bytes ts) :
    tokens? bytes = some ts := by
  have hnil : tokens? [] = some [] := by
    rw [Json.tokens?_eq]
    rfl
  simpa [hnil] using h []

theorem lexes_nil : Lexes [] [] := by
  intro rest
  simp

theorem Lexes.append
    {as bs : List UInt8} {ts us : List Token}
    (ha : Lexes as ts) (hb : Lexes bs us) : Lexes (as ++ bs) (ts ++ us) := by
  intro rest
  rw [List.append_assoc, ha, hb, Option.map_map]
  congr 1
  funext more
  exact (List.append_assoc ts us more).symm

theorem lexes_space {b : UInt8} (h : isSpace b = true) : Lexes [b] [] := by
  intro rest
  rw [Json.tokens?_eq, Json.tokens?_eq rest]
  simp only [List.cons_append, List.nil_append, List.dropWhile_cons_of_pos h]
  cases h : List.dropWhile isSpace rest with
  | nil => rfl
  | cons b more =>
    simp only
    cases readToken (b :: more) with
    | none => rfl
    | some read => simp [Option.map_map, Function.comp_def]

theorem lexes_spaces {bytes : List UInt8} (h : ∀ b ∈ bytes, isSpace b = true) :
    Lexes bytes [] := by
  induction bytes with
  | nil => exact lexes_nil
  | cons b rest ih =>
    exact (lexes_space (h b (by simp))).append (ih fun c hc => h c (by simp [hc]))

/-- Bytes that do not begin with a blank and are read as one token in front of any others. -/
theorem lexes_token
    {b : UInt8} {bytes : List UInt8} {t : Token} (hspace : isSpace b = false)
    (hread : ∀ rest, readToken (b :: bytes ++ rest) = some (t, rest)) :
    Lexes (b :: bytes) [t] := by
  intro rest
  have hdrop : (b :: bytes ++ rest).dropWhile isSpace = b :: (bytes ++ rest) :=
    List.dropWhile_cons_of_neg (by simp [hspace])
  have h := hread rest
  rw [List.cons_append] at h
  rw [Json.tokens?_eq, hdrop]
  simp only [h]
  rfl

theorem lexes_openBrace : Lexes [ascii '\x7b'] [.openBrace] :=
  lexes_token (by decide) fun _ => rfl

theorem lexes_closeBrace : Lexes [ascii '\x7d'] [.closeBrace] :=
  lexes_token (by decide) fun _ => rfl

theorem lexes_comma : Lexes [ascii ','] [.comma] :=
  lexes_token (by decide) fun _ => rfl

theorem lexes_colon : Lexes [ascii ':'] [.colon] :=
  lexes_token (by decide) fun _ => rfl

/-! ## Strings -/

/-- The character is written by its code point. -/
def IsNumbered (c : Char) : Prop :=
  c.toNat < 0x20 ∧ c ≠ '\x08' ∧ c ≠ '\x0c' ∧ c ≠ '\n' ∧ c ≠ '\r' ∧ c ≠ '\t'

instance (c : Char) : Decidable (IsNumbered c) := inferInstanceAs (Decidable (_ ∧ _))

/-- The pieces that the written form of a character is read as. -/
def piecesOf (c : Char) : List Piece :=
  if IsNumbered c then [.unit c.toNat] else (String.utf8EncodeChar c).map .byte

/-- A byte that stands for itself in a string. -/
theorem readPieces_plain
    {b : UInt8} (hquote : b ≠ ascii '"') (hslash : b ≠ ascii '\\') (hlow : ¬b < 0x20)
    (rest : List UInt8) :
    readPieces (b :: rest) =
      (readPieces rest).map fun (pieces, rest) => (.byte b :: pieces, rest) := by
  conv => lhs; unfold readPieces
  simp only [if_neg hquote, if_neg hslash, if_neg hlow]

theorem readPieces_plains
    {bytes : List UInt8}
    (h : ∀ b ∈ bytes, b ≠ ascii '"' ∧ b ≠ ascii '\\' ∧ ¬b < 0x20)
    (rest : List UInt8) :
    readPieces (bytes ++ rest) =
      (readPieces rest).map fun (pieces, rest) =>
        (bytes.map .byte ++ pieces, rest) := by
  induction bytes with
  | nil => simp
  | cons b more ih =>
    obtain ⟨hquote, hslash, hlow⟩ := h b (by simp)
    rw [List.cons_append, readPieces_plain hquote hslash hlow,
      ih fun c hc => h c (by simp [hc]), Option.map_map]
    rfl

theorem readPieces_shortEscape
    {e b : UInt8} (he : e ≠ ascii 'u') (h : shortEscape? e = some b)
    (rest : List UInt8) :
    readPieces (ascii '\\' :: e :: rest) =
      (readPieces rest).map fun (pieces, rest) => (.byte b :: pieces, rest) := by
  conv => lhs; unfold readPieces
  rw [if_neg (by decide), if_pos rfl]
  simp only [if_neg he, h, Option.bind_some]

theorem readPieces_unit
    {w x y z : UInt8} {n : Nat} (h : hexUnit? w x y z = some n) (rest : List UInt8) :
    readPieces (ascii '\\' :: ascii 'u' :: w :: x :: y :: z :: rest) =
      (readPieces rest).map fun (pieces, rest) => (.unit n :: pieces, rest) := by
  conv => lhs; unfold readPieces
  rw [if_neg (by decide), if_pos rfl]
  simp only [if_true, h, Option.bind_some]

/-- The code point of a control character reads back from its digits. -/
theorem hexUnit?_control {n : Nat} (h : n < 0x20) :
    hexUnit? (ascii '0') (ascii '0') (ascii (Nat.digitChar (n / 16)))
      (ascii (Nat.digitChar (n % 16))) = some n := by
  have hall : ∀ i : Fin 0x20,
      hexUnit? (ascii '0') (ascii '0') (ascii (Nat.digitChar (i / 16)))
        (ascii (Nat.digitChar (i % 16))) = some i.val := by
    decide
  exact hall ⟨n, h⟩

theorem toNat_digitChar_lt {n : Nat} (h : n < 16) : (Nat.digitChar n).toNat < 128 := by
  have hall : ∀ i : Fin 16, (Nat.digitChar i).toNat < 128 := by decide
  exact hall ⟨n, h⟩

theorem charBytes_control {n : Nat} (h : n < 0x20) :
    charBytes ['\\', 'u', '0', '0', Nat.digitChar (n / 16), Nat.digitChar (n % 16)] =
      [ascii '\\', ascii 'u', ascii '0', ascii '0', ascii (Nat.digitChar (n / 16)),
        ascii (Nat.digitChar (n % 16))] := by
  have hhigh : (Nat.digitChar (n / 16)).toNat < 128 := toNat_digitChar_lt (by omega)
  have hlow : (Nat.digitChar (n % 16)).toNat < 128 := toNat_digitChar_lt (by omega)
  simp only [Text.charBytes_cons, Text.charBytes_nil, Text.utf8EncodeChar_of_lt hhigh,
    Text.utf8EncodeChar_of_lt hlow]
  rfl

/-- The bytes of a character that needs no escape stand for themselves. -/
theorem plain_of_mem_utf8EncodeChar
    {c : Char} (hquote : c ≠ '"') (hslash : c ≠ '\\') (hlow : ¬c.toNat < 0x20)
    {b : UInt8} (hb : b ∈ String.utf8EncodeChar c) :
    b ≠ ascii '"' ∧ b ≠ ascii '\\' ∧ ¬b < 0x20 := by
  by_cases hc : c.toNat < 128
  · rw [Text.utf8EncodeChar_of_lt hc, List.mem_singleton] at hb
    have hnat := Text.toNat_ascii hc
    have hne (d : Char) (hd : d.toNat < 128) (h : c ≠ d) : ascii c ≠ ascii d := by
      intro heq
      apply h
      rw [← Char.toNat_inj, ← hnat, heq, Text.toNat_ascii hd]
    subst hb
    refine ⟨hne _ (by decide) hquote, hne _ (by decide) hslash, ?_⟩
    rw [UInt8.lt_iff_toNat_lt, hnat]
    exact hlow
  · have hhigh := Text.le_of_mem_utf8EncodeChar (Nat.le_of_not_lt hc) hb
    rw [UInt8.le_iff_toNat_le] at hhigh
    simp only [UInt8.reduceToNat] at hhigh
    refine ⟨?_, ?_, ?_⟩
    · rintro rfl
      exact absurd hhigh (by decide)
    · rintro rfl
      exact absurd hhigh (by decide)
    · rw [UInt8.lt_iff_toNat_lt]
      simp only [UInt8.reduceToNat]
      omega

theorem readPieces_escapedChar (c : Char) (rest : List UInt8) :
    readPieces (charBytes (escapedChar c) ++ rest) =
      (readPieces rest).map fun (pieces, rest) => (piecesOf c ++ pieces, rest) := by
  unfold escapedChar
  split
  next h => subst h; exact readPieces_shortEscape (by decide) (by decide) rest
  split
  next h => subst h; exact readPieces_shortEscape (by decide) (by decide) rest
  split
  next h => subst h; exact readPieces_shortEscape (by decide) (by decide) rest
  split
  next h => subst h; exact readPieces_shortEscape (by decide) (by decide) rest
  split
  next h => subst h; exact readPieces_shortEscape (by decide) (by decide) rest
  split
  next h => subst h; exact readPieces_shortEscape (by decide) (by decide) rest
  split
  next h => subst h; exact readPieces_shortEscape (by decide) (by decide) rest
  next hquote hslash hback hfeed hline hreturn htab =>
    split
    next hlow =>
      rw [charBytes_control hlow, piecesOf,
        if_pos ⟨hlow, hback, hfeed, hline, hreturn, htab⟩]
      exact readPieces_unit (hexUnit?_control hlow) rest
    next hlow =>
      rw [piecesOf, if_neg fun h => hlow h.1]
      simp only [Text.charBytes_cons, Text.charBytes_nil, List.append_nil]
      exact readPieces_plains
        (fun b hb => plain_of_mem_utf8EncodeChar hquote hslash hlow hb) rest

theorem readPieces_escaped (cs : List Char) (rest : List UInt8) :
    readPieces (charBytes (cs.flatMap escapedChar) ++ ascii '"' :: rest) =
      some (cs.flatMap piecesOf, rest) := by
  induction cs with
  | nil =>
    unfold readPieces
    rw [List.flatMap_nil, Text.charBytes_nil]
    rfl
  | cons c more ih =>
    rw [List.flatMap_cons, Text.charBytes_append, List.append_assoc,
      readPieces_escapedChar, ih]
    rfl

theorem piecesBytes?_bytes (bytes : List UInt8) (pieces : List Piece) :
    piecesBytes? (bytes.map .byte ++ pieces) = (piecesBytes? pieces).map (bytes ++ ·) := by
  induction bytes with
  | nil => simp
  | cons b more ih =>
    rw [List.map_cons, List.cons_append, piecesBytes?, ih, Option.map_map]
    rfl

/-- A code unit that is no surrogate stands for its character, whatever follows. -/
theorem piecesBytes?_unit {n : Nat} (h : n < 0xd800 ∨ 0xdfff < n) (pieces : List Piece) :
    piecesBytes? (.unit n :: pieces) =
      (piecesBytes? pieces).map (codePointBytes n ++ ·) := by
  have hhigh : isHighSurrogate n = false := by
    simp only [isHighSurrogate, Bool.and_eq_false_iff, decide_eq_false_iff_not]
    omega
  have hlow : isLowSurrogate n = false := by
    simp only [isLowSurrogate, Bool.and_eq_false_iff, decide_eq_false_iff_not]
    omega
  match pieces with
  | [] => simp [piecesBytes?, hhigh, hlow]
  | .byte b :: rest => simp [piecesBytes?, hhigh, hlow]
  | .unit low :: rest => simp [piecesBytes?, hhigh, hlow]

theorem piecesBytes?_piecesOf (c : Char) (pieces : List Piece) :
    piecesBytes? (piecesOf c ++ pieces) =
      (piecesBytes? pieces).map (String.utf8EncodeChar c ++ ·) := by
  unfold piecesOf
  split
  next h =>
    have hlow := h.1
    rw [List.singleton_append, piecesBytes?_unit (.inl (by omega)), codePointBytes,
      Char.ofNat_toNat]
  · exact piecesBytes?_bytes _ pieces

theorem piecesBytes?_flatMap_piecesOf (cs : List Char) :
    piecesBytes? (cs.flatMap piecesOf) = some (charBytes cs) := by
  induction cs with
  | nil => rfl
  | cons c more ih =>
    rw [List.flatMap_cons, piecesBytes?_piecesOf, ih]
    rfl

/-- The written form of a string reads back as the string. -/
theorem lexes_string (s : String) : Lexes (charBytes (stringChars s)) [.string (some s)] := by
  have hquote : charBytes ['"'] = [ascii '"'] := rfl
  have hbytes : charBytes (stringChars s) =
      ascii '"' :: (charBytes (s.toList.flatMap escapedChar) ++ [ascii '"']) := by
    rw [stringChars, Text.charBytes_append, hquote, Text.charBytes_cons]
    rfl
  rw [hbytes]
  apply lexes_token (by decide)
  intro rest
  have htext : piecesText? (s.toList.flatMap piecesOf) = some s := by
    rw [piecesText?, piecesBytes?_flatMap_piecesOf, Option.bind_some,
      Text.ofUtf8Bytes?_charBytes]
  have hread : readToken
      (ascii '"' :: (charBytes (s.toList.flatMap escapedChar) ++ ascii '"' :: rest)) =
        some (.string (piecesText? (s.toList.flatMap piecesOf)), rest) := by
    unfold readToken
    simp only [readPieces_escaped]
    rfl
  simpa [htext] using hread

end SealedVault.Json
