import SealedVault.Proofs.Json.Values
import Mathlib.Data.List.Forall2

/-!
# Every JSON text is read

The grammar of JSON texts, said of their characters: blanks may stand around the parts of arrays and
objects, strings may be written with any escapes, and numbers with a fraction and an exponent. Each
text of the grammar has the tokens of a tree. A string whose escapes of surrogates pair is read as
the characters that it spells.
-/

namespace SealedVault.Json

open Text (charBytes)
open Value (LexesValue LexesValue.append lexesValue_of_lexes join join_cons lexes_null lexes_bool
  lexes_openBracket lexes_closeBracket readToken_digit tokens?_cons endsNumber_more)

/-! ## Strings -/

/-- The letter after a backslash and the character that the two stand for. -/
def shortEscapes : List (Char × Char) :=
  [('"', '"'), ('\\', '\\'), ('/', '/'), ('b', '\x08'), ('f', '\x0c'), ('n', '\n'), ('r', '\r'),
    ('t', '\t')]

/-- The hexadecimal digit of either case for a number below 16. -/
def IsHexDigit (c : Char) (n : Nat) : Prop :=
  n < 16 ∧ (c = Nat.digitChar n ∨ c = (Nat.digitChar n).toUpper)

instance (c : Char) (n : Nat) : Decidable (IsHexDigit c n) :=
  inferInstanceAs (Decidable (_ ∧ _))

/-- Four hexadecimal digits and the number that they write. -/
def IsHexUnit (digits : List Char) (n : Nat) : Prop :=
  ∃ w x y z a b c d, digits = [w, x, y, z] ∧ n = ((a * 16 + b) * 16 + c) * 16 + d ∧
    IsHexDigit w a ∧ IsHexDigit x b ∧ IsHexDigit y c ∧ IsHexDigit z d

/-- A character that stands for itself in a string. -/
def IsUnescaped (c : Char) : Prop := c ≠ '"' ∧ c ≠ '\\' ∧ 0x20 ≤ c.toNat

instance : DecidablePred IsUnescaped := fun _ => inferInstanceAs (Decidable (_ ∧ _))

/-- The inside of a string and the characters that it spells. -/
inductive Spells : List Char → List Char → Prop
  | nil : Spells [] []
  | unescaped {c : Char} {cs text : List Char} (h : IsUnescaped c) (rest : Spells cs text) :
    Spells (c :: cs) (c :: text)
  | short {e c : Char} {cs text : List Char} (h : (e, c) ∈ shortEscapes) (rest : Spells cs text) :
    Spells ('\\' :: e :: cs) (c :: text)
  | unit {c : Char} {digits cs text : List Char} (h : IsHexUnit digits c.toNat)
    (rest : Spells cs text) : Spells ('\\' :: 'u' :: (digits ++ cs)) (c :: text)
  | pair {c : Char} {high low : Nat} {digits digits' cs text : List Char}
    (hhigh : IsHexUnit digits high) (hlow : IsHexUnit digits' low)
    (high_bounds : 0xd800 ≤ high ∧ high ≤ 0xdbff) (low_bounds : 0xdc00 ≤ low ∧ low ≤ 0xdfff)
    (h : c.toNat = 0x10000 + (high - 0xd800) * 0x400 + (low - 0xdc00)) (rest : Spells cs text) :
    Spells ('\\' :: 'u' :: (digits ++ '\\' :: 'u' :: (digits' ++ cs))) (c :: text)

/-- The inside of any string. Its escapes of surrogates need not pair. -/
inductive IsStringBody : List Char → Prop
  | nil : IsStringBody []
  | unescaped {c : Char} {cs : List Char} (h : IsUnescaped c) (rest : IsStringBody cs) :
    IsStringBody (c :: cs)
  | short {e c : Char} {cs : List Char} (h : (e, c) ∈ shortEscapes) (rest : IsStringBody cs) :
    IsStringBody ('\\' :: e :: cs)
  | unit {n : Nat} {digits cs : List Char} (h : IsHexUnit digits n) (rest : IsStringBody cs) :
    IsStringBody ('\\' :: 'u' :: (digits ++ cs))

/-- The text of some string. -/
def IsStringText (cs : List Char) : Prop :=
  ∃ body, IsStringBody body ∧ cs = '"' :: (body ++ ['"'])

/-- The text is one of this string. -/
def SpellsString (cs : List Char) (s : String) : Prop :=
  ∃ body, Spells body s.toList ∧ cs = '"' :: (body ++ ['"'])

theorem hexValue?_of_isHexDigit {c : Char} {n : Nat} (h : IsHexDigit c n) :
    c.toNat < 128 ∧ hexValue? (ascii c) = some n := by
  have hall : ∀ i : Fin 16,
      ((Nat.digitChar i).toNat < 128 ∧ hexValue? (ascii (Nat.digitChar i)) = some i.val) ∧
        ((Nat.digitChar i).toUpper.toNat < 128 ∧
          hexValue? (ascii (Nat.digitChar i).toUpper) = some i.val) := by
    decide
  obtain ⟨hlt, rfl | rfl⟩ := h
  · exact (hall ⟨n, hlt⟩).1
  · exact (hall ⟨n, hlt⟩).2

/-- In front of any bytes, these are read as the given pieces of a string. -/
def ReadsPieces (cs : List Char) (pieces : List Piece) : Prop :=
  ∀ rest, readPieces (charBytes cs ++ rest) =
    (readPieces rest).map fun (more, rest) => (pieces ++ more, rest)

theorem readsPieces_nil : ReadsPieces [] [] := by
  intro rest
  simp

theorem ReadsPieces.append {as bs : List Char} {ps qs : List Piece}
    (ha : ReadsPieces as ps) (hb : ReadsPieces bs qs) : ReadsPieces (as ++ bs) (ps ++ qs) := by
  intro rest
  rw [Text.charBytes_append, List.append_assoc, ha, hb, Option.map_map]
  congr 1
  funext more
  simp

theorem readsPieces_unescaped {c : Char} (h : IsUnescaped c) :
    ReadsPieces [c] ((String.utf8EncodeChar c).map .byte) := by
  intro rest
  obtain ⟨hquote, hslash, hlow⟩ := h
  rw [Text.charBytes_cons, Text.charBytes_nil, List.append_nil]
  exact readPieces_plains
    (fun b hb => plain_of_mem_utf8EncodeChar hquote hslash (Nat.not_lt.mpr hlow) hb) rest

theorem toNat_lt_of_mem_shortEscapes {e c : Char} (h : (e, c) ∈ shortEscapes) :
    e.toNat < 128 ∧ c.toNat < 128 := by
  have hall : ∀ p ∈ shortEscapes, p.1.toNat < 128 ∧ p.2.toNat < 128 := by decide
  exact hall (e, c) h

theorem readsPieces_short {e c : Char} (h : (e, c) ∈ shortEscapes) :
    ReadsPieces ['\\', e] [.byte (ascii c)] := by
  intro rest
  have hall : ∀ p ∈ shortEscapes, ascii p.1 ≠ ascii 'u' ∧
      shortEscape? (ascii p.1) = some (ascii p.2) := by
    decide
  obtain ⟨hne, hescape⟩ := hall (e, c) h
  have hbytes : charBytes ['\\', e] = [ascii '\\', ascii e] := by
    apply Text.charBytes_of_lt
    simp [toNat_lt_of_mem_shortEscapes h]
  rw [hbytes]
  exact readPieces_shortEscape hne hescape rest

/-- The escape of a code unit is read as the code unit. -/
theorem readsPieces_unit {digits : List Char} {n : Nat} (h : IsHexUnit digits n) :
    ReadsPieces ('\\' :: 'u' :: digits) [.unit n] := by
  intro rest
  obtain ⟨w, x, y, z, a, b, c, d, rfl, rfl, hw, hx, hy, hz⟩ := h
  obtain ⟨hwlt, hw⟩ := hexValue?_of_isHexDigit hw
  obtain ⟨hxlt, hx⟩ := hexValue?_of_isHexDigit hx
  obtain ⟨hylt, hy⟩ := hexValue?_of_isHexDigit hy
  obtain ⟨hzlt, hz⟩ := hexValue?_of_isHexDigit hz
  have hbytes : charBytes ['\\', 'u', w, x, y, z] =
      [ascii '\\', ascii 'u', ascii w, ascii x, ascii y, ascii z] := by
    apply Text.charBytes_of_lt
    simp [hwlt, hxlt, hylt, hzlt]
  have hunit : hexUnit? (ascii w) (ascii x) (ascii y) (ascii z) =
      some (((a * 16 + b) * 16 + c) * 16 + d) := by
    simp [hexUnit?, hw, hx, hy, hz]
  rw [hbytes]
  exact readPieces_unit hunit rest

theorem exists_readsPieces {body : List Char} (h : IsStringBody body) :
    ∃ pieces, ReadsPieces body pieces := by
  induction h with
  | nil => exact ⟨[], readsPieces_nil⟩
  | unescaped h rest ih =>
    obtain ⟨pieces, hpieces⟩ := ih
    exact ⟨_, (readsPieces_unescaped h).append hpieces⟩
  | short h rest ih =>
    obtain ⟨pieces, hpieces⟩ := ih
    exact ⟨_, (readsPieces_short h).append hpieces⟩
  | unit h rest ih =>
    obtain ⟨pieces, hpieces⟩ := ih
    exact ⟨_, (readsPieces_unit h).append hpieces⟩

/-- Two code units that are surrogates of a pair stand for their character. -/
theorem piecesBytes?_pair {c : Char} {high low : Nat}
    (high_bounds : 0xd800 ≤ high ∧ high ≤ 0xdbff) (low_bounds : 0xdc00 ≤ low ∧ low ≤ 0xdfff)
    (h : c.toNat = 0x10000 + (high - 0xd800) * 0x400 + (low - 0xdc00)) (pieces : List Piece) :
    piecesBytes? (.unit high :: .unit low :: pieces) =
      (piecesBytes? pieces).map (String.utf8EncodeChar c ++ ·) := by
  have hhigh : isHighSurrogate high = true := by
    simpa [isHighSurrogate] using high_bounds
  have hlow : isLowSurrogate low = true := by
    simpa [isLowSurrogate] using low_bounds
  rw [piecesBytes?, if_pos hhigh, if_pos hlow, ← h, codePointBytes, Char.ofNat_toNat]

/-- No character has a surrogate as its code point. -/
theorem toNat_not_surrogate (c : Char) : c.toNat < 0xd800 ∨ 0xdfff < c.toNat := by
  have hvalid := c.valid
  rcases hvalid with hlow | ⟨hhigh, -⟩
  · exact Or.inl hlow
  · exact Or.inr hhigh

/-- The pieces of a string that is spelled are the bytes of what it spells. -/
theorem exists_pieces_of_spells {body text : List Char} (h : Spells body text) :
    ∃ pieces, ReadsPieces body pieces ∧ piecesBytes? pieces = some (charBytes text) := by
  induction h with
  | nil => exact ⟨[], readsPieces_nil, rfl⟩
  | unescaped h rest ih =>
    obtain ⟨pieces, hpieces, hbytes⟩ := ih
    refine ⟨_, (readsPieces_unescaped h).append hpieces, ?_⟩
    rw [piecesBytes?_bytes, hbytes]
    rfl
  | short h rest ih =>
    obtain ⟨pieces, hpieces, hbytes⟩ := ih
    refine ⟨_, (readsPieces_short h).append hpieces, ?_⟩
    rw [List.singleton_append, piecesBytes?, hbytes, Text.charBytes_cons,
      Text.utf8EncodeChar_of_lt (toNat_lt_of_mem_shortEscapes h).2]
    rfl
  | @unit c digits cs text h rest ih =>
    obtain ⟨pieces, hpieces, hbytes⟩ := ih
    refine ⟨_, (readsPieces_unit h).append hpieces, ?_⟩
    rw [List.singleton_append, piecesBytes?_unit (toNat_not_surrogate c), hbytes, codePointBytes,
      Char.ofNat_toNat]
    rfl
  | pair hhigh hlow high_bounds low_bounds h rest ih =>
    obtain ⟨pieces, hpieces, hbytes⟩ := ih
    have hread := (readsPieces_unit hhigh).append ((readsPieces_unit hlow).append hpieces)
    refine ⟨_, hread, ?_⟩
    rw [List.singleton_append, List.singleton_append,
      piecesBytes?_pair high_bounds low_bounds h, hbytes]
    rfl

/-- A string is one token, whose text is that of its pieces. -/
theorem lexes_quoted {body : List Char} {pieces : List Piece} (h : ReadsPieces body pieces) :
    Lexes (charBytes ('"' :: (body ++ ['"']))) [.string (piecesText? pieces)] := by
  have hquote : charBytes ['"'] = [ascii '"'] := rfl
  have hbytes : charBytes ('"' :: (body ++ ['"'])) =
      ascii '"' :: (charBytes body ++ [ascii '"']) := by
    rw [Text.charBytes_cons, Text.charBytes_append, hquote]
    rfl
  have hclosed (rest : List UInt8) :
      readPieces (charBytes body ++ ascii '"' :: rest) = some (pieces, rest) := by
    have hend : readPieces (ascii '"' :: rest) = some ([], rest) := by
      unfold readPieces
      rfl
    rw [h, hend]
    simp
  rw [hbytes]
  apply lexes_token (by decide)
  intro rest
  have hread : readToken (ascii '"' :: (charBytes body ++ ascii '"' :: rest)) =
      some (.string (piecesText? pieces), rest) := by
    unfold readToken
    simp only [hclosed]
    rfl
  simpa using hread

theorem exists_lexes_string {cs : List Char} (h : IsStringText cs) :
    ∃ text, Lexes (charBytes cs) [.string text] := by
  obtain ⟨body, hbody, rfl⟩ := h
  obtain ⟨pieces, hpieces⟩ := exists_readsPieces hbody
  exact ⟨_, lexes_quoted hpieces⟩

theorem lexes_spelled {cs : List Char} {s : String} (h : SpellsString cs s) :
    Lexes (charBytes cs) [.string (some s)] := by
  obtain ⟨body, hbody, rfl⟩ := h
  obtain ⟨pieces, hpieces, hbytes⟩ := exists_pieces_of_spells hbody
  have htext : piecesText? pieces = some s := by
    rw [piecesText?, hbytes, Option.bind_some, Text.ofUtf8Bytes?_charBytes]
  rw [← htext]
  exact lexes_quoted hpieces

/-! ### Strings that are printed -/

theorem isHexDigit_digitChar {n : Nat} (h : n < 16) : IsHexDigit (Nat.digitChar n) n :=
  ⟨h, .inl rfl⟩

theorem isHexUnit_of_lt {n : Nat} (h : n < 0x100) :
    IsHexUnit ['0', '0', Nat.digitChar (n / 16), Nat.digitChar (n % 16)] n := by
  refine ⟨'0', '0', _, _, 0, 0, n / 16, n % 16, rfl, by omega, ?_, ?_, ?_, ?_⟩
  · exact isHexDigit_digitChar (by decide)
  · exact isHexDigit_digitChar (by decide)
  · exact isHexDigit_digitChar (by omega)
  · exact isHexDigit_digitChar (by omega)

/-- A character is spelled by the way in which it is printed. -/
theorem Spells.printed {c : Char} {cs text : List Char} (rest : Spells cs text) :
    Spells (escapedChar c ++ cs) (c :: text) := by
  unfold escapedChar
  split_ifs with hquote hslash hb hf hn hr ht hlow
  · exact .short (by rw [hquote]; decide) rest
  · exact .short (by rw [hslash]; decide) rest
  · exact .short (by rw [hb]; decide) rest
  · exact .short (by rw [hf]; decide) rest
  · exact .short (by rw [hn]; decide) rest
  · exact .short (by rw [hr]; decide) rest
  · exact .short (by rw [ht]; decide) rest
  · exact .unit (isHexUnit_of_lt (by omega)) rest
  · exact .unescaped ⟨hquote, hslash, Nat.le_of_not_lt hlow⟩ rest

/-- Characters that stand for themselves spell themselves. -/
theorem spells_self {cs : List Char} (h : cs.all (IsUnescaped ·) = true) : Spells cs cs := by
  induction cs with
  | nil => exact .nil
  | cons c rest ih =>
    rw [List.all_cons, Bool.and_eq_true, decide_eq_true_eq] at h
    exact .unescaped h.1 (ih h.2)

/-- A string is spelled by its printed form. -/
theorem spellsString_stringChars (s : String) : SpellsString (stringChars s) s := by
  have hspells (text : List Char) : Spells (text.flatMap escapedChar) text := by
    induction text with
    | nil => exact .nil
    | cons c text ih => exact ih.printed
  exact ⟨s.toList.flatMap escapedChar, hspells s.toList, rfl⟩

/-! ## Numbers -/

/-- Decimal digits, of which there is one at least. -/
def IsDigits (cs : List Char) : Prop := cs ≠ [] ∧ ∀ c ∈ cs, c.isDigit = true

/-- The whole part of a number. No further digit follows a leading zero. -/
def IsWholePart (cs : List Char) : Prop := IsDigits cs ∧ (cs.head? = some '0' → cs = ['0'])

/-- The fraction of a number, if it has one. -/
inductive IsFraction : List Char → Prop
  | absent : IsFraction []
  | present {digits : List Char} (h : IsDigits digits) : IsFraction ('.' :: digits)

/-- The sign of an exponent, if it has one. -/
def IsSign (cs : List Char) : Prop := cs = [] ∨ cs = ['+'] ∨ cs = ['-']

/-- The exponent of a number, if it has one. -/
inductive IsExponent : List Char → Prop
  | absent : IsExponent []
  | present {mark : Char} {sign digits : List Char} (hmark : mark = 'e' ∨ mark = 'E')
    (hsign : IsSign sign) (h : IsDigits digits) : IsExponent (mark :: (sign ++ digits))

/-- The text of a number. -/
inductive IsNumberText : List Char → Prop
  | positive {whole fraction exponent : List Char} (hwhole : IsWholePart whole)
    (hfraction : IsFraction fraction) (hexponent : IsExponent exponent) :
    IsNumberText (whole ++ (fraction ++ exponent))
  | negative {whole fraction exponent : List Char} (hwhole : IsWholePart whole)
    (hfraction : IsFraction fraction) (hexponent : IsExponent exponent) :
    IsNumberText ('-' :: (whole ++ (fraction ++ exponent)))

/-- The values of decimal digits. -/
def digitValues (digits : List Char) : List Nat := digits.map fun c => c.toNat - 0x30

theorem endsDigits_cons {b : UInt8} {rest : List UInt8} (h : isDigit b = false) :
    EndsDigits (b :: rest) := by
  intro b' rest' heq
  cases heq
  exact h

theorem exists_cons_of_isDigits {digits : List Char} (h : IsDigits digits) (rest : List UInt8) :
    ∃ b more, isDigit b = true ∧ charBytes digits ++ rest = b :: more := by
  obtain ⟨hne, hdigits⟩ := h
  cases digits with
  | nil => exact absurd rfl hne
  | cons c cs =>
    rw [charBytes_digits hdigits]
    exact ⟨ascii c, cs.map ascii ++ rest, isDigit_ascii (hdigits c (by simp)), rfl⟩

theorem readWhole_of_isWholePart {cs : List Char} (h : IsWholePart cs) {rest : List UInt8}
    (hrest : EndsDigits rest) :
    readWhole (charBytes cs ++ rest) = some (digitValues cs, rest) := by
  obtain ⟨⟨hne, hdigits⟩, hzero⟩ := h
  rw [readWhole, readDigits_digits hdigits hne hrest, ← digitValues, Option.filter_some, if_pos]
  cases cs with
  | nil => exact absurd rfl hne
  | cons c more =>
    by_cases hc : c = '0'
    · cases hzero (by rw [hc]; rfl)
      rfl
    · have hbounds := toNat_of_isDigit (hdigits c (by simp))
      have hvalue : c.toNat - 0x30 ≠ 0 := by
        intro heq
        apply hc
        rw [← Char.toNat_inj]
        have hzero : '0'.toNat = 48 := rfl
        omega
      simp [digitValues, hvalue]

theorem readSign_of_isSign {sign : List Char} (h : IsSign sign) :
    ∃ negative, ∀ digits rest, IsDigits digits →
      readSign (charBytes sign ++ (charBytes digits ++ rest)) =
        (negative, charBytes digits ++ rest) := by
  rcases h with rfl | rfl | rfl
  · refine ⟨false, fun digits rest hdigits => ?_⟩
    obtain ⟨b, more, hb, hbytes⟩ := exists_cons_of_isDigits hdigits rest
    have hminus : b ≠ ascii '-' := by
      rintro rfl
      exact absurd hb (by decide)
    have hplus : b ≠ ascii '+' := by
      rintro rfl
      exact absurd hb (by decide)
    rw [Text.charBytes_nil, List.nil_append, hbytes, readSign]
    simp only [if_neg hminus, if_neg hplus]
  · exact ⟨false, fun _ _ _ => rfl⟩
  · exact ⟨true, fun _ _ _ => rfl⟩

/-- An exponent is read up to its end. -/
theorem exists_readExponent {cs : List Char} (h : IsExponent cs) :
    ∃ exponent, ∀ rest, EndsNumber rest →
      readExponent (charBytes cs ++ rest) = some (exponent, rest) := by
  cases h with
  | absent =>
    refine ⟨none, fun rest hrest => ?_⟩
    cases rest with
    | nil => rfl
    | cons b more =>
      obtain ⟨-, -, he, hE⟩ := hrest b more rfl
      exact if_neg (not_or.mpr ⟨he, hE⟩)
  | @present mark sign digits hmark hsign hdigits =>
    obtain ⟨negative, hread⟩ := readSign_of_isSign hsign
    refine ⟨some (negative, digitValues digits), fun rest hrest => ?_⟩
    have hbytes : charBytes (mark :: (sign ++ digits)) ++ rest =
        ascii mark :: (charBytes sign ++ (charBytes digits ++ rest)) := by
      have hlt : mark.toNat < 128 := by
        rcases hmark with rfl | rfl <;> decide
      rw [Text.charBytes_cons, Text.utf8EncodeChar_of_lt hlt, Text.charBytes_append,
        List.append_assoc, List.append_assoc, List.singleton_append]
    have hmark' : ascii mark = ascii 'e' ∨ ascii mark = ascii 'E' :=
      hmark.imp (congrArg ascii) (congrArg ascii)
    rw [hbytes, readExponent, if_pos hmark', hread digits rest hdigits]
    simp only [readDigits_digits hdigits.2 hdigits.1 hrest.endsDigits, Option.map_some]
    rfl

/-- What comes after the fraction of a number. -/
theorem ends_of_isExponent {cs : List Char} (h : IsExponent cs) {rest : List UInt8}
    (hrest : EndsNumber rest) {b : UInt8} {more : List UInt8}
    (hbytes : charBytes cs ++ rest = b :: more) : isDigit b = false ∧ b ≠ ascii '.' := by
  cases h with
  | absent =>
    obtain ⟨hdigit, hpoint, -⟩ := hrest b more hbytes
    exact ⟨hdigit, hpoint⟩
  | @present mark sign digits hmark hsign hdigits =>
    rcases hmark with rfl | rfl
    · cases hbytes
      decide
    · cases hbytes
      decide

theorem exists_readFraction {cs : List Char} (h : IsFraction cs) :
    ∃ digits, ∀ rest, EndsDigits rest → (∀ b more, rest = b :: more → b ≠ ascii '.') →
      readFraction (charBytes cs ++ rest) = some (digits, rest) ∧
        EndsDigits (charBytes cs ++ rest) := by
  cases h with
  | absent =>
    refine ⟨[], fun rest hrest hpoint => ⟨?_, hrest⟩⟩
    cases rest with
    | nil => rfl
    | cons b more => exact if_neg (hpoint b more rfl)
  | @present digits hdigits =>
    refine ⟨digitValues digits, fun rest hrest _ => ?_⟩
    rw [Text.charBytes_cons, Text.utf8EncodeChar_of_lt (by decide), List.append_assoc,
      List.singleton_append, readFraction, if_pos rfl]
    exact ⟨readDigits_digits hdigits.2 hdigits.1 hrest, endsDigits_cons (by decide)⟩

/-- A number without its sign is read up to its end. -/
theorem exists_readUnsigned {whole fraction exponent : List Char} (hwhole : IsWholePart whole)
    (hfraction : IsFraction fraction) (hexponent : IsExponent exponent) (negative : Bool) :
    ∃ numeral, ∀ rest, EndsNumber rest →
      readUnsigned negative (charBytes (whole ++ (fraction ++ exponent)) ++ rest) =
        some (numeral, rest) := by
  obtain ⟨power, hpower⟩ := exists_readExponent hexponent
  obtain ⟨fractionDigits, hdigits⟩ := exists_readFraction hfraction
  refine ⟨⟨negative, digitValues whole, fractionDigits, power⟩, fun rest hrest => ?_⟩
  have hends (b : UInt8) (more : List UInt8) (hbytes : charBytes exponent ++ rest = b :: more) :=
    ends_of_isExponent hexponent hrest hbytes
  obtain ⟨hread, hends'⟩ := hdigits (charBytes exponent ++ rest)
    (fun b more hbytes => (hends b more hbytes).1) fun b more hbytes => (hends b more hbytes).2
  rw [Text.charBytes_append, Text.charBytes_append, List.append_assoc, List.append_assoc]
  simp only [readUnsigned, readWhole_of_isWholePart hwhole hends', hread, hpower rest hrest,
    Option.bind_eq_bind, Option.bind_some]
  rfl

/-- A number is one token. -/
theorem exists_lexesValue_number {cs : List Char} (h : IsNumberText cs) :
    ∃ numeral, LexesValue (charBytes cs) [.number numeral] := by
  cases h with
  | @positive whole fraction exponent hwhole hfraction hexponent =>
    obtain ⟨numeral, hread⟩ := exists_readUnsigned hwhole hfraction hexponent false
    refine ⟨numeral, fun rest hrest => ?_⟩
    obtain ⟨b, more, hb, hbytes⟩ :=
      exists_cons_of_isDigits hwhole.1 (charBytes (fraction ++ exponent) ++ rest)
    have hread := hread rest hrest
    rw [Text.charBytes_append, List.append_assoc, hbytes] at hread ⊢
    obtain ⟨hspace, htoken⟩ := readToken_digit hb more
    rw [hread, Option.map_some] at htoken
    exact tokens?_cons hspace htoken
  | @negative whole fraction exponent hwhole hfraction hexponent =>
    obtain ⟨numeral, hread⟩ := exists_readUnsigned hwhole hfraction hexponent true
    refine ⟨numeral, fun rest hrest => ?_⟩
    have htoken : readToken (ascii '-' ::
        (charBytes (whole ++ (fraction ++ exponent)) ++ rest)) =
          some (.number numeral, rest) := by
      rw [readToken]
      simp only [hread rest hrest]
      rfl
    rw [Text.charBytes_cons, Text.utf8EncodeChar_of_lt (by decide)]
    exact tokens?_cons (by decide) htoken

/-! ## Values -/

/-- Blanks that may stand around the parts of a text. -/
def IsBlanks (cs : List Char) : Prop := ∀ c ∈ cs, c = ' ' ∨ c = '\n' ∨ c = '\r' ∨ c = '\t'

theorem isBlanks_nil : IsBlanks [] := by
  intro c hc
  cases hc

theorem isBlanks_space : IsBlanks [' '] := by
  intro c hc
  exact .inl (List.mem_singleton.mp hc)

/-- A part of a text with the blanks around it. -/
structure Spaced where
  before : List Char
  text : List Char
  after : List Char
  blanks_before : IsBlanks before
  blanks_after : IsBlanks after

/-- The part and the blanks. -/
def Spaced.chars (part : Spaced) : List Char := part.before ++ (part.text ++ part.after)

/-- A member of an object: a key and a value. -/
structure Member where
  key : Spaced
  value : Spaced

/-- The key and the value with the colon between them. -/
def Member.chars (m : Member) : List Char := m.key.chars ++ ':' :: m.value.chars

/-- The text of an array of some items. -/
def arrayChars (items : List Spaced) : List Char :=
  '[' :: (join [','] (items.map Spaced.chars) ++ [']'])

/-- The text of an object of some members. -/
def objectChars (members : List Member) : List Char :=
  '\x7b' :: (join [','] (members.map Member.chars) ++ ['\x7d'])

/-- The text of a value. -/
inductive IsValueText : List Char → Prop
  | null : IsValueText "null".toList
  | bool (value : Bool) : IsValueText (if value then "true" else "false").toList
  | number {cs : List Char} (h : IsNumberText cs) : IsValueText cs
  | string {cs : List Char} (h : IsStringText cs) : IsValueText cs
  | emptyArray {blanks : List Char} (h : IsBlanks blanks) : IsValueText ('[' :: (blanks ++ [']']))
  | array {items : List Spaced} (h : ∀ item ∈ items, IsValueText item.text) :
    IsValueText (arrayChars items)
  | emptyObject {blanks : List Char} (h : IsBlanks blanks) :
    IsValueText ('\x7b' :: (blanks ++ ['\x7d']))
  | object {members : List Member} (keys : ∀ m ∈ members, IsStringText m.key.text)
    (values : ∀ m ∈ members, IsValueText m.value.text) : IsValueText (objectChars members)

theorem lexes_blanks {cs : List Char} (h : IsBlanks cs) : Lexes (charBytes cs) [] := by
  apply lexes_spaces
  intro b hb
  obtain ⟨c, hc, hb⟩ := List.mem_flatMap.mp hb
  rcases h c hc with rfl | rfl | rfl | rfl
  all_goals
    rw [Text.utf8EncodeChar_of_lt (by decide), List.mem_singleton] at hb
    subst hb
    rfl

theorem endsNumber_blanks {cs : List Char} (h : IsBlanks cs) {rest : List UInt8}
    (hrest : EndsNumber rest) : EndsNumber (charBytes cs ++ rest) := by
  cases cs with
  | nil => exact hrest
  | cons c more =>
    rcases h c List.mem_cons_self with rfl | rfl | rfl | rfl <;> exact endsNumber_cons (by decide)

/-- The blanks around a part leave no token. -/
theorem Spaced.lexesValue {part : Spaced} {ts : List Token}
    (h : LexesValue (charBytes part.text) ts) : LexesValue (charBytes part.chars) ts := by
  intro rest hrest
  rw [Spaced.chars, Text.charBytes_append, Text.charBytes_append, List.append_assoc,
    List.append_assoc, lexes_blanks part.blanks_before,
    h _ (endsNumber_blanks part.blanks_after hrest), lexes_blanks part.blanks_after]
  simp [Function.comp_def]

theorem lexesValue_append {as bs : List UInt8} {ts us : List Token} (ha : Lexes as ts)
    (hb : LexesValue bs us) : LexesValue (as ++ bs) (ts ++ us) := by
  intro rest hrest
  rw [List.append_assoc, ha, hb rest hrest, Option.map_map]
  congr 1
  funext more
  exact (List.append_assoc ts us more).symm

theorem Member.lexesValue {m : Member} {key : Option String} {ts : List Token}
    (hkey : Lexes (charBytes m.key.text) [.string key])
    (hvalue : LexesValue (charBytes m.value.text) ts) :
    LexesValue (charBytes m.chars) (.string key :: .colon :: ts) := by
  have hcolon : charBytes [':'] = [ascii ':'] := rfl
  have hfront : Lexes (charBytes m.key.chars ++ charBytes [':']) [.string key, .colon] := by
    rw [hcolon]
    exact (Spaced.lexesValue (lexesValue_of_lexes hkey)).append lexes_colon
      fun _ => endsNumber_cons (by decide)
  have hall := lexesValue_append hfront (Spaced.lexesValue hvalue)
  rw [Member.chars, Text.charBytes_append, Text.charBytes_cons, ← List.append_assoc]
  exact hall

/-- The tokens of the parts of an array or object behind the first one, with its end. -/
def moreTokens (last : Token) (parts : List (List Token)) : List Token :=
  parts.flatMap (.comma :: ·) ++ [last]

theorem lexes_moreParts {last : Char} (hlast : last = ']' ∨ last = '\x7d') {t : Token}
    (hend : Lexes (charBytes [last]) [t]) {parts : List (List Char)} {tss : List (List Token)}
    (h : List.Forall₂ (fun part ts => LexesValue (charBytes part) ts) parts tss) :
    Lexes (charBytes (parts.flatMap ([','] ++ ·) ++ [last])) (moreTokens t tss) := by
  induction h with
  | nil => exact hend
  | @cons part ts parts tss hpart _ ih =>
    have hall := lexes_comma.append (hpart.append ih (endsNumber_more hlast parts))
    have htokens : moreTokens t (ts :: tss) = [.comma] ++ (ts ++ moreTokens t tss) := by
      simp [moreTokens]
    rw [htokens, List.flatMap_cons, List.append_assoc, List.append_assoc, Text.charBytes_append,
      Text.charBytes_append]
    exact hall

/-- Brackets around parts with commas between them. -/
theorem lexes_parts {first last : Char} (hlast : last = ']' ∨ last = '\x7d') {opening t : Token}
    (hopen : Lexes (charBytes [first]) [opening]) (hend : Lexes (charBytes [last]) [t])
    {part : List Char} {ts : List Token} {parts : List (List Char)} {tss : List (List Token)}
    (hpart : LexesValue (charBytes part) ts)
    (h : List.Forall₂ (fun part ts => LexesValue (charBytes part) ts) parts tss) :
    Lexes (charBytes (first :: (join [','] (part :: parts) ++ [last])))
      (opening :: (ts ++ moreTokens t tss)) := by
  have hall := hopen.append
    (hpart.append (lexes_moreParts hlast hend h) (endsNumber_more hlast parts))
  rw [join_cons, List.append_assoc, ← List.singleton_append, Text.charBytes_append,
    Text.charBytes_append]
  exact hall

/-! ### Trees -/

theorem moreItems_eq (items : List Tree) :
    Tree.moreItems items = moreTokens .closeBracket (items.map Tree.tokens) := by
  induction items with
  | nil => rfl
  | cons item rest ih =>
    rw [Tree.moreItems, ih]
    simp [moreTokens]

/-- The tokens of a member. -/
def memberTokensOf (m : Option String × Tree) : List Token := .string m.1 :: .colon :: m.2.tokens

theorem moreMembers_eq (members : List (Option String × Tree)) :
    Tree.moreMembers members = moreTokens .closeBrace (members.map memberTokensOf) := by
  induction members with
  | nil => rfl
  | cons member rest ih =>
    rw [Tree.moreMembers, ih]
    simp [moreTokens, memberTokensOf]

/-- The text of a value is read as the tree. -/
def ReadsAs (cs : List Char) (t : Tree) : Prop := LexesValue (charBytes cs) t.tokens

/-- The key of a member is read as the key, and its value as the tree. -/
def Member.ReadsAs (m : Member) (entry : Option String × Tree) : Prop :=
  Lexes (charBytes m.key.text) [.string entry.1] ∧ Json.ReadsAs m.value.text entry.2

theorem readsAs_spelled {cs : List Char} {s : String} (h : SpellsString cs s) :
    ReadsAs cs (.string (some s)) :=
  lexesValue_of_lexes (lexes_spelled h)

theorem readsAs_array {items : List Spaced} {trees : List Tree}
    (h : List.Forall₂ (fun item t => ReadsAs item.text t) items trees) :
    ReadsAs (arrayChars items) (.array trees) := by
  cases h with
  | nil => exact lexesValue_of_lexes (lexes_openBracket.append lexes_closeBracket)
  | @cons item t items trees hitem hrest =>
    have hparts : List.Forall₂ (fun part ts => LexesValue (charBytes part) ts)
        (items.map Spaced.chars) (trees.map Tree.tokens) := by
      rw [List.forall₂_map_left_iff, List.forall₂_map_right_iff]
      exact hrest.imp fun _ _ => Spaced.lexesValue
    have hopen : Lexes (charBytes ['[']) [.openBracket] := lexes_openBracket
    have hclose : Lexes (charBytes [']']) [.closeBracket] := lexes_closeBracket
    have hall := lexes_parts (.inl rfl) hopen hclose (Spaced.lexesValue hitem) hparts
    rw [ReadsAs, arrayChars, Tree.tokens, moreItems_eq]
    exact lexesValue_of_lexes hall

theorem readsAs_object {members : List Member} {entries : List (Option String × Tree)}
    (h : List.Forall₂ Member.ReadsAs members entries) :
    ReadsAs (objectChars members) (.object entries) := by
  cases h with
  | nil => exact lexesValue_of_lexes (lexes_openBrace.append lexes_closeBrace)
  | @cons m entry members entries hmember hrest =>
    have hparts : List.Forall₂ (fun part ts => LexesValue (charBytes part) ts)
        (members.map Member.chars) (entries.map memberTokensOf) := by
      rw [List.forall₂_map_left_iff, List.forall₂_map_right_iff]
      exact hrest.imp fun _ _ hm => Member.lexesValue hm.1 hm.2
    have hopen : Lexes (charBytes ['\x7b']) [.openBrace] := lexes_openBrace
    have hclose : Lexes (charBytes ['\x7d']) [.closeBrace] := lexes_closeBrace
    have hall := lexes_parts (.inr rfl) hopen hclose (Member.lexesValue hmember.1 hmember.2) hparts
    rw [ReadsAs, objectChars, Tree.tokens, moreMembers_eq]
    exact lexesValue_of_lexes hall

theorem exists_forall₂ {α β : Type} {R : α → β → Prop} {as : List α} (h : ∀ a ∈ as, ∃ b, R a b) :
    ∃ bs, List.Forall₂ R as bs := by
  induction as with
  | nil => exact ⟨[], .nil⟩
  | cons a rest ih =>
    obtain ⟨b, hb⟩ := h a List.mem_cons_self
    obtain ⟨bs, hbs⟩ := ih fun a' ha' => h a' (List.mem_cons_of_mem a ha')
    exact ⟨b :: bs, .cons hb hbs⟩

/-- Every text of a value is read as some tree. -/
theorem exists_readsAs {cs : List Char} (h : IsValueText cs) : ∃ t, ReadsAs cs t := by
  induction h with
  | null => exact ⟨.null, lexesValue_of_lexes lexes_null⟩
  | bool value => exact ⟨.bool value, lexesValue_of_lexes (lexes_bool value)⟩
  | number h =>
    obtain ⟨numeral, hlexes⟩ := exists_lexesValue_number h
    exact ⟨.number numeral, hlexes⟩
  | string h =>
    obtain ⟨text, hlexes⟩ := exists_lexes_string h
    exact ⟨.string text, lexesValue_of_lexes hlexes⟩
  | emptyArray h =>
    have hall := lexes_openBracket.append ((lexes_blanks h).append lexes_closeBracket)
    refine ⟨.array [], lexesValue_of_lexes ?_⟩
    rw [Text.charBytes_cons, Text.charBytes_append]
    exact hall
  | array h ih =>
    obtain ⟨trees, htrees⟩ := exists_forall₂ ih
    exact ⟨.array trees, readsAs_array htrees⟩
  | emptyObject h =>
    have hall := lexes_openBrace.append ((lexes_blanks h).append lexes_closeBrace)
    refine ⟨.object [], lexesValue_of_lexes ?_⟩
    rw [Text.charBytes_cons, Text.charBytes_append]
    exact hall
  | @object members keys values ih =>
    have hmembers : ∀ m ∈ members, ∃ entry, Member.ReadsAs m entry := by
      intro m hm
      obtain ⟨key, hkey⟩ := exists_lexes_string (keys m hm)
      obtain ⟨t, ht⟩ := ih m hm
      exact ⟨(key, t), hkey, ht⟩
    obtain ⟨entries, hentries⟩ := exists_forall₂ hmembers
    exact ⟨.object entries, readsAs_object hentries⟩

/-- A whole text, blanks around it, is read as its tree. -/
theorem ofBytes?_of_readsAs {whole : Spaced} {t : Tree} (h : ReadsAs whole.text t) :
    Tree.ofBytes? (charBytes whole.chars) = some t := by
  have hlexes := Spaced.lexesValue h [] endsNumber_nil
  have hnil : tokens? [] = some [] := lexes_nil.tokens?_eq
  rw [List.append_nil, hnil, Option.map_some, List.append_nil] at hlexes
  rw [Tree.ofBytes?, hlexes, Option.bind_some, Tree.ofTokens?_tokens]

end SealedVault.Json
