import SealedVault.Proofs.Json.Lexing
import SealedVault.Proofs.Json.Trees

/-!
# Printed values

The text of a value on one line reads back as the tree of the value, and the tree as the value, if
the value has no double and could itself have been read: its whole numbers fit 64 bits, the keys of
its objects ascend, and its arrays and objects are not nested too deeply. Such a text has no end of
a line in it.
-/

namespace SealedVault.Json

open Text (charBytes)

/-! ## Numerals -/

/-- The decimal digits of a number. -/
def decimalDigits (n : Nat) : List Nat := (Nat.toDigits 10 n).map fun c => c.toNat - 0x30

/-- How a whole number is written. -/
def wholeNumeral (n : Int) : Numeral := ⟨n < 0, decimalDigits n.natAbs, [], none⟩

/-- Bytes that do not go on with a number. -/
def EndsNumber (bytes : List UInt8) : Prop :=
  ∀ b rest, bytes = b :: rest →
    isDigit b = false ∧ b ≠ ascii '.' ∧ b ≠ ascii 'e' ∧ b ≠ ascii 'E'

theorem endsNumber_nil : EndsNumber [] := by
  intro b rest h
  cases h

theorem endsNumber_cons {b : UInt8} {rest : List UInt8}
    (h : isDigit b = false ∧ b ≠ ascii '.' ∧ b ≠ ascii 'e' ∧ b ≠ ascii 'E') :
    EndsNumber (b :: rest) := by
  intro b' rest' heq
  cases heq
  exact h

/-- Bytes that do not go on with a digit. -/
def EndsDigits (bytes : List UInt8) : Prop := ∀ b rest, bytes = b :: rest → isDigit b = false

theorem EndsNumber.endsDigits {bytes : List UInt8} (h : EndsNumber bytes) : EndsDigits bytes :=
  fun b rest heq => (h b rest heq).1

theorem toNat_of_isDigit {c : Char} (h : c.isDigit = true) : 48 ≤ c.toNat ∧ c.toNat ≤ 57 := by
  simp only [Char.isDigit, Bool.and_eq_true, decide_eq_true_eq, ge_iff_le] at h
  exact ⟨h.1, h.2⟩

theorem isDigit_ascii {c : Char} (h : c.isDigit = true) : isDigit (ascii c) = true := by
  obtain ⟨hlow, hhigh⟩ := toNat_of_isDigit h
  have hnat : (ascii c).toNat = c.toNat := Text.toNat_ascii (by omega)
  simp only [isDigit, Bool.and_eq_true, decide_eq_true_eq, UInt8.le_iff_toNat_le, hnat]
  exact ⟨hlow, hhigh⟩

theorem digitValue_ascii {c : Char} (h : c.isDigit = true) :
    digitValue (ascii c) = c.toNat - 0x30 := by
  obtain ⟨-, hhigh⟩ := toNat_of_isDigit h
  rw [digitValue, Text.toNat_ascii (by omega)]

theorem charBytes_digits {cs : List Char} (h : ∀ c ∈ cs, c.isDigit = true) :
    charBytes cs = cs.map ascii := by
  apply Text.charBytes_of_lt
  intro c hc
  have hbounds := toNat_of_isDigit (h c hc)
  omega

/-- Digits are read as far as they go. -/
theorem readDigits_digits {cs : List Char} (h : ∀ c ∈ cs, c.isDigit = true) (hne : cs ≠ [])
    {rest : List UInt8} (hrest : EndsDigits rest) :
    readDigits (charBytes cs ++ rest) = some (cs.map fun c => c.toNat - 0x30, rest) := by
  have hall : ∀ b ∈ cs.map ascii, isDigit b = true := by
    intro b hb
    obtain ⟨c, hc, rfl⟩ := List.mem_map.mp hb
    exact isDigit_ascii (h c hc)
  have htake : rest.takeWhile isDigit = [] ∧ rest.dropWhile isDigit = rest := by
    cases rest with
    | nil => exact ⟨rfl, rfl⟩
    | cons b more =>
      have hb := hrest b more rfl
      exact ⟨List.takeWhile_cons_of_neg (by simp [hb]), List.dropWhile_cons_of_neg (by simp [hb])⟩
  have hleading : leadingDigits (charBytes cs ++ rest) = cs.map fun c => c.toNat - 0x30 := by
    rw [leadingDigits, charBytes_digits h, List.takeWhile_append_of_pos hall, htake.1,
      List.append_nil, List.map_map]
    apply List.map_congr_left
    intro c hc
    exact digitValue_ascii (h c hc)
  have hdrop : (charBytes cs ++ rest).dropWhile isDigit = rest := by
    rw [charBytes_digits h, List.dropWhile_append_of_pos hall, htake.2]
  rw [readDigits, hleading, hdrop]
  cases cs with
  | nil => exact absurd rfl hne
  | cons c more => rfl

/-- No further digit follows a leading zero. -/
theorem head?_decimalDigits (n : Nat) :
    (decimalDigits n).head? ≠ some 0 ∨ (decimalDigits n).length = 1 := by
  induction n using Nat.strongRecOn with
  | ind n ih =>
    rw [decimalDigits, Nat.toDigits_eq_if (by decide)]
    by_cases hsmall : n < 10
    · rw [if_pos hsmall]
      exact Or.inr rfl
    · rw [if_neg hsmall, List.map_append, ← decimalDigits]
      left
      by_cases hten : n / 10 < 10
      · -- a number of two digits begins with a digit other than zero
        have hpos : n / 10 ≠ 0 := by omega
        have hvalue : ∀ i : Fin 10, i.val ≠ 0 → (Nat.digitChar i).toNat - 0x30 ≠ 0 := by decide
        rw [decimalDigits, Nat.toDigits_of_lt_base hten]
        simpa using hvalue ⟨n / 10, hten⟩ hpos
      · have hlong : (decimalDigits (n / 10)).length ≠ 1 := by
          rw [decimalDigits, Nat.toDigits_eq_if (by decide), if_neg hten]
          simp [Nat.toDigits_ne_nil]
        have hhead := (ih (n / 10) (by omega)).resolve_right hlong
        cases hdigits : decimalDigits (n / 10) with
        | nil => simp [decimalDigits, Nat.toDigits_ne_nil] at hdigits
        | cons d rest =>
          rw [hdigits] at hhead
          exact hhead

theorem readUnsigned_toDigits (negative : Bool) (n : Nat) {rest : List UInt8}
    (hrest : EndsNumber rest) :
    readUnsigned negative (charBytes (Nat.toDigits 10 n) ++ rest) =
      some (⟨negative, decimalDigits n, [], none⟩, rest) := by
  have hdigits := readDigits_digits
    (fun c hc => Nat.isDigit_of_mem_toDigits (by decide) (by decide) hc)
    (Nat.toDigits_ne_nil (n := n) (b := 10)) hrest.endsDigits
  have hwhole : readWhole (charBytes (Nat.toDigits 10 n) ++ rest) =
      some (decimalDigits n, rest) := by
    rw [readWhole, hdigits, ← decimalDigits, Option.filter_some, if_pos]
    simpa using head?_decimalDigits n
  have hfraction : readFraction rest = some ([], rest) := by
    cases rest with
    | nil => rfl
    | cons b more => rw [readFraction, if_neg (hrest b more rfl).2.1]
  have hexponent : readExponent rest = some (none, rest) := by
    cases rest with
    | nil => rfl
    | cons b more =>
      obtain ⟨-, -, he, hE⟩ := hrest b more rfl
      rw [readExponent, if_neg (not_or.mpr ⟨he, hE⟩)]
  simp only [readUnsigned, hwhole, hfraction, hexponent, Option.bind_eq_bind, Option.bind_some]
  rfl

theorem appendDigits_of_lt {digits : List Nat} {significand : Nat}
    (h : digits.foldl (fun n d => n * 10 + d) significand < Number.significandBound) :
    Number.appendDigits significand digits =
      (digits.foldl (fun n d => n * 10 + d) significand, []) := by
  induction digits generalizing significand with
  | nil => rfl
  | cons d rest ih =>
    have hgrows : ∀ (digits : List Nat) (m : Nat),
        m ≤ digits.foldl (fun n d => n * 10 + d) m := by
      intro digits
      induction digits with
      | nil => exact fun m => Nat.le_refl m
      | cons d rest ih =>
        intro m
        have := ih (m * 10 + d)
        rw [List.foldl_cons]
        omega
    have hstep : significand * 10 + d < Number.significandBound :=
      Nat.lt_of_le_of_lt (hgrows rest _) h
    rw [Number.appendDigits, if_pos hstep, ih h]
    rfl

theorem foldl_decimalDigits (n : Nat) :
    (decimalDigits n).foldl (fun n d => n * 10 + d) 0 = n := by
  induction n using Nat.strongRecOn with
  | ind n ih =>
    have hvalue : ∀ i : Fin 10, (Nat.digitChar i).toNat - 0x30 = i.val := by decide
    rw [decimalDigits, Nat.toDigits_eq_if (by decide)]
    by_cases hsmall : n < 10
    · rw [if_pos hsmall]
      simpa using hvalue ⟨n, hsmall⟩
    · have hlast := hvalue ⟨n % 10, Nat.mod_lt n (by decide)⟩
      rw [if_neg hsmall, List.map_append, ← decimalDigits, List.foldl_append, ih _ (by omega)]
      simp only [List.map_cons, List.map_nil, List.foldl_cons, List.foldl_nil] at hlast ⊢
      omega

/-- A whole number that fits 64 bits, with or without a sign. -/
def IsMachineInt (n : Int) : Prop := -0x8000000000000000 ≤ n ∧ n < 0x10000000000000000

instance (n : Int) : Decidable (IsMachineInt n) := inferInstanceAs (Decidable (_ ∧ _))

theorem ofNumeral?_wholeNumeral {n : Int} (h : IsMachineInt n) :
    Number.ofNumeral? (wholeNumeral n) = some (.int n) := by
  obtain ⟨hlow, hhigh⟩ := h
  have hbound : n.natAbs < Number.significandBound := by
    have hvalue : Number.significandBound = 2 ^ 64 := rfl
    omega
  have hdigits : Number.appendDigits 0 (wholeNumeral n).whole = (n.natAbs, []) := by
    rw [wholeNumeral, appendDigits_of_lt, foldl_decimalDigits]
    rwa [foldl_decimalDigits]
  have hwhole : Number.ofWhole? (wholeNumeral n).negative n.natAbs = some (.int n) := by
    have hlimit : Nat.pow 2 63 = 2 ^ 63 := rfl
    rw [Number.ofWhole?]
    by_cases hneg : n < 0
    · rw [if_pos (by simpa [wholeNumeral] using hneg), if_pos (by omega)]
      congr 2
      omega
    · rw [if_neg (by simpa [wholeNumeral] using hneg)]
      congr 2
      omega
  rw [Number.ofNumeral?, hdigits]
  exact (if_pos ⟨rfl, rfl, rfl⟩).trans hwhole

/-! ## Trees -/

/-- The numeral that the written form of a number is read as. -/
def Number.numeral : Number → Numeral
  | .int n => wholeNumeral n
  | .float negative magnitude =>
    ((readUnsigned negative (charBytes (decimalChars (Decimal.shortest magnitude)))).map
      (·.1)).getD ⟨negative, [], [], none⟩

namespace Value

mutual

/-- The tree that the written form of a value is read as. -/
def tree : Value → Tree
  | .null => .null
  | .bool value => .bool value
  | .number value => .number value.numeral
  | .text value => .string (some value)
  | .array items => .array (itemTrees items)
  | .object members => .object (memberTrees members)

/-- The trees of the items of an array. -/
def itemTrees : List Value → List Tree
  | [] => []
  | item :: rest => item.tree :: itemTrees rest

/-- The trees of the members of an object. -/
def memberTrees : List (String × Value) → List (Option String × Tree)
  | [] => []
  | (key, value) :: rest => (some key, value.tree) :: memberTrees rest

end

mutual

/-- There is no double in the value. -/
def IsWhole : Value → Prop
  | .number (.float _ _) => False
  | .array items => AreWhole items
  | .object members => HasWhole members
  | _ => True

/-- There is no double in any of the items. -/
def AreWhole : List Value → Prop
  | [] => True
  | item :: rest => item.IsWhole ∧ AreWhole rest

/-- There is no double in any of the members. -/
def HasWhole : List (String × Value) → Prop
  | [] => True
  | (_, value) :: rest => value.IsWhole ∧ HasWhole rest

end

/-! ## Tokens of the text on one line -/

/-- In front of bytes that do not go on with a number, these read as the given tokens. -/
def LexesValue (bytes : List UInt8) (ts : List Token) : Prop :=
  ∀ rest, EndsNumber rest → tokens? (bytes ++ rest) = (tokens? rest).map (ts ++ ·)

theorem lexesValue_of_lexes {bytes : List UInt8} {ts : List Token} (h : Lexes bytes ts) :
    LexesValue bytes ts :=
  fun rest _ => h rest

/-- Bytes behind a value that do not go on with a number make its tokens independent of the rest. -/
theorem LexesValue.append
    {as bs : List UInt8} {ts us : List Token} (ha : LexesValue as ts) (hb : Lexes bs us)
    (hends : ∀ rest, EndsNumber (bs ++ rest)) : Lexes (as ++ bs) (ts ++ us) := by
  intro rest
  rw [List.append_assoc, ha _ (hends rest), hb, Option.map_map]
  congr 1
  funext more
  exact (List.append_assoc ts us more).symm

theorem lexes_null : Lexes (charBytes "null".toList) [.null] :=
  lexes_token (by decide) fun _ => rfl

theorem lexes_bool (value : Bool) :
    Lexes (charBytes (if value then "true" else "false").toList) [.bool value] := by
  cases value with
  | true => exact lexes_token (by decide) fun _ => rfl
  | false => exact lexes_token (by decide) fun _ => rfl

theorem lexes_openBracket : Lexes [ascii '['] [.openBracket] :=
  lexes_token (by decide) fun _ => rfl

theorem lexes_closeBracket : Lexes [ascii ']'] [.closeBracket] :=
  lexes_token (by decide) fun _ => rfl

/-- A digit is no sign, no blank and the beginning of no word. -/
theorem readToken_digit {b : UInt8} (h : isDigit b = true) (rest : List UInt8) :
    isSpace b = false ∧
      readToken (b :: rest) =
        (readUnsigned false (b :: rest)).map fun (n, rest) => (.number n, rest) := by
  have hne (c : Char) (hc : isDigit (ascii c) = false) : b ≠ ascii c := by
    rintro rfl
    rw [h] at hc
    cases hc
  constructor
  · simp [isSpace, hne ' ' (by decide), hne '\n' (by decide), hne '\r' (by decide),
      hne '\t' (by decide)]
  · simp only [readToken, if_neg (hne '\x7b' (by decide)), if_neg (hne '\x7d' (by decide)),
      if_neg (hne '[' (by decide)), if_neg (hne ']' (by decide)), if_neg (hne ',' (by decide)),
      if_neg (hne ':' (by decide)), if_neg (hne '"' (by decide)), if_neg (hne 'n' (by decide)),
      if_neg (hne 't' (by decide)), if_neg (hne 'f' (by decide)), if_neg (hne '-' (by decide))]

theorem toChars_int (n : Int) :
    Number.toChars (.int n) =
      if n < 0 then '-' :: Nat.toDigits 10 n.natAbs else Nat.toDigits 10 n.natAbs := by
  rw [Number.toChars, Int.toString_eq_repr, Int.repr_eq_if]
  by_cases hneg : n < 0
  · have hnat : (-n).toNat = n.natAbs := by omega
    rw [if_neg (by omega), if_pos hneg, hnat, Nat.repr_eq_ofList_toDigits]
    simp
  · have hnat : n.toNat = n.natAbs := by omega
    rw [if_pos (by omega), if_neg hneg, hnat, Nat.repr_eq_ofList_toDigits]
    simp

theorem tokens?_cons {b : UInt8} {bytes rest : List UInt8} {t : Token}
    (hspace : isSpace b = false) (hread : readToken (b :: bytes) = some (t, rest)) :
    tokens? (b :: bytes) = (tokens? rest).map (t :: ·) := by
  rw [tokens?_eq, List.dropWhile_cons_of_neg (by simp [hspace])]
  simp only [hread]

theorem lexesValue_int (n : Int) :
    LexesValue (charBytes (Number.toChars (.int n))) [.number (wholeNumeral n)] := by
  intro rest hrest
  have hunsigned (negative : Bool) := readUnsigned_toDigits negative n.natAbs hrest
  rw [toChars_int]
  by_cases hneg : n < 0
  · have hnumeral : wholeNumeral n = ⟨true, decimalDigits n.natAbs, [], none⟩ := by
      simp [wholeNumeral, hneg]
    have hread : readToken (ascii '-' :: (charBytes (Nat.toDigits 10 n.natAbs) ++ rest)) =
        some (.number (wholeNumeral n), rest) := by
      rw [hnumeral, readToken]
      simp only [hunsigned true]
      rfl
    rw [if_pos hneg, Text.charBytes_cons, Text.utf8EncodeChar_of_lt (by decide)]
    exact tokens?_cons (by decide) hread
  · have hnumeral : wholeNumeral n = ⟨false, decimalDigits n.natAbs, [], none⟩ := by
      simp [wholeNumeral, hneg]
    rw [if_neg hneg]
    cases hdigits : Nat.toDigits 10 n.natAbs with
    | nil => exact absurd hdigits Nat.toDigits_ne_nil
    | cons c more =>
      have hall : ∀ c' ∈ c :: more, c'.isDigit = true := by
        intro c' hc'
        rw [← hdigits] at hc'
        exact Nat.isDigit_of_mem_toDigits (by decide) (by decide) hc'
      have hbytes : charBytes (c :: more) = ascii c :: more.map ascii := charBytes_digits hall
      have hfirst := hunsigned false
      rw [hdigits, hbytes, List.cons_append] at hfirst
      obtain ⟨hspace, hread⟩ := readToken_digit (isDigit_ascii (hall c (by simp)))
        (more.map ascii ++ rest)
      rw [hfirst, Option.map_some, ← hnumeral] at hread
      rw [hbytes]
      exact tokens?_cons hspace hread

/-! ## Values on one line -/

theorem join_cons (separator first : List Char) (rest : List (List Char)) :
    join separator (first :: rest) = first ++ rest.flatMap (separator ++ ·) := by
  induction rest generalizing first with
  | nil => simp [join]
  | cons next more ih => simp [join, ih]

/-- Behind an item or a member comes a comma or the end of the array or object. -/
theorem endsNumber_more {last : Char} (h : last = ']' ∨ last = '\x7d') (parts : List (List Char))
    (rest : List UInt8) :
    EndsNumber (charBytes (parts.flatMap ([','] ++ ·) ++ [last]) ++ rest) := by
  cases parts with
  | nil =>
    rcases h with rfl | rfl
    · exact endsNumber_cons (by decide)
    · exact endsNumber_cons (by decide)
  | cons part more =>
    rw [List.flatMap_cons, List.append_assoc, List.append_assoc, Text.charBytes_append]
    exact endsNumber_cons (by decide)

mutual

/-- The text of a value on one line has the tokens of its tree. -/
theorem lexesValue_compactChars (v : Value) (h : v.IsWhole) :
    LexesValue (charBytes v.compactChars) v.tree.tokens := by
  match v with
  | .null => exact lexesValue_of_lexes lexes_null
  | .bool value => exact lexesValue_of_lexes (lexes_bool value)
  | .number (.int n) => exact lexesValue_int n
  | .number (.float _ _) => exact h.elim
  | .text value => exact lexesValue_of_lexes (lexes_string value)
  | .array [] => exact lexesValue_of_lexes (lexes_openBracket.append lexes_closeBracket)
  | .array (first :: rest) =>
    have hfirst := lexesValue_compactChars first h.1
    have hrest := lexes_moreItems rest h.2
    have hall := lexes_openBracket.append (hfirst.append hrest (endsNumber_more (.inl rfl) _))
    rw [compactChars, compactItems, join_cons, List.cons_append, List.append_assoc,
      Text.charBytes_cons, Text.charBytes_append]
    exact lexesValue_of_lexes hall
  | .object [] => exact lexesValue_of_lexes (lexes_openBrace.append lexes_closeBrace)
  | .object ((key, first) :: rest) =>
    have hfirst := lexesValue_compactChars first h.1
    have hrest := lexes_moreMembers rest h.2
    have hall := lexes_openBrace.append ((lexes_string key).append
      (lexes_colon.append (hfirst.append hrest (endsNumber_more (.inr rfl) _))))
    rw [compactChars, compactMembers, join_cons, List.cons_append, List.append_assoc,
      List.append_assoc, List.cons_append, Text.charBytes_cons, Text.charBytes_append,
      Text.charBytes_cons, Text.charBytes_append]
    exact lexesValue_of_lexes hall

theorem lexes_moreItems (items : List Value) (h : AreWhole items) :
    Lexes (charBytes ((compactItems items).flatMap ([','] ++ ·) ++ [']']))
      (Tree.moreItems (itemTrees items)) := by
  match items with
  | [] => exact lexes_closeBracket
  | item :: rest =>
    have hitem := lexesValue_compactChars item h.1
    have hrest := lexes_moreItems rest h.2
    have hall := lexes_comma.append (hitem.append hrest (endsNumber_more (.inl rfl) _))
    rw [compactItems, List.flatMap_cons, List.append_assoc, List.append_assoc,
      Text.charBytes_append, Text.charBytes_append]
    exact hall

theorem lexes_moreMembers (members : List (String × Value)) (h : HasWhole members) :
    Lexes (charBytes ((compactMembers members).flatMap ([','] ++ ·) ++ ['\x7d']))
      (Tree.moreMembers (memberTrees members)) := by
  match members with
  | [] => exact lexes_closeBrace
  | (key, value) :: rest =>
    have hvalue := lexesValue_compactChars value h.1
    have hrest := lexes_moreMembers rest h.2
    have hall := lexes_comma.append ((lexes_string key).append
      (lexes_colon.append (hvalue.append hrest (endsNumber_more (.inr rfl) _))))
    rw [compactMembers, List.flatMap_cons, List.append_assoc, List.append_assoc,
      List.append_assoc, List.cons_append, List.nil_append, List.cons_append, Text.charBytes_cons,
      Text.charBytes_append, Text.charBytes_cons, Text.charBytes_append]
    exact hall

end

/-- The text of a value on one line is read as its tree. -/
theorem ofBytes?_compact {v : Value} (h : v.IsWhole) :
    Tree.ofBytes? (Text.utf8Bytes v.compact) = some v.tree := by
  have hlexes := lexesValue_compactChars v h [] endsNumber_nil
  have hnil : tokens? [] = some [] := lexes_nil.tokens?_eq
  rw [List.append_nil, hnil, Option.map_some, List.append_nil] at hlexes
  rw [Tree.ofBytes?, compact, Text.utf8Bytes_ofList, hlexes, Option.bind_some,
    Tree.ofTokens?_tokens]

/-! ## Characters of the text on one line -/

/-- There is no control character among the characters. -/
def IsPrintable (cs : List Char) : Prop := ∀ c ∈ cs, 0x20 ≤ c.toNat

theorem isPrintable_append {as bs : List Char} (ha : IsPrintable as) (hb : IsPrintable bs) :
    IsPrintable (as ++ bs) := by
  intro c hc
  exact (List.mem_append.mp hc).elim (ha c) (hb c)

theorem isPrintable_cons {c : Char} {cs : List Char} (hc : 0x20 ≤ c.toNat) (h : IsPrintable cs) :
    IsPrintable (c :: cs) :=
  List.forall_mem_cons.mpr ⟨hc, h⟩

theorem IsPrintable.newline_notMem {cs : List Char} (h : IsPrintable cs) : '\n' ∉ cs :=
  fun hmem => absurd (h '\n' hmem) (by decide)

theorem isPrintable_escapedChar (c : Char) : IsPrintable (escapedChar c) := by
  have hdigit : ∀ n < 16, 0x20 ≤ (Nat.digitChar n).toNat := by decide
  unfold escapedChar
  iterate 7
    split
    · simp [IsPrintable]
  split
  next hlow =>
    have hhigh := hdigit (c.toNat / 16) (by omega)
    have hrest := hdigit (c.toNat % 16) (by omega)
    simpa [IsPrintable] using ⟨hhigh, hrest⟩
  next hlow => simpa [IsPrintable] using hlow

theorem isPrintable_stringChars (s : String) : IsPrintable (stringChars s) := by
  apply isPrintable_cons (by decide)
  apply isPrintable_append
  · intro d hd
    obtain ⟨c, -, hd⟩ := List.mem_flatMap.mp hd
    exact isPrintable_escapedChar c d hd
  · exact isPrintable_cons (by decide) (by simp [IsPrintable])

theorem isPrintable_int (n : Int) : IsPrintable (Number.toChars (.int n)) := by
  have hdigits : IsPrintable (Nat.toDigits 10 n.natAbs) := by
    intro c hc
    have h := toNat_of_isDigit (Nat.isDigit_of_mem_toDigits (by decide) (by decide) hc)
    omega
  rw [toChars_int]
  split
  · exact isPrintable_cons (by decide) hdigits
  · exact hdigits

theorem isPrintable_join {parts : List (List Char)} (h : ∀ part ∈ parts, IsPrintable part) :
    IsPrintable (join [','] parts) := by
  cases parts with
  | nil => simp [join, IsPrintable]
  | cons first rest =>
    rw [join_cons]
    apply isPrintable_append (h first (by simp))
    intro c hc
    obtain ⟨part, hpart, hc⟩ := List.mem_flatMap.mp hc
    exact isPrintable_cons (by decide) (h part (by simp [hpart])) c hc

mutual

/-- The text of a value on one line has no control character, so it is one line. -/
theorem isPrintable_compactChars (v : Value) (h : v.IsWhole) : IsPrintable v.compactChars := by
  match v with
  | .null => simp [IsPrintable, compactChars]
  | .bool true => simp [IsPrintable, compactChars]
  | .bool false => simp [IsPrintable, compactChars]
  | .number (.int n) => exact isPrintable_int n
  | .number (.float _ _) => exact h.elim
  | .text value => exact isPrintable_stringChars value
  | .array items =>
    exact isPrintable_cons (by decide)
      (isPrintable_append (isPrintable_join (isPrintable_compactItems items h))
        (isPrintable_cons (by decide) (by simp [IsPrintable])))
  | .object members =>
    exact isPrintable_cons (by decide)
      (isPrintable_append (isPrintable_join (isPrintable_compactMembers members h))
        (isPrintable_cons (by decide) (by simp [IsPrintable])))

theorem isPrintable_compactItems (items : List Value) (h : AreWhole items) :
    ∀ part ∈ compactItems items, IsPrintable part := by
  match items with
  | [] => simp [compactItems]
  | item :: rest =>
    rw [compactItems, List.forall_mem_cons]
    exact ⟨isPrintable_compactChars item h.1, isPrintable_compactItems rest h.2⟩

theorem isPrintable_compactMembers (members : List (String × Value)) (h : HasWhole members) :
    ∀ part ∈ compactMembers members, IsPrintable part := by
  match members with
  | [] => simp [compactMembers]
  | (key, value) :: rest =>
    rw [compactMembers, List.forall_mem_cons]
    exact ⟨isPrintable_append (isPrintable_stringChars key)
      (isPrintable_cons (by decide) (isPrintable_compactChars value h.1)),
      isPrintable_compactMembers rest h.2⟩

end

/-! ## The value of the tree -/

mutual

/-- The value could have been read where arrays and objects may be nested `depth` times. It has no
double, its numbers fit 64 bits and the keys of its objects ascend. -/
def Fits (depth : Nat) : Value → Prop
  | .null | .bool _ | .text _ => True
  | .number (.int n) => IsMachineInt n
  | .number (.float _ _) => False
  | .array items => depth ≠ 0 ∧ FitItems (depth - 1) items
  | .object members =>
    depth ≠ 0 ∧ (members.map (·.1)).Pairwise (· < ·) ∧ FitMembers (depth - 1) members

/-- All of the items fit. -/
def FitItems (depth : Nat) : List Value → Prop
  | [] => True
  | item :: rest => item.Fits depth ∧ FitItems depth rest

/-- The values of all of the members fit. -/
def FitMembers (depth : Nat) : List (String × Value) → Prop
  | [] => True
  | (_, value) :: rest => value.Fits depth ∧ FitMembers depth rest

end

mutual

theorem isWhole_of_fits {depth : Nat} (v : Value) (h : v.Fits depth) : v.IsWhole := by
  match v with
  | .null => trivial
  | .bool _ => trivial
  | .text _ => trivial
  | .number (.int _) => trivial
  | .number (.float _ _) => exact h
  | .array items => exact areWhole_of_fitItems items h.2
  | .object members => exact hasWhole_of_fitMembers members h.2.2

theorem areWhole_of_fitItems {depth : Nat} (items : List Value) (h : FitItems depth items) :
    AreWhole items := by
  match items with
  | [] => trivial
  | item :: rest => exact ⟨isWhole_of_fits item h.1, areWhole_of_fitItems rest h.2⟩

theorem hasWhole_of_fitMembers {depth : Nat} (members : List (String × Value))
    (h : FitMembers depth members) : HasWhole members := by
  match members with
  | [] => trivial
  | (_, value) :: rest => exact ⟨isWhole_of_fits value h.1, hasWhole_of_fitMembers rest h.2⟩

end

/-- A key above all others goes to the end. -/
theorem insertMember_of_lt {key : String} (value : Value) {members : List (String × Value)}
    (h : ∀ member ∈ members, member.1 < key) :
    insertMember key value members = members ++ [(key, value)] := by
  induction members with
  | nil => rfl
  | cons member rest ih =>
    have hfirst := h member (by simp)
    have hne : key ≠ member.1 := fun heq => String.lt_irrefl key (by rwa [← heq] at hfirst)
    rw [insertMember, if_neg (String.lt_asymm hfirst), if_neg hne,
      ih fun m hm => h m (by simp [hm])]
    rfl

/-- Members whose keys ascend are in their places. -/
theorem sortMembers_of_pairwise {members : List (String × Value)}
    (h : (members.map (·.1)).Pairwise (· < ·)) : sortMembers members = members := by
  have hfold : ∀ sorted rest : List (String × Value),
      ((sorted ++ rest).map (·.1)).Pairwise (· < ·) →
        rest.foldl (fun sorted member => insertMember member.1 member.2 sorted) sorted =
          sorted ++ rest := by
    intro sorted rest
    induction rest generalizing sorted with
    | nil =>
      intro _
      simp
    | cons member rest ih =>
      intro h
      have hbelow : ∀ m ∈ sorted, m.1 < member.1 := by
        intro m hm
        rw [List.map_append, List.pairwise_append] at h
        exact h.2.2 m.1 (List.mem_map_of_mem hm) member.1 (by simp)
      have hinsert : insertMember member.1 member.2 sorted = sorted ++ [member] :=
        insertMember_of_lt member.2 hbelow
      have hmove : sorted ++ [member] ++ rest = sorted ++ member :: rest := by simp
      have hrest := ih (sorted ++ [member]) (by rwa [hmove])
      rw [hmove, ← hinsert] at hrest
      exact hrest
  exact hfold [] members h

mutual

/-- The tree of a value that fits stands for the value. -/
theorem ofTree?_tree {depth : Nat} (v : Value) (h : v.Fits depth) :
    ofTree? depth v.tree = some v := by
  match v with
  | .null => rfl
  | .bool _ => rfl
  | .text _ => rfl
  | .number (.int n) =>
    rw [tree, ofTree?, Number.numeral, ofNumeral?_wholeNumeral h]
    rfl
  | .number (.float _ _) => exact h.elim
  | .array items =>
    rw [tree, ofTree?, if_neg h.1, ofTrees?_itemTrees items h.2]
    rfl
  | .object members =>
    rw [tree, ofTree?, if_neg h.1, ofMembers?_memberTrees members h.2.2, Option.map_some,
      sortMembers_of_pairwise h.2.1]

theorem ofTrees?_itemTrees {depth : Nat} (items : List Value) (h : FitItems depth items) :
    ofTrees? depth (itemTrees items) = some items := by
  match items with
  | [] => rfl
  | item :: rest =>
    rw [itemTrees, ofTrees?, ofTree?_tree item h.1, ofTrees?_itemTrees rest h.2]
    rfl

theorem ofMembers?_memberTrees {depth : Nat} (members : List (String × Value))
    (h : FitMembers depth members) : ofMembers? depth (memberTrees members) = some members := by
  match members with
  | [] => rfl
  | (key, value) :: rest =>
    rw [memberTrees, ofMembers?, ofTree?_tree value h.1, ofMembers?_memberTrees rest h.2]
    rfl

end

end Value

end SealedVault.Json
