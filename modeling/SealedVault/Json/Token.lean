import SealedVault.Text.Utf8

/-!
# Tokens

The signs of JSON text, read from bytes. A string is read by the rules for skipping it: control
characters and unknown escapes are refused at once, while escapes of surrogates that do not pair
and bytes that are not UTF-8 only leave it without a text.
-/

namespace SealedVault.Json

/-- A number as it is written. Digits are kept from the left. -/
structure Numeral where
  negative : Bool
  whole : List Nat
  fraction : List Nat
  /-- The sign and the digits of the exponent; the sign is true when it is negative. -/
  exponent : Option (Bool × List Nat)
deriving Repr, DecidableEq

/-- One sign of JSON text. -/
inductive Token where
  | openBrace
  | closeBrace
  | openBracket
  | closeBracket
  | comma
  | colon
  | null
  | bool (value : Bool)
  | number (numeral : Numeral)
  /-- A string and its text, if it has one. -/
  | string (text : Option String)
deriving Repr, DecidableEq

/-- The byte of a character below 128. -/
def ascii (c : Char) : UInt8 := c.toUInt8

/-- The bytes of an ASCII text. -/
def asciiBytes (s : String) : List UInt8 := s.toList.map ascii

/-- The blanks that may stand between tokens. -/
def isSpace (b : UInt8) : Bool :=
  b = ascii ' ' || b = ascii '\n' || b = ascii '\r' || b = ascii '\t'

/-- The byte is a decimal digit. -/
def isDigit (b : UInt8) : Bool := ascii '0' ≤ b && b ≤ ascii '9'

/-- The value of a decimal digit. -/
def digitValue (b : UInt8) : Nat := b.toNat - 0x30

/-- The value of a hexadecimal digit of either case. -/
def hexValue? (b : UInt8) : Option Nat :=
  if isDigit b then some (digitValue b)
  else if ascii 'a' ≤ b ∧ b ≤ ascii 'f' then some (b.toNat - 0x61 + 10)
  else if ascii 'A' ≤ b ∧ b ≤ ascii 'F' then some (b.toNat - 0x41 + 10)
  else none

/-- The number written with four hexadecimal digits. -/
def hexUnit? (a b c d : UInt8) : Option Nat := do
  let a ← hexValue? a
  let b ← hexValue? b
  let c ← hexValue? c
  let d ← hexValue? d
  return ((a * 16 + b) * 16 + c) * 16 + d

/-- The byte that a backslash and a letter stand for. -/
def shortEscape? (b : UInt8) : Option UInt8 :=
  if b = ascii '"' ∨ b = ascii '\\' ∨ b = ascii '/' then some b
  else if b = ascii 'b' then some 0x08
  else if b = ascii 'f' then some 0x0c
  else if b = ascii 'n' then some 0x0a
  else if b = ascii 'r' then some 0x0d
  else if b = ascii 't' then some 0x09
  else none

/-- What a string is made of. -/
inductive Piece where
  | byte (b : UInt8)
  /-- A code unit of UTF-16, from its escape. -/
  | unit (n : Nat)
deriving Repr, DecidableEq

/-- Reads the pieces of a string after its opening quote, and what follows the closing one. -/
def readPieces : List UInt8 → Option (List Piece × List UInt8)
  | [] => none
  | b :: rest =>
    if b = ascii '"' then some ([], rest)
    else if b = ascii '\\' then
      match rest with
      | [] => none
      | e :: rest =>
        if e = ascii 'u' then
          match rest with
          | w :: x :: y :: z :: rest =>
            (hexUnit? w x y z).bind fun n =>
              (readPieces rest).map fun (pieces, rest) => (.unit n :: pieces, rest)
          | _ => none
        else
          (shortEscape? e).bind fun b =>
            (readPieces rest).map fun (pieces, rest) => (.byte b :: pieces, rest)
    else if b < 0x20 then none
    else (readPieces rest).map fun (pieces, rest) => (.byte b :: pieces, rest)

/-- The code unit is the first of a pair. -/
def isHighSurrogate (n : Nat) : Bool := 0xd800 ≤ n && n ≤ 0xdbff

/-- The code unit is the second of a pair. -/
def isLowSurrogate (n : Nat) : Bool := 0xdc00 ≤ n && n ≤ 0xdfff

/-- The UTF-8 bytes of the character with a code point. -/
def codePointBytes (n : Nat) : List UInt8 := String.utf8EncodeChar (Char.ofNat n)

/-- The bytes of a string, if its surrogates pair. -/
def piecesBytes? : List Piece → Option (List UInt8)
  | [] => some []
  | .byte b :: rest => (piecesBytes? rest).map (b :: ·)
  | .unit high :: .unit low :: rest =>
    if isHighSurrogate high then
      if isLowSurrogate low then
        (piecesBytes? rest).map
          (codePointBytes (0x10000 + (high - 0xd800) * 0x400 + (low - 0xdc00)) ++ ·)
      else none
    else if isLowSurrogate high then none
    else (piecesBytes? (.unit low :: rest)).map (codePointBytes high ++ ·)
  | .unit n :: rest =>
    if isHighSurrogate n || isLowSurrogate n then none
    else (piecesBytes? rest).map (codePointBytes n ++ ·)

/-- The text of a string, if it has one. -/
def piecesText? (pieces : List Piece) : Option String :=
  (piecesBytes? pieces).bind Text.ofUtf8Bytes?

/-- The digits that bytes begin with. -/
def leadingDigits (bytes : List UInt8) : List Nat := (bytes.takeWhile isDigit).map digitValue

/-- Reads digits, of which there must be one. -/
def readDigits (bytes : List UInt8) : Option (List Nat × List UInt8) :=
  match leadingDigits bytes with
  | [] => none
  | digits => some (digits, bytes.dropWhile isDigit)

/-- Reads the fraction of a number, if it has one. -/
def readFraction (bytes : List UInt8) : Option (List Nat × List UInt8) :=
  match bytes with
  | [] => some ([], [])
  | b :: rest => if b = ascii '.' then readDigits rest else some ([], bytes)

/-- Reads the sign of an exponent; true when it is negative. -/
def readSign (bytes : List UInt8) : Bool × List UInt8 :=
  match bytes with
  | [] => (false, [])
  | b :: rest =>
    if b = ascii '-' then (true, rest) else if b = ascii '+' then (false, rest) else (false, bytes)

/-- Reads the exponent of a number, if it has one. -/
def readExponent (bytes : List UInt8) : Option (Option (Bool × List Nat) × List UInt8) :=
  match bytes with
  | [] => some (none, [])
  | b :: rest =>
    if b = ascii 'e' ∨ b = ascii 'E' then
      let (negative, rest) := readSign rest
      (readDigits rest).map fun (digits, rest) => (some (negative, digits), rest)
    else some (none, bytes)

/-- Reads the whole part of a number. No further digit follows a leading zero. -/
def readWhole (bytes : List UInt8) : Option (List Nat × List UInt8) :=
  (readDigits bytes).filter fun (digits, _) => digits.head? ≠ some 0 || digits.length = 1

/-- Reads a number without its minus sign. -/
def readUnsigned (negative : Bool) (bytes : List UInt8) : Option (Numeral × List UInt8) := do
  let (whole, rest) ← readWhole bytes
  let (fraction, rest) ← readFraction rest
  let (exponent, rest) ← readExponent rest
  return (⟨negative, whole, fraction, exponent⟩, rest)

/-- The rest of bytes that begin with the given word. -/
def dropWord? (word : String) (bytes : List UInt8) : Option (List UInt8) :=
  let letters := asciiBytes word
  if letters.isPrefixOf bytes then some (bytes.drop letters.length) else none

/-- Reads the token that bytes begin with. -/
def readToken : List UInt8 → Option (Token × List UInt8)
  | [] => none
  | b :: rest =>
    if b = ascii '\x7b' then some (.openBrace, rest)
    else if b = ascii '\x7d' then some (.closeBrace, rest)
    else if b = ascii '[' then some (.openBracket, rest)
    else if b = ascii ']' then some (.closeBracket, rest)
    else if b = ascii ',' then some (.comma, rest)
    else if b = ascii ':' then some (.colon, rest)
    else if b = ascii '"' then
      (readPieces rest).map fun (pieces, rest) => (.string (piecesText? pieces), rest)
    else if b = ascii 'n' then (dropWord? "ull" rest).map fun rest => (.null, rest)
    else if b = ascii 't' then (dropWord? "rue" rest).map fun rest => (.bool true, rest)
    else if b = ascii 'f' then (dropWord? "alse" rest).map fun rest => (.bool false, rest)
    else if b = ascii '-' then
      (readUnsigned true rest).map fun (n, rest) => (.number n, rest)
    else (readUnsigned false (b :: rest)).map fun (n, rest) => (.number n, rest)

theorem length_of_readPieces
    {bytes rest : List UInt8} {pieces : List Piece} (h : readPieces bytes = some (pieces, rest)) :
    rest.length < bytes.length := by
  fun_induction readPieces bytes generalizing pieces rest
  all_goals
    simp_all only [reduceCtorEq, Option.some.injEq, Option.bind_eq_some_iff,
      Option.map_eq_some_iff, Prod.exists, Prod.mk.injEq, List.length_cons]
  · omega
  · rename_i ih
    obtain ⟨_, _, _, _, hr, _, rfl⟩ := h
    have := ih hr
    omega
  · rename_i ih
    obtain ⟨_, _, _, _, hr, _, rfl⟩ := h
    have := ih hr
    omega
  · rename_i ih
    obtain ⟨_, _, hr, _, rfl⟩ := h
    have := ih hr
    omega

theorem length_of_readDigits
    {bytes rest : List UInt8} {digits : List Nat} (h : readDigits bytes = some (digits, rest)) :
    rest.length < bytes.length := by
  unfold readDigits at h
  split at h
  · simp at h
  · rename_i hne
    cases h
    match bytes with
    | [] => simp [leadingDigits] at hne
    | b :: r =>
      by_cases hb : isDigit b
      · have := (List.dropWhile_sublist isDigit (l := r)).length_le
        simp [hb]
        omega
      · simp [leadingDigits, hb] at hne

theorem length_of_readWhole
    {bytes rest : List UInt8} {digits : List Nat} (h : readWhole bytes = some (digits, rest)) :
    rest.length < bytes.length :=
  length_of_readDigits (Option.filter_eq_some_iff.1 h).1

theorem length_of_readFraction
    {bytes rest : List UInt8} {digits : List Nat} (h : readFraction bytes = some (digits, rest)) :
    rest.length ≤ bytes.length := by
  unfold readFraction at h
  split at h
  · cases h
    simp
  · split at h
    · have := length_of_readDigits h
      simp only [List.length_cons]
      omega
    · cases h
      simp

theorem length_readSign (bytes : List UInt8) : (readSign bytes).2.length ≤ bytes.length := by
  unfold readSign
  split
  · simp
  · split
    · simp
    · split <;> simp

theorem length_of_readExponent
    {bytes rest : List UInt8} {exponent : Option (Bool × List Nat)}
    (h : readExponent bytes = some (exponent, rest)) :
    rest.length ≤ bytes.length := by
  unfold readExponent at h
  split at h
  · cases h
    simp
  · rename_i b r
    split at h
    · simp only [Option.map_eq_some_iff, Prod.exists, Prod.mk.injEq] at h
      obtain ⟨_, _, hr, _, rfl⟩ := h
      have := length_of_readDigits hr
      have := length_readSign r
      simp only [List.length_cons]
      omega
    · cases h
      simp

theorem length_of_readUnsigned
    {negative : Bool} {bytes rest : List UInt8} {n : Numeral}
    (h : readUnsigned negative bytes = some (n, rest)) :
    rest.length < bytes.length := by
  unfold readUnsigned at h
  simp only [Option.bind_eq_bind, Option.bind_eq_some_iff, Prod.exists, Option.pure_def,
    Option.some.injEq, Prod.mk.injEq] at h
  obtain ⟨_, _, h1, _, _, h2, _, _, h3, _, rfl⟩ := h
  have := length_of_readWhole h1
  have := length_of_readFraction h2
  have := length_of_readExponent h3
  omega

theorem length_of_dropWord?
    {word : String} {bytes rest : List UInt8} (h : dropWord? word bytes = some rest) :
    rest.length ≤ bytes.length := by
  unfold dropWord? at h
  simp only at h
  split at h
  · cases h
    simp
  · simp at h

/-- Whatever is read leaves fewer than `n` bytes. -/
def LeavesBelow (n : Nat) (read : Option (Token × List UInt8)) : Prop :=
  ∀ t rest, read = some (t, rest) → rest.length < n

theorem LeavesBelow.ite
    {n : Nat} {c : Prop} [Decidable c] {a b : Option (Token × List UInt8)}
    (ha : LeavesBelow n a) (hb : LeavesBelow n b) : LeavesBelow n (if c then a else b) := by
  by_cases h : c
  · rwa [if_pos h]
  · rwa [if_neg h]

theorem LeavesBelow.some {n : Nat} {t : Token} {rest : List UInt8} (h : rest.length < n) :
    LeavesBelow n (some (t, rest)) := by
  intro t' rest' ht
  cases ht
  exact h

theorem LeavesBelow.map
    {α : Type} {n : Nat} {read : Option α} {f : α → Token × List UInt8}
    (h : ∀ a, read = .some a → (f a).2.length < n) : LeavesBelow n (read.map f) := by
  intro t rest ht
  obtain ⟨a, ha, hf⟩ := Option.map_eq_some_iff.1 ht
  have := h a ha
  rwa [hf] at this

/-- A token takes at least one byte. -/
theorem leavesBelow_readToken (bytes : List UInt8) :
    LeavesBelow bytes.length (readToken bytes) := by
  match bytes with
  | [] => intro t rest h; simp [readToken] at h
  | b :: r =>
    have mark (t : Token) : LeavesBelow (b :: r).length (some (t, r)) :=
      .some (Nat.lt_succ_self _)
    have word (t : Token) (w : String) :
        LeavesBelow (b :: r).length ((dropWord? w r).map fun rest => (t, rest)) :=
      .map fun _ h => Nat.lt_succ_of_le (length_of_dropWord? h)
    exact .ite (mark _) <| .ite (mark _) <| .ite (mark _) <| .ite (mark _) <| .ite (mark _) <|
      .ite (mark _) <| .ite (.map fun _ h => Nat.lt_succ_of_lt (length_of_readPieces h)) <|
      .ite (word _ _) <| .ite (word _ _) <| .ite (word _ _) <|
      .ite (.map fun _ h => Nat.lt_succ_of_lt (length_of_readUnsigned h)) <|
      .map fun _ h => length_of_readUnsigned h

/-- The tokens of a whole text. -/
def tokens? (bytes : List UInt8) : Option (List Token) :=
  match _h : bytes.dropWhile isSpace with
  | [] => some []
  | b :: rest =>
    match _ht : readToken (b :: rest) with
    | some (t, rest) => (tokens? rest).map (t :: ·)
    | none => none
termination_by bytes.length
decreasing_by
  have h1 := leavesBelow_readToken _ _ _ _ht
  have h2 := (List.dropWhile_sublist isSpace (l := bytes)).length_le
  rw [_h] at h2
  omega

end SealedVault.Json
