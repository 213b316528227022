import Mathlib.Data.List.TakeWhile
import SealedVault.Proofs.Results
import SealedVault.Proofs.Text.Base64
import SealedVault.Proofs.Text.LetterCase
import SealedVault.Settings

/-!
# The grammar of the environment

Three variables have a grammar: the base64 text of a key, a switch in one of six words, and a log
format in one of three, with blanks around them and the words in any case of their letters. An
environment can be used if and only if each of the three is unset or keeps to its grammar. Then the
settings are what the variables say, and otherwise the first variable that does not keep to its
grammar is named. Only these three and the data directory are looked at.
-/

namespace SealedVault

open Sealing (MasterKey SealingError)
open Text (SameButCase isPlainWord)

/-! ## Blanks and words -/

namespace Text

theorem dropBlanks_eq_nil_iff {cs : List Char} :
    dropBlanks cs = [] ↔ ∀ c ∈ cs, isBlank c = true :=
  List.dropWhile_eq_nil_iff

/-- Dropping blanks leaves nothing but blanks only if it leaves nothing. -/
theorem dropBlanks_eq_nil {cs : List Char} (h : ∀ c ∈ dropBlanks cs, isBlank c = true) :
    dropBlanks cs = [] := by
  induction cs with
  | nil => rfl
  | cons c rest ih =>
    cases hblank : isBlank c with
    | true =>
      rw [dropBlanks, List.dropWhile_cons_of_pos hblank] at h ⊢
      exact ih h
    | false =>
      have hkept : dropBlanks (c :: rest) = c :: rest :=
        List.dropWhile_cons_of_neg (by simp [hblank])
      rw [hkept] at h
      rw [h c List.mem_cons_self] at hblank
      cases hblank

theorem trim_eq_empty_iff {s : String} : trim s = "" ↔ ∀ c ∈ s.toList, isBlank c = true := by
  rw [trim, String.ofList_eq_empty_iff, trimChars, List.reverse_eq_nil_iff, dropBlanks_eq_nil_iff]
  constructor
  · intro h
    exact dropBlanks_eq_nil_iff.mp
      (dropBlanks_eq_nil fun c hc => h c (List.mem_reverse.mpr hc))
  · intro h c hc
    rw [dropBlanks_eq_nil_iff.mpr h] at hc
    cases hc

/-- The text is one of the words but for the case of ASCII letters. -/
def IsOneOf (words : List String) (s : String) : Prop :=
  ∃ word ∈ words, SameButCase s word

theorem isOneOf_iff {words : List String} (hwords : words.all isPlainWord = true) {s : String} :
    IsOneOf words s ↔ lowercase s ∈ words := by
  have hplain := List.all_eq_true.mp hwords
  constructor
  · rintro ⟨word, hmem, hsame⟩
    rwa [(lowercase_eq_iff (hplain word hmem)).mpr hsame]
  · intro hmem
    exact ⟨_, hmem, (lowercase_eq_iff (hplain _ hmem)).mp rfl⟩

end Text

open Text (IsOneOf)

/-! ## What each variable may say -/

theorem Sealing.MasterKey.ofBase64_eq_ok_iff {value : String} {key : MasterKey} :
    MasterKey.ofBase64 value = .ok key ↔ Text.trim value = Text.Base64.encode key.bytes := by
  unfold MasterKey.ofBase64
  constructor
  · intro h
    split at h
    next bytes hbytes =>
      unfold MasterKey.ofBytes at h
      split at h
      · cases h
        exact Text.Base64.decode?_eq_some_iff.mp hbytes
      · cases h
    · cases h
  · intro h
    rw [h, Text.Base64.decode?_encode]
    exact dif_pos key.size_mem

/-- The words for a log format. -/
def LogFormat.words : LogFormat → List String
  | .json => ["json"]
  | .pretty => ["pretty", "text"]

theorem LogFormat.parse_eq_ok_iff {value : String} {format : LogFormat} :
    LogFormat.parse value = .ok format ↔ IsOneOf format.words (Text.trim value) := by
  have hplain : format.words.all isPlainWord = true := by cases format <;> decide +kernel
  rw [Text.isOneOf_iff hplain]
  simp only [LogFormat.parse]
  generalize Text.lowercase (Text.trim value) = word
  constructor
  · intro h
    split at h
    next hjson =>
      cases h
      simp [words, hjson]
    split at h
    next hpretty =>
      cases h
      simpa [words] using hpretty
    · cases h
  · intro hmem
    cases format with
    | json =>
      obtain rfl := List.mem_singleton.mp hmem
      rfl
    | pretty =>
      have hother : word ≠ "json" := by
        rintro rfl
        revert hmem
        decide
      simp only [words, List.mem_cons, List.not_mem_nil, or_false] at hmem
      simp only [if_neg hother, if_pos hmem]

namespace Settings

/-- The words for a switch. -/
def switchWords : Bool → List String
  | true => ["1", "true", "yes"]
  | false => ["0", "false", "no"]

theorem parseSwitch_eq_ok_iff {name value : String} {b : Bool} :
    parseSwitch name value = .ok b ↔ IsOneOf (switchWords b) (Text.trim value) := by
  have hplain : (switchWords b).all isPlainWord = true := by cases b <;> decide +kernel
  rw [Text.isOneOf_iff hplain]
  simp only [parseSwitch]
  generalize Text.lowercase (Text.trim value) = word
  constructor
  · intro h
    split at h
    next htrue =>
      cases h
      simpa [switchWords] using htrue
    split at h
    next hfalse =>
      cases h
      simpa [switchWords] using hfalse
    · cases h
  · intro hmem
    cases b with
    | true =>
      simp only [switchWords, List.mem_cons, List.not_mem_nil, or_false] at hmem
      simp only [if_pos hmem]
    | false =>
      have hother : ¬(word = "1" ∨ word = "true" ∨ word = "yes") := by
        rintro (rfl | rfl | rfl) <;> revert hmem <;> decide
      simp only [switchWords, List.mem_cons, List.not_mem_nil, or_false] at hmem
      simp only [if_neg hother, if_pos hmem]

/-! ## Reading a variable -/

variable {lookup lookup' : String → Option String} {name : String}

/-- The variable is missing, or there is nothing but blanks in it. -/
def IsUnset (lookup : String → Option String) (name : String) : Prop :=
  ∀ value, lookup name = some value → ∀ c ∈ value.toList, Text.isBlank c = true

theorem nonBlank_eq_some_iff {value : String} :
    nonBlank lookup name = some value ↔ lookup name = some value ∧ Text.trim value ≠ "" := by
  rw [nonBlank, Option.filter_eq_some_iff, decide_eq_true_iff]

theorem nonBlank_eq_none_iff : nonBlank lookup name = none ↔ IsUnset lookup name := by
  rw [nonBlank, Option.filter_eq_none_iff]
  simp only [decide_eq_true_iff, not_not, Text.trim_eq_empty_iff, IsUnset]

/-- The variable means the same in both environments, or it is unset in both. -/
def SameVariable (lookup lookup' : String → Option String) (name : String) : Prop :=
  lookup' name = lookup name ∨ IsUnset lookup' name ∧ IsUnset lookup name

theorem nonBlank_of_sameVariable (h : SameVariable lookup lookup' name) :
    nonBlank lookup' name = nonBlank lookup name := by
  rcases h with hsame | ⟨hunset', hunset⟩
  · rw [nonBlank, nonBlank, hsame]
  · rw [nonBlank_eq_none_iff.mpr hunset', nonBlank_eq_none_iff.mpr hunset]

section Reads

variable {α : Type} {read : String → Except SettingsError α} {means : α → String → Prop}

/-- What a value is read as depends on what stands between the blanks around it, and something must
stand there. -/
structure Reads (read : String → Except SettingsError α) (means : α → String → Prop) : Prop where
  ok_iff (value : String) (a : α) : read value = .ok a ↔ means a (Text.trim value)
  ne_empty (a : α) (word : String) : means a word → word ≠ ""

theorem readWith_of_sameVariable (h : SameVariable lookup lookup' name) :
    readWith lookup' name read = readWith lookup name read := by
  rw [readWith, readWith, nonBlank_of_sameVariable h]

theorem readWith_eq_ok_none_iff : readWith lookup name read = .ok none ↔ IsUnset lookup name := by
  rw [readWith, ← nonBlank_eq_none_iff]
  cases nonBlank lookup name with
  | none => exact ⟨fun _ => rfl, fun _ => rfl⟩
  | some value => cases h : read value <;> simp [Except.map, h]

theorem readWith_eq_ok_some_iff (hread : Reads read means) {a : α} :
    readWith lookup name read = .ok (some a) ↔
      ∃ value, lookup name = some value ∧ means a (Text.trim value) := by
  have hvalue : readWith lookup name read = .ok (some a) ↔
      ∃ value, nonBlank lookup name = some value ∧ read value = .ok a := by
    rw [readWith]
    cases nonBlank lookup name with
    | none => simp
    | some value => cases h : read value <;> simp [Except.map, h]
  rw [hvalue]
  constructor
  · rintro ⟨value, hlookup, hok⟩
    exact ⟨value, (nonBlank_eq_some_iff.mp hlookup).1, (hread.ok_iff value a).mp hok⟩
  · rintro ⟨value, hlookup, hmeant⟩
    exact ⟨value, nonBlank_eq_some_iff.mpr ⟨hlookup, hread.ne_empty a _ hmeant⟩,
      (hread.ok_iff value a).mpr hmeant⟩

theorem exists_readWith_eq_ok_iff (hread : Reads read means) :
    (∃ found, readWith lookup name read = .ok found) ↔
      IsUnset lookup name ∨ ∃ value, lookup name = some value ∧ ∃ a, means a (Text.trim value) := by
  rw [Option.exists, readWith_eq_ok_none_iff]
  apply or_congr_right
  simp only [readWith_eq_ok_some_iff hread]
  rw [exists_comm]
  simp only [exists_and_left]

/-- Reading a variable fails only as reading its value fails. -/
theorem exists_of_readWith_eq_error {e : SettingsError}
    (h : readWith lookup name read = .error e) : ∃ value, read value = .error e := by
  unfold readWith at h
  split at h
  · cases h
  next value hvalue =>
    refine ⟨value, ?_⟩
    cases hread : read value with
    | ok a =>
      rw [hread] at h
      cases h
    | error e' =>
      rw [hread] at h
      cases h
      rfl

end Reads

end Settings

/-! ## The grammar -/

namespace Text

theorem IsOneOf.ne_empty {words : List String} {s : String} (h : IsOneOf words s)
    (hwords : "" ∉ words) : s ≠ "" := by
  rintro rfl
  obtain ⟨word, hmem, hsame⟩ := h
  have hnil : word = "" := by
    rw [← String.toList_eq_nil_iff, ← List.map_eq_nil_iff, ← hsame]
    rfl
  exact hwords (hnil ▸ hmem)

theorem isOneOf_append_iff {words words' : List String} {s : String} :
    IsOneOf (words ++ words') s ↔ IsOneOf words s ∨ IsOneOf words' s := by
  simp only [IsOneOf, List.mem_append, or_and_right, exists_or]

theorem Base64.encode_ne_empty {bytes : List UInt8} (h : bytes ≠ []) : encode bytes ≠ "" := by
  intro hempty
  have hdecode := decode?_encode bytes
  rw [hempty] at hdecode
  cases hdecode
  exact h rfl

end Text

/-- The variables that have a grammar. -/
inductive Setting where
  | masterKey
  | resealLegacy
  | logFormat
deriving Repr, DecidableEq

namespace Setting

open Settings (IsUnset Reads readWith parseSwitch switchWords)

variable {lookup : String → Option String}

/-- The name of the variable. -/
def name : Setting → String
  | masterKey => "VAULT_MASTER_KEY"
  | resealLegacy => "VAULT_RESEAL_LEGACY"
  | logFormat => "LOG_FORMAT"

/-- The order in which the variables are looked at. -/
def order : List Setting := [masterKey, resealLegacy, logFormat]

/-- What may stand in the variable, apart from blanks around it. -/
def Accepts : Setting → String → Prop
  | masterKey, word =>
    ∃ bytes : List UInt8, bytes.length ∈ [16, 24, 32] ∧ word = Text.Base64.encode bytes
  | resealLegacy, word => IsOneOf ["1", "true", "yes", "0", "false", "no"] word
  | logFormat, word => IsOneOf ["json", "pretty", "text"] word

/-- The variable is unset, or it keeps to its grammar. -/
def IsValid (lookup : String → Option String) (s : Setting) : Prop :=
  IsUnset lookup s.name ∨ ∃ value, lookup s.name = some value ∧ s.Accepts (Text.trim value)

theorem reads_key : Reads (fun s => (MasterKey.ofBase64 s).mapError .invalidKey)
    fun key word => word = Text.Base64.encode key.bytes where
  ok_iff value key := by
    rw [← MasterKey.ofBase64_eq_ok_iff]
    cases MasterKey.ofBase64 value <;> simp [Except.mapError]
  ne_empty key word := by
    rintro rfl
    apply Text.Base64.encode_ne_empty
    intro hnil
    have hsize := key.size_mem
    rw [hnil] at hsize
    revert hsize
    decide

theorem reads_switch (name : String) :
    Reads (parseSwitch name) fun b => IsOneOf (switchWords b) where
  ok_iff _ _ := Settings.parseSwitch_eq_ok_iff
  ne_empty b _ h := h.ne_empty (by cases b <;> decide)

theorem reads_format : Reads LogFormat.parse fun format => IsOneOf format.words where
  ok_iff _ _ := LogFormat.parse_eq_ok_iff
  ne_empty format _ h := h.ne_empty (by cases format <;> decide)

theorem accepts_masterKey_iff {word : String} : masterKey.Accepts word ↔
    ∃ key : MasterKey, word = Text.Base64.encode key.bytes := by
  constructor
  · rintro ⟨bytes, hsize, rfl⟩
    exact ⟨⟨bytes, hsize⟩, rfl⟩
  · rintro ⟨key, rfl⟩
    exact ⟨key.bytes, key.size_mem, rfl⟩

theorem accepts_resealLegacy_iff {word : String} : resealLegacy.Accepts word ↔
    ∃ b, IsOneOf (switchWords b) word := by
  rw [Bool.exists_bool, or_comm, ← Text.isOneOf_append_iff]
  rfl

theorem accepts_logFormat_iff {word : String} : logFormat.Accepts word ↔
    ∃ format : LogFormat, IsOneOf format.words word := by
  have hboth : logFormat.Accepts word ↔
      IsOneOf LogFormat.json.words word ∨ IsOneOf LogFormat.pretty.words word := by
    rw [← Text.isOneOf_append_iff]
    rfl
  rw [hboth]
  constructor
  · rintro (h | h)
    · exact ⟨_, h⟩
    · exact ⟨_, h⟩
  · rintro ⟨format, h⟩
    cases format with
    | json => exact .inl h
    | pretty => exact .inr h

theorem isValid_iff {s : Setting} {α : Type} {read : String → Except SettingsError α}
    {means : α → String → Prop} (hread : Reads read means)
    (haccepts : ∀ word, s.Accepts word ↔ ∃ a, means a word) :
    s.IsValid lookup ↔ ∃ found, readWith lookup s.name read = .ok found := by
  rw [Settings.exists_readWith_eq_ok_iff hread, IsValid]
  simp only [haccepts]

end Setting

/-! ## Settings -/

namespace SettingsError

/-- The variable that cannot be used. -/
def variableName : SettingsError → String
  | invalidKey _ => "VAULT_MASTER_KEY"
  | invalid name _ => name

theorem exists_message_eq (e : SettingsError) :
    ∃ reason, e.message = "invalid " ++ e.variableName ++ ": " ++ reason := by
  cases e with
  | invalidKey cause => exact ⟨cause.message, rfl⟩
  | invalid name reason => exact ⟨reason, rfl⟩

end SettingsError

namespace Settings

variable {lookup lookup' : String → Option String}

/-- The settings are what the variables say. -/
structure SaidBy (lookup : String → Option String) (settings : Settings) : Prop where
  key_iff (key : MasterKey) : settings.masterKey = some key ↔
    ∃ value, lookup "VAULT_MASTER_KEY" = some value ∧
      Text.trim value = Text.Base64.encode key.bytes
  key_unique (key : MasterKey) (value : String) (bytes : List UInt8) :
    settings.masterKey = some key → lookup "VAULT_MASTER_KEY" = some value →
      Text.trim value = Text.Base64.encode bytes → bytes = key.bytes
  no_key_iff : settings.masterKey = none ↔ IsUnset lookup "VAULT_MASTER_KEY"
  switched_on_iff : settings.resealLegacy = true ↔
    ∃ value, lookup "VAULT_RESEAL_LEGACY" = some value ∧
      IsOneOf ["1", "true", "yes"] (Text.trim value)
  switched_off_iff : settings.resealLegacy = false ↔
    IsUnset lookup "VAULT_RESEAL_LEGACY" ∨
      ∃ value, lookup "VAULT_RESEAL_LEGACY" = some value ∧
        IsOneOf ["0", "false", "no"] (Text.trim value)
  json_iff : settings.logFormat = .json ↔
    ∃ value, lookup "LOG_FORMAT" = some value ∧ IsOneOf ["json"] (Text.trim value)
  pretty_iff : settings.logFormat = .pretty ↔
    IsUnset lookup "LOG_FORMAT" ∨
      ∃ value, lookup "LOG_FORMAT" = some value ∧ IsOneOf ["pretty", "text"] (Text.trim value)
  directory (value : String) : lookup "DATA_DIR" = some value → ¬IsUnset lookup "DATA_DIR" →
    settings.dataDirectory = value
  default_directory : IsUnset lookup "DATA_DIR" → settings.dataDirectory = "/data"

/-- The key that the environment names, if it names one. -/
def readKey (lookup : String → Option String) : Except SettingsError (Option MasterKey) :=
  readWith lookup "VAULT_MASTER_KEY" fun s => (MasterKey.ofBase64 s).mapError .invalidKey

/-- The switch that the environment names, if it names one. -/
def readSwitch (lookup : String → Option String) : Except SettingsError (Option Bool) :=
  readWith lookup "VAULT_RESEAL_LEGACY" (parseSwitch "VAULT_RESEAL_LEGACY")

/-- The log format that the environment names, if it names one. -/
def readFormat (lookup : String → Option String) : Except SettingsError (Option LogFormat) :=
  readWith lookup "LOG_FORMAT" LogFormat.parse

theorem isValid_masterKey_iff :
    Setting.masterKey.IsValid lookup ↔ ∃ key, readKey lookup = .ok key :=
  Setting.isValid_iff Setting.reads_key fun _ => Setting.accepts_masterKey_iff

theorem isValid_resealLegacy_iff :
    Setting.resealLegacy.IsValid lookup ↔ ∃ switch, readSwitch lookup = .ok switch :=
  Setting.isValid_iff (Setting.reads_switch _) fun _ => Setting.accepts_resealLegacy_iff

theorem isValid_logFormat_iff :
    Setting.logFormat.IsValid lookup ↔ ∃ format, readFormat lookup = .ok format :=
  Setting.isValid_iff Setting.reads_format fun _ => Setting.accepts_logFormat_iff

/-- The settings of what was read from the variables. -/
def ofRead (lookup : String → Option String) (key : Option MasterKey) (switch : Option Bool)
    (format : Option LogFormat) : Settings where
  dataDirectory := (nonBlank lookup "DATA_DIR").getD Layout.defaultRoot
  masterKey := key
  resealLegacy := switch.getD false
  logFormat := format.getD .pretty

theorem ofLookup_eq : ofLookup lookup = (do
    let key ← readKey lookup
    let switch ← readSwitch lookup
    let format ← readFormat lookup
    .ok (ofRead lookup key switch format)) := rfl

theorem ofLookup_eq_ok_iff {settings : Settings} :
    ofLookup lookup = .ok settings ↔ ∃ key switch format, readKey lookup = .ok key ∧
      readSwitch lookup = .ok switch ∧ readFormat lookup = .ok format ∧
        ofRead lookup key switch format = settings := by
  simp only [ofLookup_eq, bind_eq_ok_iff, Except.ok.injEq, exists_and_left]

theorem exists_ofLookup_eq_ok_iff :
    (∃ settings, ofLookup lookup = .ok settings) ↔ ∀ s : Setting, s.IsValid lookup := by
  constructor
  · rintro ⟨settings, h⟩ s
    obtain ⟨key, switch, format, hkey, hswitch, hformat, -⟩ := ofLookup_eq_ok_iff.mp h
    cases s with
    | masterKey => exact isValid_masterKey_iff.mpr ⟨key, hkey⟩
    | resealLegacy => exact isValid_resealLegacy_iff.mpr ⟨switch, hswitch⟩
    | logFormat => exact isValid_logFormat_iff.mpr ⟨format, hformat⟩
  · intro h
    obtain ⟨key, hkey⟩ := isValid_masterKey_iff.mp (h .masterKey)
    obtain ⟨switch, hswitch⟩ := isValid_resealLegacy_iff.mp (h .resealLegacy)
    obtain ⟨format, hformat⟩ := isValid_logFormat_iff.mp (h .logFormat)
    exact ⟨_, ofLookup_eq_ok_iff.mpr ⟨key, switch, format, hkey, hswitch, hformat, rfl⟩⟩

theorem saidBy_of_ofLookup {settings : Settings} (h : ofLookup lookup = .ok settings) :
    settings.SaidBy lookup := by
  obtain ⟨key, switch, format, hkey, hswitch, hformat, rfl⟩ := ofLookup_eq_ok_iff.mp h
  have hkey_iff (found : MasterKey) : key = some found ↔
      ∃ value, lookup "VAULT_MASTER_KEY" = some value ∧
        Text.trim value = Text.Base64.encode found.bytes := by
    rw [← readWith_eq_ok_some_iff Setting.reads_key, ← readKey, hkey, Except.ok.injEq]
  have hswitch_iff (b : Bool) : switch = some b ↔
      ∃ value, lookup "VAULT_RESEAL_LEGACY" = some value ∧
        IsOneOf (switchWords b) (Text.trim value) := by
    rw [← readWith_eq_ok_some_iff (Setting.reads_switch _), ← readSwitch, hswitch, Except.ok.injEq]
  have hformat_iff (f : LogFormat) : format = some f ↔
      ∃ value, lookup "LOG_FORMAT" = some value ∧ IsOneOf f.words (Text.trim value) := by
    rw [← readWith_eq_ok_some_iff Setting.reads_format, ← readFormat, hformat, Except.ok.injEq]
  have hno_key : key = none ↔ IsUnset lookup "VAULT_MASTER_KEY" := by
    rw [← readWith_eq_ok_none_iff, ← readKey, hkey, Except.ok.injEq]
  have hno_switch : switch = none ↔ IsUnset lookup "VAULT_RESEAL_LEGACY" := by
    rw [← readWith_eq_ok_none_iff, ← readSwitch, hswitch, Except.ok.injEq]
  have hno_format : format = none ↔ IsUnset lookup "LOG_FORMAT" := by
    rw [← readWith_eq_ok_none_iff, ← readFormat, hformat, Except.ok.injEq]
  refine ⟨hkey_iff, ?_, hno_key, ?_, ?_, ?_, ?_, ?_, ?_⟩
  · intro found value bytes hfound hvalue htext
    obtain ⟨value', hvalue', htext'⟩ := (hkey_iff found).mp hfound
    rw [hvalue] at hvalue'
    cases hvalue'
    rw [htext] at htext'
    have hdecode := Text.Base64.decode?_encode bytes
    rw [htext', Text.Base64.decode?_encode] at hdecode
    exact (Option.some.inj hdecode).symm
  · refine Iff.trans ?_ (hswitch_iff true)
    cases switch <;> simp [ofRead]
  · rw [← hno_switch]
    refine Iff.trans ?_ (or_congr_right (hswitch_iff false))
    cases switch <;> simp [ofRead]
  · refine Iff.trans ?_ (hformat_iff .json)
    cases format <;> simp [ofRead]
  · rw [← hno_format]
    refine Iff.trans ?_ (or_congr_right (hformat_iff .pretty))
    cases format <;> simp [ofRead]
  · intro value hvalue hset
    have hne : Text.trim value ≠ "" := by
      intro hempty
      apply hset
      rintro value' hvalue'
      rw [hvalue] at hvalue'
      cases hvalue'
      exact Text.trim_eq_empty_iff.mp hempty
    rw [ofRead, nonBlank_eq_some_iff.mpr ⟨hvalue, hne⟩, Option.getD_some]
  · intro hunset
    rw [ofRead, nonBlank_eq_none_iff.mpr hunset, Option.getD_none, Layout.defaultRoot]

/-! ### The first variable that cannot be used -/

theorem variableName_of_readKey {e : SettingsError} (h : readKey lookup = .error e) :
    e.variableName = "VAULT_MASTER_KEY" := by
  obtain ⟨value, hvalue⟩ := exists_of_readWith_eq_error h
  cases hread : MasterKey.ofBase64 value with
  | ok key =>
    rw [hread] at hvalue
    cases hvalue
  | error cause =>
    rw [hread] at hvalue
    cases hvalue
    rfl

theorem variableName_of_readSwitch {e : SettingsError} (h : readSwitch lookup = .error e) :
    e.variableName = "VAULT_RESEAL_LEGACY" := by
  obtain ⟨value, hvalue⟩ := exists_of_readWith_eq_error h
  simp only [parseSwitch] at hvalue
  split at hvalue
  · cases hvalue
  split at hvalue
  · cases hvalue
  · cases hvalue
    rfl

theorem variableName_of_readFormat {e : SettingsError} (h : readFormat lookup = .error e) :
    e.variableName = "LOG_FORMAT" := by
  obtain ⟨value, hvalue⟩ := exists_of_readWith_eq_error h
  simp only [LogFormat.parse] at hvalue
  split at hvalue
  · cases hvalue
  split at hvalue
  · cases hvalue
  · cases hvalue
    rfl

/-- The failure is about a variable that does not keep to its grammar, while all those that are
looked at before it do. -/
def BlamesFirst (lookup : String → Option String) (e : SettingsError) : Prop :=
  ∃ before s after, Setting.order = before ++ s :: after ∧
    (∀ s' ∈ before, Setting.IsValid lookup s') ∧ ¬s.IsValid lookup ∧ e.variableName = s.name

theorem blamesFirst_of_ofLookup {e : SettingsError} (h : ofLookup lookup = .error e) :
    BlamesFirst lookup e := by
  rw [ofLookup_eq] at h
  cases hkey : readKey lookup with
  | error e' =>
    rw [hkey] at h
    cases h
    refine ⟨[], .masterKey, _, rfl, by simp, ?_, variableName_of_readKey hkey⟩
    rw [isValid_masterKey_iff, hkey]
    simp
  | ok key =>
  have hvalid_key := isValid_masterKey_iff.mpr ⟨key, hkey⟩
  rw [hkey, ok_bind] at h
  cases hswitch : readSwitch lookup with
  | error e' =>
    rw [hswitch] at h
    cases h
    refine ⟨[.masterKey], .resealLegacy, _, rfl, by simpa, ?_, variableName_of_readSwitch hswitch⟩
    rw [isValid_resealLegacy_iff, hswitch]
    simp
  | ok switch =>
  have hvalid_switch := isValid_resealLegacy_iff.mpr ⟨switch, hswitch⟩
  rw [hswitch, ok_bind] at h
  cases hformat : readFormat lookup with
  | error e' =>
    rw [hformat] at h
    cases h
    refine ⟨[.masterKey, .resealLegacy], .logFormat, [], rfl, ?_, ?_,
      variableName_of_readFormat hformat⟩
    · simpa using ⟨hvalid_key, hvalid_switch⟩
    · rw [isValid_logFormat_iff, hformat]
      simp
  | ok format =>
    rw [hformat] at h
    cases h

/-- An environment is accepted if and only if each variable that has a grammar is unset or keeps to
it. Then the settings are what the variables say; otherwise the failure names the first one that
does not keep to its grammar. No other variable has any influence. -/
theorem environment_decides_settings (lookup : String → Option String) :
    ((∃ settings, ofLookup lookup = .ok settings) ↔ ∀ s : Setting, s.IsValid lookup) ∧
      (∀ settings, ofLookup lookup = .ok settings → settings.SaidBy lookup) ∧
      (∀ e, ofLookup lookup = .error e → BlamesFirst lookup e ∧
        ∃ reason, e.message = "invalid " ++ e.variableName ++ ": " ++ reason) ∧
      ∀ lookup', (∀ name ∈ ["DATA_DIR", "VAULT_MASTER_KEY", "VAULT_RESEAL_LEGACY", "LOG_FORMAT"],
        SameVariable lookup lookup' name) → ofLookup lookup' = ofLookup lookup := by
  refine ⟨exists_ofLookup_eq_ok_iff, fun _ => saidBy_of_ofLookup,
    fun e h => ⟨blamesFirst_of_ofLookup h, e.exists_message_eq⟩, fun lookup' hsame => ?_⟩
  have hdirectory := nonBlank_of_sameVariable (hsame "DATA_DIR" (by decide))
  have hkey : readKey lookup' = readKey lookup :=
    readWith_of_sameVariable (hsame "VAULT_MASTER_KEY" (by decide))
  have hswitch : readSwitch lookup' = readSwitch lookup :=
    readWith_of_sameVariable (hsame "VAULT_RESEAL_LEGACY" (by decide))
  have hformat : readFormat lookup' = readFormat lookup :=
    readWith_of_sameVariable (hsame "LOG_FORMAT" (by decide))
  simp only [ofLookup_eq, hkey, hswitch, hformat, ofRead, hdirectory]

/-- An environment with a key of zeros, a switch, and the given log format. -/
def sampleEnvironment (format : String) (name : String) : Option String :=
  if name = "VAULT_MASTER_KEY" then some "\u2003AAAAAAAAAAAAAAAAAAAAAA==\n"
  else if name = "VAULT_RESEAL_LEGACY" then some "YeS "
  else if name = "LOG_FORMAT" then some format
  else none

/-- A log format of blanks counts as unset, and fullwidth letters are no log format. -/
theorem sample_environments_decided :
    (∃ settings, ofLookup (sampleEnvironment "\u2028 ") = .ok settings ∧
        settings.masterKey = some ⟨List.replicate 16 0, by decide⟩ ∧
        settings.resealLegacy = true ∧ settings.logFormat = .pretty ∧
        settings.dataDirectory = "/data") ∧
      ∃ e, ofLookup (sampleEnvironment "ｊｓｏｎ") = .error e ∧ e.variableName = "LOG_FORMAT" := by
  have hkey (format : String) : Setting.masterKey.IsValid (sampleEnvironment format) :=
    .inr ⟨_, rfl, List.replicate 16 0, by decide, by decide +kernel⟩
  have hswitch (format : String) : Setting.resealLegacy.IsValid (sampleEnvironment format) :=
    .inr ⟨_, rfl, "yes", by decide, by unfold SameButCase; decide +kernel⟩
  have hblank : IsUnset (sampleEnvironment "\u2028 ") "LOG_FORMAT" := by
    rintro value hvalue
    cases hvalue
    exact List.all_eq_true.mp (show Text.isBlankText "\u2028 " = true by decide +kernel)
  constructor
  · obtain ⟨hok_iff, hsaid, -, -⟩ :=
      environment_decides_settings (sampleEnvironment "\u2028 ")
    obtain ⟨settings, hok⟩ := hok_iff.mpr fun s => by
      cases s with
      | masterKey => exact hkey _
      | resealLegacy => exact hswitch _
      | logFormat => exact .inl hblank
    have hmeant := hsaid settings hok
    refine ⟨settings, hok, (hmeant.key_iff _).mpr ⟨_, rfl, by decide +kernel⟩,
      hmeant.switched_on_iff.mpr ⟨_, rfl, "yes", by decide, by unfold SameButCase; decide +kernel⟩,
      hmeant.pretty_iff.mpr (.inl hblank), hmeant.default_directory ?_⟩
    rintro value hvalue
    cases hvalue
  · obtain ⟨hok_iff, -, hblames, -⟩ := environment_decides_settings (sampleEnvironment "ｊｓｏｎ")
    cases h : ofLookup (sampleEnvironment "ｊｓｏｎ") with
    | ok settings =>
      exfalso
      rcases hok_iff.mp ⟨settings, h⟩ .logFormat with hunset | ⟨value, hvalue, word, hmem, hsame⟩
      · have hletter := hunset _ rfl 'ｊ' (by decide +kernel)
        revert hletter
        decide
      · cases hvalue
        revert word
        unfold SameButCase
        decide +kernel
    | error e =>
      obtain ⟨⟨before, s, after, -, -, hnot, hname⟩, -⟩ := hblames e h
      refine ⟨e, rfl, ?_⟩
      cases s with
      | masterKey => exact absurd (hkey _) hnot
      | resealLegacy => exact absurd (hswitch _) hnot
      | logFormat => exact hname

end Settings

end SealedVault
