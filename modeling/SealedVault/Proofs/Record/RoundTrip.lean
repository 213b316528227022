import SealedVault.Proofs.Calendar.RoundTrip
import SealedVault.Proofs.Json.TextObject
import SealedVault.Record.Codec
import Mathlib.Data.List.Nodup

/-!
# Records read back

A record is read from every JSON object that has its fields, in whatever order and with whatever
blanks and escapes they are written, and from one that has other members too. The tag of the
protection may be missing where the payload is not sealed, and an instant may be given by any text
that is read as that instant. The file of a record is one of these texts, so it reads back.
-/

namespace SealedVault

open Calendar (Timestamp)
open Json (IsValueText Member Spaced SpellsString Tree objectChars textMembers)
open Sealing (Protection)

namespace Record

/-! ## The fields as texts -/

/-- The members of a record's object as texts. -/
def texts : {kind : Kind} → Record kind → List (String × String)
  | .claims, r =>
    let f : ClaimsFields := r.fields
    [("id", r.id), ("user_id", r.owner), ("encryption", r.payload.protection.tag),
      ("claims", r.payload.text), ("created_at", r.createdAt.text),
      ("updated_at", f.updatedAt.text)]
  | .document, r =>
    let f : DocumentFields := r.fields
    [("id", r.id), ("user_id", r.owner), ("title", f.title), ("content_type", f.contentType),
      ("encryption", r.payload.protection.tag), ("data", r.payload.text),
      ("created_at", r.createdAt.text), ("updated_at", f.updatedAt.text)]
  | .photo, r =>
    let f : PhotoFields := r.fields
    [("id", r.id), ("document_id", f.documentId), ("user_id", r.owner),
      ("content_type", f.contentType), ("encryption", r.payload.protection.tag),
      ("data", r.payload.text), ("created_at", r.createdAt.text)]
  | .attachment, r =>
    let f : AttachmentFields := r.fields
    [("id", r.id), ("document_id", f.documentId), ("user_id", r.owner),
      ("file_name", f.fileName), ("content_type", f.contentType),
      ("encryption", r.payload.protection.tag), ("data", r.payload.text),
      ("created_at", r.createdAt.text)]

variable {kind : Kind}

theorem members_eq (r : Record kind) : r.members = textMembers r.texts := by
  cases kind <;> rfl

theorem keys_texts (r : Record kind) : r.texts.map (·.1) = kind.fieldNames := by
  cases kind <;> rfl

theorem mem_fieldNames_of_mem_texts {r : Record kind} {name written : String}
    (h : (name, written) ∈ r.texts) : name ∈ kind.fieldNames := by
  rw [← keys_texts r]
  exact List.mem_map.mpr ⟨_, h, rfl⟩

theorem nodup_fieldNames (kind : Kind) : kind.fieldNames.Nodup := by
  cases kind <;> decide

theorem texts_ne_nil (r : Record kind) : r.texts ≠ [] := by
  cases kind <;> exact List.cons_ne_nil _ _

/-! ## Texts of a record -/

/-- The names of the fields that hold instants. -/
def instantNames : List String := ["created_at", "updated_at"]

/-- The string stands for the field of that name. It is the written form of the field or, where that
is an instant, is read as the same instant. -/
def Means (r : Record kind) (name s : String) : Prop :=
  ∃ written, (name, written) ∈ r.texts ∧
    (s = written ∨
      name ∈ instantNames ∧ ∃ t, Timestamp.read written = .ok t ∧ Timestamp.read s = .ok t)

/-- The member has this name. If that is the name of a field, its value is a string that stands for
the field, and any value otherwise. -/
def Writes (r : Record kind) (m : Member) (name : String) : Prop :=
  SpellsString m.key.text name ∧
    if name ∈ kind.fieldNames then ∃ s, SpellsString m.value.text s ∧ r.Means name s
    else IsValueText m.value.text

/-- The text is that of an object, in which each field of the record stands once. The tag of the
protection can be left out when the payload is not sealed. -/
def IsWrittenIn (r : Record kind) (text : String) : Prop :=
  ∃ (whole : Spaced) (members : List Member) (names : List String),
    text.toList = whole.chars ∧ whole.text = objectChars members ∧
      List.Forall₂ r.Writes members names ∧
      ((names.filter kind.fieldNames.contains).Perm kind.fieldNames ∨
        r.payload.protection = .none ∧
          (names.filter kind.fieldNames.contains).Perm (kind.fieldNames.erase "encryption"))

/-- The written form of a field stands for it. -/
theorem means_of_mem {r : Record kind} {name written : String} (h : (name, written) ∈ r.texts) :
    r.Means name written :=
  ⟨written, h, .inl rfl⟩

/-- A text that is read as the instant of a field stands for the field. -/
theorem means_of_read {r : Record kind} {name s : String} {t : Timestamp}
    (hname : name ∈ instantNames) (h : (name, t.text) ∈ r.texts)
    (hread : Timestamp.read s = .ok t) :
    r.Means name s :=
  ⟨t.text, h, .inr ⟨hname, t, t.read_text, hread⟩⟩

/-- A member whose value stands for a field writes the field. -/
theorem writes_of_means {r : Record kind} {m : Member} {name s : String}
    (hkey : SpellsString m.key.text name) (hvalue : SpellsString m.value.text s)
    (h : r.Means name s) : r.Writes m name := by
  obtain ⟨written, hwritten, hs⟩ := h
  refine ⟨hkey, ?_⟩
  rw [if_pos (mem_fieldNames_of_mem_texts hwritten)]
  exact ⟨s, hvalue, written, hwritten, hs⟩

/-! ## Printed records -/

theorem writes_printedMember {r : Record kind} {name text : String} (h : (name, text) ∈ r.texts)
    (after : List Char) (hafter : Json.IsBlanks after) :
    r.Writes (Json.printedMember name text after hafter) name :=
  writes_of_means (Json.spellsString_stringChars name) (Json.spellsString_stringChars text)
    (means_of_mem h)

theorem writes_printedMembers {r : Record kind} {members : List (String × String)}
    (h : ∀ member ∈ members, member ∈ r.texts) :
    List.Forall₂ r.Writes (Json.printedMembers members) (members.map (·.1)) := by
  induction members with
  | nil => exact .nil
  | cons member rest ih =>
    have hmember : member ∈ r.texts := h member List.mem_cons_self
    have hrest := ih fun member hmember => h member (List.mem_cons_of_mem _ hmember)
    cases rest with
    | nil => exact .cons (writes_printedMember hmember _ _) .nil
    | cons next more => exact .cons (writes_printedMember hmember _ _) hrest

/-- A record is written in the text of its own file. -/
theorem isWrittenIn_pretty (r : Record kind) : r.IsWrittenIn r.toJson.pretty := by
  refine ⟨⟨[], objectChars (Json.printedMembers r.texts), [], Json.isBlanks_nil,
    Json.isBlanks_nil⟩, Json.printedMembers r.texts, kind.fieldNames, ?_, rfl, ?_, .inl ?_⟩
  · rw [toJson, members_eq, Json.pretty_textMembers (texts_ne_nil r)]
    simp [Spaced.chars]
  · rw [← keys_texts r]
    exact writes_printedMembers fun _ hmember => hmember
  · rw [List.filter_eq_self.mpr fun name hname => List.contains_iff_mem.mpr hname]

/-! ## Members and trees -/

/-- The members of an object in which a record is written have trees, and those of the fields are
strings that stand for them. -/
theorem exists_entries {r : Record kind} {members : List Member} {names : List String}
    (h : List.Forall₂ r.Writes members names) :
    ∃ entries : List (String × Tree), entries.map (·.1) = names ∧
      List.Forall₂ Member.ReadsAs members (entries.map fun entry => (some entry.1, entry.2)) ∧
      ∀ entry ∈ entries, entry.1 ∈ kind.fieldNames →
        ∃ s, entry.2 = .string (some s) ∧ r.Means entry.1 s := by
  induction h with
  | nil => exact ⟨[], rfl, .nil, fun _ hmem => absurd hmem List.not_mem_nil⟩
  | @cons m name members names hm _ ih =>
    obtain ⟨entries, hnames, hreads, hfields⟩ := ih
    obtain ⟨hkey, hvalue⟩ := hm
    obtain ⟨t, ht, hfield⟩ : ∃ t, Json.ReadsAs m.value.text t ∧
        (name ∈ kind.fieldNames → ∃ s, t = .string (some s) ∧ r.Means name s) := by
      split at hvalue
      next hname =>
        obtain ⟨s, hs, hmeans⟩ := hvalue
        exact ⟨.string (some s), Json.readsAs_spelled hs, fun _ => ⟨s, rfl, hmeans⟩⟩
      next hname =>
        obtain ⟨t, ht⟩ := Json.exists_readsAs hvalue
        exact ⟨t, ht, fun hmem => absurd hmem hname⟩
    refine ⟨(name, t) :: entries, congrArg (name :: ·) hnames,
      .cons ⟨Json.lexes_spelled hkey, ht⟩ hreads, ?_⟩
    exact List.forall_mem_cons.mpr ⟨hfield, hfields⟩

/-- The trees of fields stand for those of a record. That of the protection may be missing. -/
def StandFor (r : Record kind) (fields : List (String × Tree)) : Prop :=
  ∀ name written, (name, written) ∈ r.texts →
    (∃ s, Tree.find? fields name = some (.string (some s)) ∧ r.Means name s) ∨
      name = "encryption" ∧ r.payload.protection = .none ∧ Tree.find? fields name = none

/-- Those members of an object that are fields of the kind. -/
def fieldEntries (kind : Kind) (entries : List (String × Tree)) : List (String × Tree) :=
  entries.filter fun entry => kind.fieldNames.contains entry.1

theorem keys_fieldEntries (kind : Kind) (entries : List (String × Tree)) :
    (fieldEntries kind entries).map (·.1) =
      (entries.map (·.1)).filter kind.fieldNames.contains := by
  rw [fieldEntries, List.filter_map]
  rfl

/-- The members that are fields stand for those of a record if each of them does, and none is
missing but the tag of the protection. -/
theorem standFor_fieldEntries {r : Record kind} {entries : List (String × Tree)}
    (hentries : ∀ entry ∈ entries, entry.1 ∈ kind.fieldNames →
      ∃ s, entry.2 = .string (some s) ∧ r.Means entry.1 s)
    (hdistinct : ((fieldEntries kind entries).map (·.1)).Nodup)
    (hnames : ∀ name ∈ kind.fieldNames, name ∈ (fieldEntries kind entries).map (·.1) ∨
      name = "encryption" ∧ r.payload.protection = .none ∧
        name ∉ (fieldEntries kind entries).map (·.1)) :
    r.StandFor (fieldEntries kind entries) := by
  intro name written hwritten
  have hname : name ∈ kind.fieldNames := mem_fieldNames_of_mem_texts hwritten
  rcases hnames name hname with hmem | ⟨htag, hplain, hnot⟩
  · obtain ⟨⟨name, t⟩, hentry, rfl⟩ := List.mem_map.mp hmem
    obtain ⟨s, rfl, hmeans⟩ := hentries _ (List.mem_filter.mp hentry).1 hname
    exact Or.inl ⟨s, Tree.find?_of_mem hdistinct hentry, hmeans⟩
  · exact Or.inr ⟨htag, hplain, Tree.find?_of_notMem hnot⟩

/-- The fields of an object in which a record is written stand for those of the record. -/
theorem exists_fields {r : Record kind} {text : String} (h : r.IsWrittenIn text) :
    ∃ tree fields, Tree.ofBytes? (Text.utf8Bytes text) = some tree ∧
      Tree.fields? kind.fieldNames tree = some fields ∧ r.StandFor fields := by
  obtain ⟨whole, members, names, htext, hwhole, hwrites, hperm⟩ := h
  obtain ⟨entries, rfl, hreads, hentries⟩ := exists_entries hwrites
  rw [← keys_fieldEntries] at hperm
  have hdistinct : ((fieldEntries kind entries).map (·.1)).Nodup := by
    rcases hperm with hperm | ⟨-, hperm⟩
    · exact hperm.nodup_iff.mpr (nodup_fieldNames kind)
    · exact hperm.nodup_iff.mpr ((nodup_fieldNames kind).sublist List.erase_sublist)
  have htree : Tree.ofBytes? (Text.utf8Bytes text) =
      some (.object (entries.map fun entry => (some entry.1, entry.2))) := by
    rw [Text.utf8Bytes_eq_charBytes, htext]
    apply Json.ofBytes?_of_readsAs
    rw [hwhole]
    exact Json.readsAs_object hreads
  have hfields : Tree.fields? kind.fieldNames
      (.object (entries.map fun entry => (some entry.1, entry.2))) =
        some (fieldEntries kind entries) := by
    apply Tree.fields?_object_filter
    rwa [← keys_fieldEntries]
  refine ⟨_, _, htree, hfields, standFor_fieldEntries hentries hdistinct fun name hname => ?_⟩
  rcases hperm with hperm | ⟨hplain, hperm⟩
  · exact Or.inl (hperm.mem_iff.mpr hname)
  · by_cases htag : name = "encryption"
    · refine Or.inr ⟨htag, hplain, ?_⟩
      rw [hperm.mem_iff, htag]
      exact (nodup_fieldNames kind).not_mem_erase
    · exact Or.inl (hperm.mem_iff.mpr ((List.mem_erase_of_ne htag).mpr hname))

/-! ## Fields and records -/

/-- Each field is written in one way. -/
theorem eq_of_mem_texts {r : Record kind} {name s s' : String} (h : (name, s) ∈ r.texts)
    (h' : (name, s') ∈ r.texts) : s = s' := by
  have hdistinct : (r.texts.map (·.1)).Nodup := by
    rw [keys_texts]
    exact nodup_fieldNames kind
  exact congrArg (·.2) (List.inj_on_of_nodup_map hdistinct h h' rfl)

/-- A field that is no instant is found as it is written. -/
theorem StandFor.text {r : Record kind} {fields : List (String × Tree)} (h : r.StandFor fields)
    {name written : String} (hwritten : (name, written) ∈ r.texts)
    (hname : name ≠ "encryption" ∧ name ∉ instantNames) :
    Tree.required? Tree.text? fields name = some written := by
  rcases h name written hwritten with ⟨s, hfind, written', hwritten', hs⟩ | ⟨htag, -⟩
  · have hsame : s = written := by
      rcases hs with rfl | ⟨hinstant, -⟩
      · exact eq_of_mem_texts hwritten' hwritten
      · exact absurd hinstant hname.2
    rw [Tree.required?, hfind, hsame]
    rfl
  · exact absurd htag hname.1

theorem timestamp?_of_read {s : String} {t : Timestamp} (h : Timestamp.read s = .ok t) :
    Tree.timestamp? (.string (some s)) = some t := by
  rw [Tree.timestamp?, Tree.text?, Option.bind_some, h]
  rfl

theorem timestamp?_text (t : Timestamp) : Tree.timestamp? (.string (some t.text)) = some t :=
  timestamp?_of_read t.read_text

/-- A field that is an instant is found as the instant. -/
theorem StandFor.instant {r : Record kind} {fields : List (String × Tree)} (h : r.StandFor fields)
    {name : String} {t : Timestamp} (hwritten : (name, t.text) ∈ r.texts)
    (hname : name ≠ "encryption") :
    Tree.required? Tree.timestamp? fields name = some t := by
  rcases h name t.text hwritten with ⟨s, hfind, written', hwritten', hs⟩ | ⟨htag, -⟩
  · rw [eq_of_mem_texts hwritten' hwritten] at hs
    have hread : Timestamp.read s = .ok t := by
      rcases hs with rfl | ⟨-, t', ht, ht'⟩
      · exact t.read_text
      · rw [t.read_text] at ht
        cases ht
        exact ht'
    rw [Tree.required?, hfind, Option.bind_some, timestamp?_of_read hread]
  · exact absurd htag hname

theorem protection_ofTree?_tag (p : Protection) :
    Protection.ofTree? (.string (some p.tag)) = some p := by
  rw [Protection.ofTree?, Tree.caseName?, Option.bind_some, Protection.ofTag?_tag]

/-- The protection is found by its tag, or by the lack of one. -/
theorem StandFor.protection {r : Record kind} {fields : List (String × Tree)}
    (h : r.StandFor fields) :
    Tree.withDefault? .none Protection.ofTree? fields "encryption" =
      some r.payload.protection := by
  have hwritten : ("encryption", r.payload.protection.tag) ∈ r.texts := by
    cases kind <;> simp [texts]
  rcases h _ _ hwritten with ⟨s, hfind, written', hwritten', hs⟩ | ⟨-, hplain, hfind⟩
  · have hsame : s = r.payload.protection.tag := by
      rcases hs with rfl | ⟨hinstant, -⟩
      · exact eq_of_mem_texts hwritten' hwritten
      · exact absurd hinstant (by decide)
    rw [Tree.withDefault?, hfind, hsame]
    exact protection_ofTree?_tag _
  · rw [Tree.withDefault?, hfind, hplain]

/-- The fields that only records of the kind have are found. -/
theorem StandFor.special {r : Record kind} {fields : List (String × Tree)} (h : r.StandFor fields) :
    kind.fieldsOfTrees? fields = some r.fields := by
  cases kind with
  | claims =>
    have hupdated : Tree.required? Tree.timestamp? fields "updated_at" = some r.fields.updatedAt :=
      h.instant (by simp [texts]) (by decide)
    simp only [Kind.fieldsOfTrees?, hupdated]
    rfl
  | document =>
    have htitle : Tree.required? Tree.text? fields "title" = some r.fields.title :=
      h.text (by simp [texts]) (by decide)
    have htype : Tree.required? Tree.text? fields "content_type" = some r.fields.contentType :=
      h.text (by simp [texts]) (by decide)
    have hupdated : Tree.required? Tree.timestamp? fields "updated_at" = some r.fields.updatedAt :=
      h.instant (by simp [texts]) (by decide)
    simp only [Kind.fieldsOfTrees?, htitle, htype, hupdated]
    rfl
  | photo =>
    have hdocument : Tree.required? Tree.text? fields "document_id" = some r.fields.documentId :=
      h.text (by simp [texts]) (by decide)
    have htype : Tree.required? Tree.text? fields "content_type" = some r.fields.contentType :=
      h.text (by simp [texts]) (by decide)
    simp only [Kind.fieldsOfTrees?, hdocument, htype]
    rfl
  | attachment =>
    have hdocument : Tree.required? Tree.text? fields "document_id" = some r.fields.documentId :=
      h.text (by simp [texts]) (by decide)
    have hfile : Tree.required? Tree.text? fields "file_name" = some r.fields.fileName :=
      h.text (by simp [texts]) (by decide)
    have htype : Tree.required? Tree.text? fields "content_type" = some r.fields.contentType :=
      h.text (by simp [texts]) (by decide)
    simp only [Kind.fieldsOfTrees?, hdocument, hfile, htype]
    rfl

/-- A record is read from the trees that stand for its fields. -/
theorem ofTree?_of_standFor {r : Record kind} {tree : Tree} {fields : List (String × Tree)}
    (hfields : tree.fields? kind.fieldNames = some fields) (h : r.StandFor fields) :
    ofTree? kind tree = some r := by
  have hid : Tree.required? Tree.text? fields "id" = some r.id :=
    h.text (by cases kind <;> simp [texts]) (by decide)
  have howner : Tree.required? Tree.text? fields "user_id" = some r.owner :=
    h.text (by cases kind <;> simp [texts]) (by decide)
  have hstored : Tree.required? Tree.text? fields kind.payloadField = some r.payload.text :=
    h.text (by cases kind <;> simp [texts, Kind.payloadField]) (by cases kind <;> decide)
  have hcreated : Tree.required? Tree.timestamp? fields "created_at" = some r.createdAt :=
    h.instant (by cases kind <;> simp [texts]) (by decide)
  rw [ofTree?, hfields]
  simp [hid, howner, h.protection, hstored, hcreated, h.special]

theorem ofBytes?_of_isWrittenIn {r : Record kind} {text : String} (h : r.IsWrittenIn text) :
    ofBytes? kind (Text.utf8Bytes text) = some r := by
  obtain ⟨tree, fields, htree, hfields, hstand⟩ := exists_fields h
  rw [ofBytes?, htree, Option.bind_some, ofTree?_of_standFor hfields hstand]

/-- A record reads back from the bytes of its file. -/
theorem ofBytes?_toBytes (r : Record kind) : ofBytes? kind r.toBytes = some r :=
  ofBytes?_of_isWrittenIn r.isWrittenIn_pretty

/-- Every record is read back from every text in which it is written, its own file among them: its
fields stand there once each, in any order, with any blanks and escapes, beside any other members.
And whatever text a record was read from, its file holds the same record and is written alike when
that is read. -/
theorem reads_every_written_form (kind : Kind) :
    (∀ r : Record kind, ofBytes? kind r.toBytes = some r ∧
      ∀ text, r.IsWrittenIn text → ofBytes? kind (Text.utf8Bytes text) = some r) ∧
    ∀ (bytes : List UInt8) (r : Record kind), ofBytes? kind bytes = some r →
      ofBytes? kind r.toBytes = some r ∧
        (ofBytes? kind r.toBytes).map toBytes = some r.toBytes := by
  constructor
  · intro r
    exact ⟨r.ofBytes?_toBytes, fun text => ofBytes?_of_isWrittenIn⟩
  · intro bytes r _
    rw [r.ofBytes?_toBytes, Option.map_some]
    exact ⟨rfl, rfl⟩

/-! ### A text of another hand -/

/-- A part of a text with one blank before it. -/
def blankBefore (text : List Char) : Spaced :=
  ⟨[' '], text, [], Json.isBlanks_space, Json.isBlanks_nil⟩

/-- A string as it is between its quotes, with one blank before it. -/
def quotedPart (s : String) : Spaced := blankBefore ('"' :: (s.toList ++ ['"']))

theorem spellsString_quotedPart {s : String} (h : s.toList.all (Json.IsUnescaped ·) = true) :
    SpellsString (quotedPart s).text s :=
  ⟨s.toList, Json.spells_self h, rfl⟩

/-- Claims in plain text that were changed in a leap second. -/
def sampleClaims : Record .claims where
  id := "c1"
  owner := "alice"
  payload := .plain "Γ"
  createdAt := ⟨⟨2025, 1, 1, by decide⟩, 1800, 0, by decide⟩
  fields := (⟨⟨⟨2016, 12, 31, by decide⟩, 86399, 1500000000, by decide⟩⟩ : ClaimsFields)

/-- The items of an array: an escape of half a pair of surrogates and a number. -/
def sampleItems : List Spaced := [quotedPart "\\ud800", blankBefore "1.5e-3".toList]

/-- The members of a text of these claims, in an order of their own. -/
def sampleMembers : List Member :=
  [⟨quotedPart "note", blankBefore (Json.arrayChars sampleItems)⟩,
    ⟨quotedPart "updated_at", quotedPart "2016-12-31 23:59:60.5UTC"⟩,
    ⟨quotedPart "claims", quotedPart "\\u0393"⟩,
    ⟨quotedPart "created_at", quotedPart "2025-01-01T02:30:00+02:00"⟩,
    ⟨quotedPart "user_id", quotedPart "alice"⟩, ⟨quotedPart "id", quotedPart "c1"⟩]

/-- A text of these claims. It has a member that is no field, and no tag of the protection. -/
def sampleText : String :=
  "\x7b \"note\": [ \"\\ud800\", 1.5e-3], \"updated_at\": \"2016-12-31 23:59:60.5UTC\"," ++
    " \"claims\": \"\\u0393\", \"created_at\": \"2025-01-01T02:30:00+02:00\"," ++
    " \"user_id\": \"alice\", \"id\": \"c1\"\x7d"

theorem isValueText_sampleItems : IsValueText (Json.arrayChars sampleItems) := by
  refine .array (List.forall_mem_cons.mpr ⟨?_, List.forall_mem_singleton.mpr ?_⟩)
  · refine .string ⟨_, @Json.IsStringBody.unit 0xd800 ['d', '8', '0', '0'] [] ?_ .nil, rfl⟩
    exact ⟨'d', '8', '0', '0', 13, 8, 0, 0, rfl, rfl, by decide⟩
  · have hdigits {c : Char} (hc : c.isDigit = true) : Json.IsDigits [c] :=
      ⟨List.cons_ne_nil c [], List.forall_mem_singleton.mpr hc⟩
    refine .number (@Json.IsNumberText.positive ['1'] ['.', '5'] ['e', '-', '3'] ?_ ?_ ?_)
    · exact ⟨hdigits (by decide), by decide⟩
    · exact .present (hdigits (by decide))
    · exact @Json.IsExponent.present 'e' ['-'] ['3'] (.inl rfl) (.inr (.inr rfl))
        (hdigits (by decide))

theorem isWrittenIn_sampleText : sampleClaims.IsWrittenIn sampleText := by
  have hletter : SpellsString (quotedPart "\\u0393").text "Γ" := by
    refine ⟨_, @Json.Spells.unit 'Γ' ['0', '3', '9', '3'] [] [] ?_ .nil, rfl⟩
    exact ⟨'0', '3', '9', '3', 0, 3, 9, 3, rfl, rfl, by decide⟩
  have hupdated : sampleClaims.Means "updated_at" "2016-12-31 23:59:60.5UTC" :=
    means_of_read (t := sampleClaims.fields.updatedAt) (by decide) (by decide) (by decide +kernel)
  have hcreated : sampleClaims.Means "created_at" "2025-01-01T02:30:00+02:00" :=
    means_of_read (t := sampleClaims.createdAt) (by decide) (by decide) (by decide +kernel)
  refine ⟨⟨[], objectChars sampleMembers, [], Json.isBlanks_nil, Json.isBlanks_nil⟩, sampleMembers,
    ["note", "updated_at", "claims", "created_at", "user_id", "id"], by decide +kernel, rfl, ?_,
    .inr ⟨rfl, by decide⟩⟩
  refine .cons ?note (.cons ?updated (.cons ?claims (.cons ?created (.cons ?owner
    (.cons ?id .nil)))))
  case note => exact ⟨spellsString_quotedPart (by decide), isValueText_sampleItems⟩
  case updated =>
    exact writes_of_means (spellsString_quotedPart (by decide))
      (spellsString_quotedPart (by decide)) hupdated
  case claims =>
    exact writes_of_means (spellsString_quotedPart (by decide)) hletter (means_of_mem (by decide))
  case created =>
    exact writes_of_means (spellsString_quotedPart (by decide))
      (spellsString_quotedPart (by decide)) hcreated
  case owner =>
    exact writes_of_means (spellsString_quotedPart (by decide))
      (spellsString_quotedPart (by decide)) (means_of_mem (by decide))
  case id =>
    exact writes_of_means (spellsString_quotedPart (by decide))
      (spellsString_quotedPart (by decide)) (means_of_mem (by decide))

/-- The claims are read from the text, and their file then keeps them. -/
theorem reads_every_written_form_of_claims :
    sampleClaims.IsWrittenIn sampleText ∧
      ofBytes? .claims (Text.utf8Bytes sampleText) = some sampleClaims ∧
      (ofBytes? .claims sampleClaims.toBytes).map toBytes = some sampleClaims.toBytes := by
  have hread : ofBytes? .claims (Text.utf8Bytes sampleText) = some sampleClaims :=
    ((reads_every_written_form .claims).1 sampleClaims).2 sampleText isWrittenIn_sampleText
  exact ⟨isWrittenIn_sampleText, hread,
    ((reads_every_written_form .claims).2 _ sampleClaims hread).2⟩

end Record

end SealedVault
