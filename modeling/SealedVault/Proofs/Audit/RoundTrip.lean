import Mathlib.Data.List.Basic
import SealedVault.Audit.Log
import SealedVault.Proofs.Json.Values
import SealedVault.Proofs.Record.RoundTrip

/-!
# Events read back from their lines

An event that can be stored is printed as one line and reads back from it field by field. Lines that
are complete can be put one after the other: the events of the whole are those of the parts.
-/

namespace SealedVault.Audit

open Json (Value Tree)
open Text (charBytes isBlank)

/-! ## Fields -/

namespace Event

/-- The details of the event, if it has any, are not null and could have been read: they have no
double, their whole numbers fit 64 bits, the keys of their objects ascend, and they are not nested
deeper than a reader allows below the event. -/
def IsStorable (e : Event) : Prop :=
  ∀ details, e.details = some details → details ≠ .null ∧ details.Fits (Value.depthLimit - 1)

/-- The fields of the tree of an event. -/
def fieldTrees (e : Event) : List (String × Tree) :=
  [("event_id", .string (some e.eventId)), ("timestamp", .string (some e.timestamp.text)),
    ("event_type", .string (some e.eventType.name)), ("user_id", (orNull .text e.user).tree),
    ("resource_id", (orNull .text e.resourceId).tree),
    ("resource_type", (orNull .text e.resourceType).tree),
    ("details", (orNull id e.details).tree), ("success", .bool e.success),
    ("error", (orNull .text e.error).tree)]

theorem fields?_tree (e : Event) : e.toJson.tree.fields? fieldNames = some e.fieldTrees := by
  have hknown : ∀ member ∈ e.fieldTrees, member.1 ∈ fieldNames := by
    simp [fieldTrees, fieldNames]
  exact Tree.fields?_object hknown (by simp [fieldTrees])

theorem isWhole_orNull_text (text : Option String) : (orNull Value.text text).IsWhole := by
  cases text <;> trivial

theorem IsStorable.isWhole {e : Event} (h : e.IsStorable) : e.toJson.IsWhole := by
  have hdetails : (orNull id e.details).IsWhole := by
    cases hdetails : e.details with
    | none => trivial
    | some details => exact Value.isWhole_of_fits details (h details hdetails).2
  exact ⟨trivial, trivial, trivial, isWhole_orNull_text _, isWhole_orNull_text _,
    isWhole_orNull_text _, hdetails, trivial, isWhole_orNull_text _, trivial⟩

/-- A value that may be missing is read back from its tree. -/
theorem optional?_orNull {α : Type} {toJson : α → Value} {read : Tree → Option α}
    {fields : List (String × Tree)} {name : String} {value : Option α}
    (hfind : Tree.find? fields name = some (orNull toJson value).tree)
    (hread : ∀ a, value = some a →
      (toJson a).tree ≠ .null ∧ read (toJson a).tree = some a) :
    Tree.optional? read fields name = some value := by
  rw [Tree.optional?, hfind]
  cases value with
  | none => rfl
  | some a =>
    obtain ⟨hne, hread⟩ := hread a rfl
    simp only [orNull, hread]
    rfl

theorem optional?_text {fields : List (String × Tree)} {name : String} {text : Option String}
    (hfind : Tree.find? fields name = some (orNull .text text).tree) :
    Tree.optional? Tree.text? fields name = some text :=
  optional?_orNull hfind fun _ _ => ⟨nofun, rfl⟩

theorem tree_ne_null {v : Value} (h : v ≠ .null) : v.tree ≠ .null := by
  cases v with
  | null => exact absurd rfl h
  | _ => nofun

theorem eventType_ofTree?_name (t : EventType) :
    EventType.ofTree? (.string (some t.name)) = some t := by
  cases t <;> decide

/-- An event that can be stored is read back from its tree. -/
theorem ofTree?_tree {e : Event} (h : e.IsStorable) : ofTree? e.toJson.tree = some e := by
  have hdetails : Tree.optional? (Value.ofTree? (Value.depthLimit - 1)) e.fieldTrees "details" =
      some e.details := by
    have hfind : Tree.find? e.fieldTrees "details" = some (orNull id e.details).tree := rfl
    exact optional?_orNull hfind fun details hdetails =>
      ⟨tree_ne_null (h details hdetails).1, Value.ofTree?_tree details (h details hdetails).2⟩
  have huser : Tree.optional? Tree.text? e.fieldTrees "user_id" = some e.user :=
    optional?_text rfl
  have hid : Tree.optional? Tree.text? e.fieldTrees "resource_id" = some e.resourceId :=
    optional?_text rfl
  have htype : Tree.optional? Tree.text? e.fieldTrees "resource_type" = some e.resourceType :=
    optional?_text rfl
  have herror : Tree.optional? Tree.text? e.fieldTrees "error" = some e.error :=
    optional?_text rfl
  have heventId : Tree.required? Tree.text? e.fieldTrees "event_id" = some e.eventId := rfl
  have htime : Tree.required? Tree.timestamp? e.fieldTrees "timestamp" = some e.timestamp :=
    Record.timestamp?_text e.timestamp
  have heventType : Tree.required? EventType.ofTree? e.fieldTrees "event_type" =
      some e.eventType := eventType_ofTree?_name e.eventType
  have hsuccess : Tree.required? Tree.bool? e.fieldTrees "success" = some e.success := rfl
  rw [ofTree?, fields?_tree]
  simp only [Option.bind_eq_bind, Option.bind_some, heventId, htime, heventType, huser, hid, htype,
    hdetails, hsuccess, herror]
  rfl

/-- An event that can be stored is read back from the text of its line. -/
theorem ofBytes?_compact {e : Event} (h : e.IsStorable) :
    ofBytes? (Text.utf8Bytes e.toJson.compact) = some e := by
  rw [ofBytes?, Value.ofBytes?_compact h.isWhole, Option.bind_some, ofTree?_tree h]

end Event

/-! ## Lines -/

theorem splitLines_append_newline (line first rest : List Char) :
    splitLines line (first ++ '\n' :: rest) = splitLines line first ++ splitLines [] rest := by
  induction first generalizing line with
  | nil => simp [splitLines]
  | cons c first ih =>
    by_cases hc : c = '\n'
    · simp [splitLines, hc, ih]
    · simp [splitLines, hc, ih]

theorem splitLines_of_notMem (line : List Char) {cs : List Char} (h : '\n' ∉ cs) :
    splitLines line cs = [line.reverse ++ cs] := by
  induction cs generalizing line with
  | nil => simp [splitLines]
  | cons c rest ih =>
    rw [List.mem_cons, not_or] at h
    rw [splitLines, if_neg (Ne.symm h.1), ih (c :: line) h.2]
    simp

/-- The bytes are complete lines: there are none, or the last one ends a line. -/
def IsComplete (bytes : List UInt8) : Prop :=
  bytes = [] ∨ bytes.getLast? = some (Json.ascii '\n')

instance (bytes : List UInt8) : Decidable (IsComplete bytes) :=
  inferInstanceAs (Decidable (_ ∨ _))

/-- No other character ends in the byte that ends a line. -/
theorem eq_newline_of_getLast? {c : Char}
    (h : (String.utf8EncodeChar c).getLast? = some (Json.ascii '\n')) : c = '\n' := by
  by_cases hc : c.toNat < 128
  · rw [Text.utf8EncodeChar_of_lt hc, List.getLast?_singleton] at h
    rw [← Char.toNat_inj, ← Text.toNat_ascii hc, Option.some.inj h,
      Text.toNat_ascii (by decide)]
  · have hhigh := Text.le_of_mem_utf8EncodeChar (Nat.le_of_not_lt hc) (List.mem_of_getLast? h)
    exact absurd hhigh (by decide)

theorem toList_of_isComplete {content : String} (h : IsComplete (Text.utf8Bytes content)) :
    content.toList = [] ∨ ∃ lines, content.toList = lines ++ ['\n'] := by
  rw [Text.utf8Bytes_eq_charBytes] at h
  rcases List.eq_nil_or_concat content.toList with hnil | ⟨lines, c, hlast⟩
  · exact Or.inl hnil
  · rw [List.concat_eq_append] at hlast
    have hne := String.utf8EncodeChar_ne_nil (c := c)
    have hend : (charBytes (lines ++ [c])).getLast? = (String.utf8EncodeChar c).getLast? := by
      rw [Text.charBytes_append, Text.charBytes_cons, Text.charBytes_nil, List.append_nil,
        List.getLast?_append_of_ne_nil _ hne]
    rw [hlast] at h
    rcases h with hnone | hnewline
    · simp [hne] at hnone
    · rw [hend] at hnewline
      rw [eq_newline_of_getLast? hnewline] at hlast
      exact Or.inr ⟨lines, hlast⟩

/-- Behind complete lines, the lines of more text are added. -/
theorem eventLines_append {content : String} (h : IsComplete (Text.utf8Bytes content))
    (more : String) : eventLines (content ++ more) = eventLines content ++ eventLines more := by
  rcases toList_of_isComplete h with hnil | ⟨lines, hlines⟩
  · simp [eventLines, hnil, splitLines]
  · have hall := splitLines_append_newline [] lines more.toList
    have hfirst := splitLines_append_newline [] lines []
    simp [eventLines, hlines, hall, hfirst, splitLines]

theorem decodeUtf8_utf8Bytes (content : String) :
    Text.decodeUtf8 (Text.utf8Bytes content) = .ok content := by
  rw [Text.decodeUtf8, Text.ofUtf8Bytes?_utf8Bytes]

theorem utf8Bytes_of_decodeUtf8 {bytes : List UInt8} {content : String}
    (h : Text.decodeUtf8 bytes = .ok content) : Text.utf8Bytes content = bytes := by
  rw [Text.decodeUtf8] at h
  split at h
  next hsome =>
    cases h
    exact Text.utf8Bytes_of_ofUtf8Bytes? hsome
  · cases h

theorem exists_content_of_readContent {bytes : List UInt8} {events : List Event}
    (h : readContent bytes = .ok events) :
    ∃ content, Text.utf8Bytes content = bytes ∧
      (eventLines content).mapM readLine = .ok events := by
  rw [readContent] at h
  split at h
  next content hdecode => exact ⟨content, utf8Bytes_of_decodeUtf8 hdecode, h⟩
  · cases h

theorem readContent_utf8Bytes (content : String) :
    readContent (Text.utf8Bytes content) = (eventLines content).mapM readLine := by
  rw [readContent, decodeUtf8_utf8Bytes]

theorem readContent_nil : readContent [] = .ok [] := by
  have hlines : eventLines "" = [] := by simp [eventLines, splitLines]
  have h := readContent_utf8Bytes ""
  rw [hlines] at h
  exact h

/-- The events of complete lines and of more lines are read one after the other. -/
theorem readContent_append {bytes more : List UInt8} {events moreEvents : List Event}
    (hcomplete : IsComplete bytes) (h : readContent bytes = .ok events)
    (hmore : readContent more = .ok moreEvents) :
    readContent (bytes ++ more) = .ok (events ++ moreEvents) := by
  obtain ⟨content, rfl, hevents⟩ := exists_content_of_readContent h
  obtain ⟨rest, rfl, hrest⟩ := exists_content_of_readContent hmore
  have hbytes :
      Text.utf8Bytes content ++ Text.utf8Bytes rest = Text.utf8Bytes (content ++ rest) := by
    simp [Text.utf8Bytes_eq_charBytes]
  rw [hbytes, readContent_utf8Bytes, eventLines_append hcomplete, List.mapM_append, hevents, hrest]
  rfl

/-! ## The line of an event -/

theorem toList_line (e : Event) : e.line.toList = e.toJson.compactChars ++ ['\n'] := by
  rw [Event.line, String.toList_append, Value.compact, String.toList_ofList]
  rfl

theorem isComplete_append_line (bytes : List UInt8) (e : Event) :
    IsComplete (bytes ++ Text.utf8Bytes e.line) := by
  right
  have hnewline : charBytes ['\n'] = [Json.ascii '\n'] := rfl
  rw [Text.utf8Bytes_eq_charBytes, toList_line, Text.charBytes_append, hnewline,
    ← List.append_assoc, List.getLast?_concat]

/-- The line of an event that can be stored is read back as the event, and as nothing else. -/
theorem readContent_line {e : Event} (h : e.IsStorable) :
    readContent (Text.utf8Bytes e.line) = .ok [e] := by
  have hone := (Value.isPrintable_compactChars e.toJson h.isWhole).newline_notMem
  have hblank : e.toJson.compactChars.all isBlank = false := by
    rw [Event.toJson, Value.compactChars]
    exact List.all_eq_false.mpr ⟨'\x7b', by simp, by decide⟩
  have hlines : eventLines e.line = [e.toJson.compact] := by
    rw [eventLines, toList_line, splitLines_append_newline, splitLines_of_notMem _ hone]
    simp [splitLines, hblank, Value.compact]
  have hread : readLine e.toJson.compact = .ok e := by
    rw [readLine, Event.ofBytes?_compact h]
  rw [readContent_utf8Bytes, hlines, List.mapM_cons, hread]
  rfl

end SealedVault.Audit
