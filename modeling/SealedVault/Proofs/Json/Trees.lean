import SealedVault.Json.Tree

/-!
# Trees from their tokens

Every tree has a list of tokens, in which the items of an array and the members of an object are
separated by commas. These tokens read back as the tree, in the middle of any others and under any
arrays and objects that are still open.
-/

namespace SealedVault.Json.Tree

mutual

/-- The tokens of a tree. -/
def tokens : Tree → List Token
  | .null => [.null]
  | .bool value => [.bool value]
  | .number numeral => [.number numeral]
  | .string text => [.string text]
  | .array [] => [.openBracket, .closeBracket]
  | .array (first :: rest) => .openBracket :: (first.tokens ++ moreItems rest)
  | .object [] => [.openBrace, .closeBrace]
  | .object ((key, first) :: rest) =>
    .openBrace :: .string key :: .colon :: (first.tokens ++ moreMembers rest)

/-- The tokens of the further items of an array, with its end. -/
def moreItems : List Tree → List Token
  | [] => [.closeBracket]
  | item :: rest => .comma :: (item.tokens ++ moreItems rest)

/-- The tokens of the further members of an object, with its end. -/
def moreMembers : List (Option String × Tree) → List Token
  | [] => [.closeBrace]
  | (key, value) :: rest =>
    .comma :: .string key :: .colon :: (value.tokens ++ moreMembers rest)

end

/-- No tree begins with the end of an array. -/
theorem readValue_openBracket_tokens (stack : List Frame) (t : Tree) (rest : List Token) :
    readValue stack (.openBracket :: (t.tokens ++ rest)) =
      readValue (.items [] :: stack) (t.tokens ++ rest) := by
  match t with
  | .null => rfl
  | .bool _ => rfl
  | .number _ => rfl
  | .string _ => rfl
  | .array [] => rfl
  | .array (_ :: _) => rfl
  | .object [] => rfl
  | .object ((_, _) :: _) => rfl

mutual

/-- The tokens of a tree read back as the tree. -/
theorem readValue_tokens (t : Tree) (stack : List Frame) (rest : List Token) :
    readValue stack (t.tokens ++ rest) = readAfter stack t rest := by
  match t with
  | .null => rfl
  | .bool _ => rfl
  | .number _ => rfl
  | .string _ => rfl
  | .array [] => rfl
  | .array (first :: items) =>
    rw [tokens, List.cons_append, List.append_assoc, readValue_openBracket_tokens,
      readValue_tokens first, readAfter_moreItems items]
    rfl
  | .object [] => rfl
  | .object ((key, first) :: members) =>
    rw [tokens, List.cons_append, List.cons_append, List.cons_append, List.append_assoc,
      readValue, readValue_tokens first, readAfter_moreMembers members]
    rfl

/-- The further items of an array are added to those that were read. -/
theorem readAfter_moreItems (items : List Tree) (stack : List Frame) (read : List Tree)
    (value : Tree) (rest : List Token) :
    readAfter (.items read :: stack) value (moreItems items ++ rest) =
      readAfter stack (.array (read.reverse ++ value :: items)) rest := by
  match items with
  | [] =>
    rw [moreItems, List.singleton_append, readAfter, List.reverse_cons]
  | item :: items =>
    rw [moreItems, List.cons_append, List.append_assoc, readAfter, readValue_tokens item,
      readAfter_moreItems items, List.reverse_cons, List.append_assoc, List.singleton_append]

/-- The further members of an object are added to those that were read. -/
theorem readAfter_moreMembers (members : List (Option String × Tree)) (stack : List Frame)
    (read : List (Option String × Tree)) (key : Option String) (value : Tree)
    (rest : List Token) :
    readAfter (.members read key :: stack) value (moreMembers members ++ rest) =
      readAfter stack (.object (read.reverse ++ (key, value) :: members)) rest := by
  match members with
  | [] =>
    rw [moreMembers, List.singleton_append, readAfter, List.reverse_cons]
  | (next, item) :: members =>
    rw [moreMembers, List.cons_append, List.cons_append, List.cons_append, List.append_assoc,
      readAfter, readValue_tokens item, readAfter_moreMembers members, List.reverse_cons,
      List.append_assoc, List.singleton_append]

end

theorem ofTokens?_tokens (t : Tree) : ofTokens? t.tokens = some t := by
  have h := readValue_tokens t [] []
  rw [List.append_nil] at h
  rw [ofTokens?, h, readAfter]
  rfl

/-- The fields of an object whose keys all have a text are its members with known keys, if these are
distinct. -/
theorem fields?_object_filter {names : List String} {members : List (String × Tree)}
    (hdistinct : ((members.map (·.1)).filter names.contains).Nodup) :
    fields? names (.object (members.map fun member => (some member.1, member.2))) =
      some (members.filter fun member => names.contains member.1) := by
  have hkeys :
      (members.map fun member => (some member.1, member.2)).mapM
          (fun member => member.1.map fun key => (key, member.2)) = some members := by
    clear hdistinct
    induction members with
    | nil => rfl
    | cons member rest ih =>
      rw [List.map_cons, List.mapM_cons, ih]
      rfl
  have hnamed : namedMembers? names (members.map fun member => (some member.1, member.2)) =
      (some members).bind fun members =>
        let known := members.filter fun member => names.contains member.1
        if (known.map (·.1)).Nodup then some known else none := by
    rw [← hkeys]
    rfl
  rw [List.filter_map] at hdistinct
  rw [fields?, hnamed, Option.bind_some]
  exact if_pos hdistinct

/-- The fields of an object whose keys are distinct and all known are its members. -/
theorem fields?_object
    {names : List String} {members : List (String × Tree)}
    (hknown : ∀ member ∈ members, member.1 ∈ names)
    (hdistinct : (members.map (·.1)).Nodup) :
    fields? names (.object (members.map fun member => (some member.1, member.2))) =
      some members := by
  have hfilter : members.filter (fun member => names.contains member.1) = members := by
    rw [List.filter_eq_self]
    intro member hmember
    simpa using hknown member hmember
  rw [fields?_object_filter (hdistinct.sublist List.filter_sublist), hfilter]

/-- Where the keys are distinct, a member is found under its key. -/
theorem find?_of_mem {members : List (String × Tree)} {name : String} {t : Tree}
    (hdistinct : (members.map (·.1)).Nodup) (h : (name, t) ∈ members) :
    find? members name = some t := by
  induction members with
  | nil => cases h
  | cons member rest ih =>
    rw [List.map_cons, List.nodup_cons] at hdistinct
    rcases List.mem_cons.mp h with rfl | h
    · simp [find?]
    · have hne : member.1 ≠ name := by
        rintro rfl
        exact hdistinct.1 (List.mem_map.mpr ⟨_, h, rfl⟩)
      have hrest := ih hdistinct.2 h
      rw [find?, List.find?_cons_of_neg (by simpa using hne)]
      exact hrest

theorem find?_of_notMem {members : List (String × Tree)} {name : String}
    (h : name ∉ members.map (·.1)) : find? members name = none := by
  rw [find?, Option.map_eq_none_iff, List.find?_eq_none]
  intro member hmember hname
  apply h
  rw [← of_decide_eq_true hname]
  exact List.mem_map_of_mem hmember

end SealedVault.Json.Tree
