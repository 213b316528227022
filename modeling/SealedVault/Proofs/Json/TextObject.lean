import SealedVault.Proofs.Json.Grammar

/-!
# Objects of texts

An object whose members are all texts is printed with a line for each of them. What is printed is
the text of an object with these members, in their order.
-/

namespace SealedVault.Json

/-- The members of an object of texts. -/
def textMembers (members : List (String × String)) : List (String × Value) :=
  members.map fun (key, text) => (key, .text text)

theorem isBlanks_newLine (level : Nat) : IsBlanks (Value.newLine level) := by
  intro c hc
  rcases List.mem_cons.mp hc with rfl | hc
  · exact .inr (.inl rfl)
  · exact .inl (List.eq_of_mem_replicate hc)

/-- A member of an object of texts, as it is printed on a line of its own. -/
def printedMember (key text : String) (after : List Char) (hafter : IsBlanks after) : Member where
  key := ⟨Value.newLine 1, stringChars key, [], isBlanks_newLine 1, isBlanks_nil⟩
  value := ⟨[' '], stringChars text, after, isBlanks_space, hafter⟩

/-- The members of an object of texts as they are printed. The last one has the end of its line. -/
def printedMembers : List (String × String) → List Member
  | [] => []
  | [(key, text)] => [printedMember key text (Value.newLine 0) (isBlanks_newLine 0)]
  | (key, text) :: next :: more =>
    printedMember key text [] isBlanks_nil :: printedMembers (next :: more)

theorem join_cons_of_ne_nil {separator first : List Char} {rest : List (List Char)}
    (h : rest ≠ []) :
    Value.join separator (first :: rest) = first ++ (separator ++ Value.join separator rest) := by
  obtain ⟨next, more, rfl⟩ := List.exists_cons_of_ne_nil h
  simp [Value.join]

/-- The lines of a printed object with the ends of the lines around them. -/
theorem join_printedMembers {members : List (String × String)} (h : members ≠ []) :
    Value.join [','] ((printedMembers members).map Member.chars) =
      Value.newLine 1 ++ (Value.join (',' :: Value.newLine 1)
        (Value.prettyMembers 1 (textMembers members)) ++ Value.newLine 0) := by
  induction members with
  | nil => exact absurd rfl h
  | cons member rest ih =>
    obtain ⟨key, text⟩ := member
    cases rest with
    | nil =>
      simp [printedMembers, printedMember, Value.join, Member.chars, Spaced.chars, textMembers,
        Value.prettyMembers, Value.prettyChars]
    | cons next more =>
      have hrest := ih (by simp)
      have hne : (printedMembers (next :: more)).map Member.chars ≠ [] := by
        cases more <;> simp [printedMembers]
      have hlines : Value.prettyMembers 1 (textMembers ((key, text) :: next :: more)) =
          (stringChars key ++ ':' :: ' ' :: stringChars text) ::
            Value.prettyMembers 1 (textMembers (next :: more)) := rfl
      have hne' : Value.prettyMembers 1 (textMembers (next :: more)) ≠ [] :=
        List.cons_ne_nil _ _
      rw [printedMembers, List.map_cons, join_cons_of_ne_nil hne, hrest, hlines,
        join_cons_of_ne_nil hne']
      simp [printedMember, Member.chars, Spaced.chars]

/-- A printed object of texts is the text of an object with these members. -/
theorem pretty_textMembers {members : List (String × String)} (h : members ≠ []) :
    (Value.object (textMembers members)).pretty.toList = objectChars (printedMembers members) := by
  have hlines : (Value.prettyMembers 1 (textMembers members)).isEmpty = false := by
    cases members with
    | nil => exact absurd rfl h
    | cons member rest => rfl
  rw [Value.pretty, String.toList_ofList, Value.prettyChars, Value.block, hlines, objectChars,
    join_printedMembers h]
  simp

end SealedVault.Json
