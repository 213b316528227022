import SealedVault.Proofs.Text.LetterCase
import SealedVault.Role

/-!
# The texts that name a role

The name of a role is written in lower case within ASCII, without the letter k and without blanks.
So a text names a role if and only if it is the name of that role in some case of its ASCII letters,
and one with a character that is foreign to such words names none. Every text that names no role is
refused, and the refusal shows its lower-case form.
-/

namespace SealedVault.Role

open Text (SameButCase HasForeignChar)

variable {s : String} {role : Role}

theorem isPlainWord_name (role : Role) : Text.isPlainWord role.name = true := by
  cases role <;> decide +kernel

theorem isBlank_of_mem_name {c : Char} (hc : c ∈ role.name.toList) : Text.isBlank c = false := by
  have hall : (role.name.toList.all fun c => !Text.isBlank c) = true := by
    cases role <;> decide +kernel
  simpa using List.all_eq_true.mp hall c hc

theorem ofName?_eq_some_iff {name : String} : ofName? name = some role ↔ name = role.name := by
  constructor
  · intro h
    rw [ofName?] at h
    have hname := List.find?_some h
    exact (of_decide_eq_true hname).symm
  · rintro rfl
    exact ofName?_name role

theorem ofName?_eq_none_iff {name : String} :
    ofName? name = none ↔ ∀ role : Role, name ≠ role.name := by
  simp only [Option.eq_none_iff_forall_ne_some, ne_eq, ofName?_eq_some_iff]

/-- A text is the lower-case form of a role's name if and only if it is that name in some case. -/
theorem lowercase_eq_name_iff : Text.lowercase s = role.name ↔ SameButCase s role.name :=
  Text.lowercase_eq_iff (isPlainWord_name role)

theorem parse_eq_ok_iff : parse s = .ok role ↔ SameButCase s role.name := by
  rw [← lowercase_eq_name_iff, ← ofName?_eq_some_iff, parse]
  split
  next found h => rw [h, Except.ok.injEq, Option.some.injEq]
  next h => simp [h]

theorem parse_eq_error_iff {message : String} :
    parse s = .error message ↔ (∀ role : Role, ¬SameButCase s role.name) ∧
      message = "unknown role: " ++ Text.lowercase s := by
  simp only [← lowercase_eq_name_iff, ← ne_eq]
  rw [← ofName?_eq_none_iff, parse]
  split
  next found h => simp [h]
  next h => rw [Except.error.injEq, eq_comm, and_iff_right h]

/-- A text names a role if and only if it is the role's name in some case of its ASCII letters. Any
other text is refused with its lower-case form, among them each text with a character outside ASCII,
a blank, or a character that becomes several in lower case. The name of a role names that role. -/
theorem only_names_make_roles (s : String) :
    (∀ role, parse s = .ok role ↔ SameButCase s role.name) ∧
      (∀ message, parse s = .error message ↔ (∀ role : Role, ¬SameButCase s role.name) ∧
        message = "unknown role: " ++ Text.lowercase s) ∧
      (HasForeignChar s → parse s = .error ("unknown role: " ++ Text.lowercase s)) ∧
      ∀ role : Role, parse role.name = .ok role := by
  refine ⟨fun _ => parse_eq_ok_iff, fun _ => parse_eq_error_iff, fun hforeign => ?_,
    fun role => parse_eq_ok_iff.mpr rfl⟩
  refine parse_eq_error_iff.mpr ⟨fun role hsame => ?_, rfl⟩
  exact Text.not_hasForeignChar_of_sameButCase (isPlainWord_name role)
    (fun _ hc => isBlank_of_mem_name hc) hsame hforeign

/-- The capital I with a dot makes no admin, an em space and a long s make no user. -/
theorem foreign_texts_make_no_role :
    parse "aUdItOr" = .ok auditor ∧
      HasForeignChar "ADMİN" ∧ parse "ADMİN" = .error "unknown role: admi\u0307n" ∧
      HasForeignChar "User\u2003" ∧ parse "User\u2003" = .error "unknown role: user\u2003" ∧
      HasForeignChar "UſER" ∧ parse "UſER" = .error "unknown role: uſer" := by
  have hdotted : HasForeignChar "ADMİN" :=
    ⟨['A', 'D', 'M'], 'İ', ['N'], rfl, .inr (.inr (by decide +kernel))⟩
  have hspace : HasForeignChar "User\u2003" :=
    ⟨['U', 's', 'e', 'r'], '\u2003', [], rfl, .inr (.inl (by decide +kernel))⟩
  have hlong : HasForeignChar "UſER" := ⟨['U'], 'ſ', ['E', 'R'], rfl, .inl (by decide)⟩
  refine ⟨?_, hdotted, ?_, hspace, ?_, hlong, ?_⟩
  · obtain ⟨hnamed, -⟩ := only_names_make_roles "aUdItOr"
    exact (hnamed auditor).mpr (by unfold SameButCase; decide +kernel)
  · obtain ⟨-, -, hrefused, -⟩ := only_names_make_roles "ADMİN"
    rw [hrefused hdotted]
    exact congrArg Except.error (by decide +kernel)
  · obtain ⟨-, -, hrefused, -⟩ := only_names_make_roles "User\u2003"
    rw [hrefused hspace]
    exact congrArg Except.error (by decide +kernel)
  · obtain ⟨-, -, hrefused, -⟩ := only_names_make_roles "UſER"
    rw [hrefused hlong]
    exact congrArg Except.error (by decide +kernel)

end SealedVault.Role
