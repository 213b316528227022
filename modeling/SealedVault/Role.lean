import SealedVault.Text.Lowercase

/-!
# Roles and callers

The three roles, the privileges they carry, and the caller of an operation.
-/

namespace SealedVault

/-- What a caller may be. -/
inductive Role where
  | admin
  | user
  | auditor
deriving Repr, DecidableEq

namespace Role

/-- Every role. -/
def all : List Role := [admin, user, auditor]

/-- The name of the role. -/
def name : Role → String
  | admin => "admin"
  | user => "user"
  | auditor => "auditor"

/-- The role with exactly this name. -/
def ofName? (name : String) : Option Role := all.find? (·.name = name)

/-- The role that a text names in any case of its letters; otherwise what is wrong with it. -/
def parse (s : String) : Except String Role :=
  let lower := Text.lowercase s
  match ofName? lower with
  | some role => .ok role
  | none => .error ("unknown role: " ++ lower)

/-- An admin has every privilege, anyone else only those of the own role. -/
def hasPrivilege (role required : Role) : Bool := role = admin || role = required

/-- An admin may access the records of others. -/
def bypassesOwnership (role : Role) : Bool := role = admin

@[simp] theorem ofName?_name (role : Role) : ofName? role.name = some role := by
  cases role <;> simp [ofName?, all, name]

end Role

/-- Who asks for an operation. -/
structure Caller where
  userId : String
  role : Role
deriving Repr, DecidableEq

end SealedVault
