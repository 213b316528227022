import SealedVault.Disk.Access
import SealedVault.Proofs.Disk.Entries

/-!
# Walking along directories

A walk along names that all lead to directories depends on nothing but these directories. It goes
the same way on any disk that still has them, and making directories along it changes nothing.
-/

namespace SealedVault.Disk

variable {d d' : Disk} {place q : Place} {names : List String} {through last : Fault}

/-- Follows names that must all lead to directories. -/
def descend (d : Disk) (place : Place) : List String → Except Fault Place
  | [] => .ok place
  | name :: rest =>
    if name = ".." then descend d place.dropLast rest
    else if nameLimit < name.utf8ByteSize then .error .tooLong
    else
      match d.get? (place ++ [name]) with
      | some .directory => descend d (place ++ [name]) rest
      | some (.file _) => .error .notDirectory
      | none => .error .missing

theorem descend_append (d : Disk) (place : Place) (names more : List String) :
    d.descend place (names ++ more) =
      (d.descend place names).bind fun q => d.descend q more := by
  induction names generalizing place with
  | nil => rfl
  | cons name rest ih =>
    simp only [List.cons_append, descend]
    split
    · exact ih _
    split
    · rfl
    split
    · exact ih _
    · rfl
    · rfl

/-- A walk goes through directories up to the last name. -/
theorem walk_append (d : Disk) (place : Place) (names : List String) (name : String)
    (more : List String) :
    d.walk place (names ++ name :: more) =
      (d.descend place names).bind fun q => d.walk q (name :: more) := by
  induction names generalizing place with
  | nil => rfl
  | cons first rest ih =>
    have hmore : rest ++ name :: more ≠ [] := by simp
    simp only [List.cons_append, descend]
    rw [walk]
    by_cases hdots : first = ".."
    · rw [if_pos hdots, if_pos hdots]
      exact ih _
    rw [if_neg hdots, if_neg hdots]
    by_cases hlong : nameLimit < first.utf8ByteSize
    · rw [if_pos hlong, if_pos hlong]
      rfl
    rw [if_neg hlong, if_neg hlong, if_neg hmore]
    cases hget : d.get? (place ++ [first]) with
    | none => rfl
    | some e =>
      cases e with
      | file bytes => rfl
      | directory => exact ih _

theorem descend_of_keepsDirectories
    (hkeeps : KeepsDirectories d d') (h : d.descend place names = .ok q) :
    d'.descend place names = .ok q := by
  induction names generalizing place with
  | nil => exact h
  | cons name rest ih =>
    simp only [descend] at h ⊢
    split at h
    next hdots =>
      rw [if_pos hdots]
      exact ih h
    next hdots =>
      rw [if_neg hdots]
      split at h
      · cases h
      next hshort =>
        rw [if_neg hshort]
        split at h
        next hget =>
          rw [hkeeps _ hget]
          exact ih h
        · cases h
        · cases h

/-- Names that lead along directories lead to a directory. -/
theorem get?_of_descend (hplace : d.get? place = some .directory)
    (h : d.descend place names = .ok q) : d.get? q = some .directory := by
  induction names generalizing place with
  | nil =>
    cases h
    exact hplace
  | cons name rest ih =>
    rw [descend] at h
    split at h
    next => exact ih (get?_dropLast_of_directory hplace) h
    next =>
      split at h
      · cases h
      split at h
      next hget => exact ih hget h
      · cases h
      · cases h

theorem walk_of_descend (h : d.descend place names = .ok q) : d.walk place names = .ok q := by
  induction names generalizing place with
  | nil => exact h
  | cons name rest ih =>
    rw [descend] at h
    rw [walk]
    split at h
    next hdots =>
      rw [if_pos hdots]
      exact ih h
    next hdots =>
      rw [if_neg hdots]
      split at h
      · cases h
      next hshort =>
        rw [if_neg hshort]
        cases hget : d.get? (place ++ [name]) with
        | none =>
          rw [hget] at h
          cases h
        | some e =>
          rw [hget] at h
          cases e with
          | file bytes => cases h
          | directory =>
            by_cases hlast : rest = []
            · rw [if_pos hlast]
              rw [hlast] at h
              exact h
            · rw [if_neg hlast]
              exact ih h

/-- A walk that ends at a directory went along directories only. -/
theorem descend_of_walk (h : d.walk place names = .ok q) (hq : d.get? q = some .directory) :
    d.descend place names = .ok q := by
  induction names generalizing place with
  | nil => exact h
  | cons name rest ih =>
    rw [walk] at h
    rw [descend]
    split at h
    next hdots =>
      rw [if_pos hdots]
      exact ih h
    next hdots =>
      rw [if_neg hdots]
      split at h
      · cases h
      next hshort =>
        rw [if_neg hshort]
        split at h
        next hlast =>
          obtain rfl : place ++ [name] = q := Except.ok.inj h
          rw [hq, hlast]
          rfl
        cases hget : d.get? (place ++ [name]) with
        | none =>
          rw [hget] at h
          cases h
        | some e =>
          rw [hget] at h
          cases e with
          | file bytes => cases h
          | directory => exact ih h

/-! ## Making directories -/

/-- Nothing is made where all directories are there. -/
theorem makeAlong_of_descend {more : List String} (h : d.descend place names = .ok q) :
    makeAlong through last place (names ++ more) d = makeAlong through last q more d := by
  induction names generalizing place with
  | nil =>
    cases h
    rfl
  | cons name rest ih =>
    simp only [descend] at h
    rw [List.cons_append, makeAlong]
    split at h
    next hdots =>
      rw [if_pos hdots]
      exact ih h
    next hdots =>
      rw [if_neg hdots]
      split at h
      · cases h
      next hshort =>
        rw [if_neg hshort]
        cases hget : d.get? (place ++ [name]) with
        | none =>
          rw [hget] at h
          cases h
        | some e =>
          rw [hget] at h
          cases e with
          | file bytes => cases h
          | directory => exact ih h

/-- What making directories changes: directories stay, and so does every file. -/
structure OnlyMakesDirectories (d d' : Disk) : Prop where
  keeps : KeepsDirectories d d'
  files : ∀ place bytes,
    d'.get? place = some (.file bytes) ↔ d.get? place = some (.file bytes)

theorem OnlyMakesDirectories.refl (d : Disk) : OnlyMakesDirectories d d :=
  ⟨.refl d, fun _ _ => Iff.rfl⟩

theorem OnlyMakesDirectories.trans {d'' : Disk}
    (h : OnlyMakesDirectories d d') (h' : OnlyMakesDirectories d' d'') :
    OnlyMakesDirectories d d'' :=
  ⟨h.keeps.trans h'.keeps, fun place bytes => (h'.files place bytes).trans (h.files place bytes)⟩

theorem onlyMakesDirectories_of_put? {name : String}
    (hnone : d.get? (place ++ [name]) = none) (h : d.put? place name .directory = some d') :
    OnlyMakesDirectories d d' := by
  refine ⟨keepsDirectories_of_put? h, fun p bytes => ?_⟩
  rw [get?_of_put? h]
  split
  next heq =>
    rw [heq, hnone]
    simp
  · rfl

theorem onlyMakesDirectories_makeAlong (through last : Fault) (place : Place)
    (names : List String) (d : Disk) :
    OnlyMakesDirectories d (makeAlong through last place names d).2 := by
  induction names generalizing through last place d with
  | nil => exact .refl d
  | cons name rest ih =>
    rw [makeAlong]
    split
    · exact ih _ _ _ _
    split
    · exact .refl d
    split
    · exact ih _ _ _ _
    · exact .refl d
    next hnone =>
      split
      next hput => exact (onlyMakesDirectories_of_put? hnone hput).trans (ih _ _ _ _)
      · exact .refl d

/-- Making directories along names changes nothing but what stands along them. -/
theorem get?_of_makeAlong (hnames : ".." ∉ names)
    (hq : ∀ front, front ≠ [] → front <+: names → q ≠ place ++ front) :
    (makeAlong through last place names d).2.get? q = d.get? q := by
  induction names generalizing through last place d with
  | nil => rfl
  | cons name rest ih =>
    rw [List.mem_cons, not_or] at hnames
    have hnext : ∀ front, front ≠ [] → front <+: rest → q ≠ place ++ [name] ++ front := by
      intro front _ hprefix
      rw [List.append_assoc]
      exact hq (name :: front) (List.cons_ne_nil _ _) (List.cons_prefix_cons.mpr ⟨rfl, hprefix⟩)
    have hhere : q ≠ place ++ [name] :=
      hq [name] (List.cons_ne_nil _ _) (List.cons_prefix_cons.mpr ⟨rfl, List.nil_prefix⟩)
    rw [makeAlong, if_neg (Ne.symm hnames.1)]
    split
    · rfl
    split
    · exact ih hnames.2 hnext
    · rfl
    · split
      next d₁ hput =>
        rw [ih hnames.2 hnext, get?_of_put? hput, if_neg hhere]
      · rfl

/-- Once directories have been made, the names lead along them. -/
theorem exists_descend_of_makeAlong
    (h : makeAlong through last place names d = (.ok (), d')) :
    ∃ q, d'.descend place names = .ok q := by
  induction names generalizing through last place d with
  | nil => exact ⟨place, rfl⟩
  | cons name rest ih =>
    rw [makeAlong] at h
    simp only [descend]
    split at h
    next hdots =>
      rw [if_pos hdots]
      exact ih h
    next hdots =>
      rw [if_neg hdots]
      split at h
      · cases h
      next hshort =>
        rw [if_neg hshort]
        have hfound {through last : Fault} {between : Disk}
            (hget : between.get? (place ++ [name]) = some .directory)
            (hmore : makeAlong through last (place ++ [name]) rest between = (.ok (), d')) :
            ∃ q, (match d'.get? (place ++ [name]) with
              | some .directory => descend d' (place ++ [name]) rest
              | some (.file _) => .error .notDirectory
              | none => .error .missing) = Except.ok q := by
          have hkeeps :=
            (onlyMakesDirectories_makeAlong through last (place ++ [name]) rest between).keeps
          rw [hmore] at hkeeps
          rw [hkeeps _ hget]
          exact ih hmore
        split at h
        next hget => exact hfound hget h
        · cases h
        split at h
        next hput =>
          refine hfound ?_ h
          rw [get?_of_put? hput, if_pos rfl]
        · cases h

theorem exists_descend_of_makeDirectory {p : Path} (hdot : p.endsInDot = false)
    (h : makeDirectory p d = (.ok (), d')) :
    checkPath p = .ok () ∧ ∃ q, d'.descend [] p.names = .ok q := by
  unfold makeDirectory at h
  split at h
  · cases h
  next hcheck =>
    rw [hdot] at h
    exact ⟨hcheck, exists_descend_of_makeAlong h⟩

theorem onlyMakesDirectories_makeDirectory (p : Path) (d : Disk) :
    OnlyMakesDirectories d (makeDirectory p d).2 := by
  unfold makeDirectory
  split
  · exact .refl d
  split
  · exact onlyMakesDirectories_makeAlong _ _ [] p.names.dropLast d
  · exact onlyMakesDirectories_makeAlong _ _ [] p.names d

end SealedVault.Disk
