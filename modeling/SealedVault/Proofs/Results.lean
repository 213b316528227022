/-!
# Results of steps that can fail

A sequence of steps succeeds if and only if each of them does, and it fails with the first failure.
Steps that act on a state pass it on, and what they did before a failure stays done. Two runs of the
same steps from related states are compared step by step.
-/

namespace SealedVault

variable {ε σ α β : Type}

@[simp] theorem ok_bind (a : α) (f : α → Except ε β) : (Except.ok a >>= f) = f a := rfl

@[simp] theorem error_bind (e : ε) (f : α → Except ε β) :
    (Except.error e >>= f) = .error e := rfl

theorem bind_eq_ok_iff {x : Except ε α} {f : α → Except ε β} {b : β} :
    x >>= f = .ok b ↔ ∃ a, x = .ok a ∧ f a = .ok b := by
  cases x with
  | ok a => simp
  | error e => simp

/-- A step on a state goes on with its result or ends with its failure. -/
theorem run_bind (a : ExceptT ε (StateM σ) α) (f : α → ExceptT ε (StateM σ) β) (s : σ) :
    (a >>= f) s =
      match a s with
      | (.ok x, s') => f x s'
      | (.error e, s') => (.error e, s') := by
  change (match a s with | (x, s') => (ExceptT.bindCont f x) s') = _
  rcases a s with ⟨x | x, s'⟩ <;> rfl

theorem run_bind_of_ok
    {a : ExceptT ε (StateM σ) α} {f : α → ExceptT ε (StateM σ) β} {s s' : σ} {x : α}
    (h : a s = (.ok x, s')) : (a >>= f) s = f x s' := by
  rw [run_bind, h]

theorem run_bind_of_error
    {a : ExceptT ε (StateM σ) α} {f : α → ExceptT ε (StateM σ) β} {s s' : σ} {e : ε}
    (h : a s = (.error e, s')) : (a >>= f) s = (.error e, s') := by
  rw [run_bind, h]

/-- A function of the result leaves the state and a failure as they are. -/
theorem run_map (f : α → β) (a : ExceptT ε (StateM σ) α) (s : σ) :
    (f <$> a) s = ((a s).1.map f, (a s).2) := by
  simp only [Functor.map, ExceptT.map, ExceptT.mk, StateT.bind, bind, pure]
  rcases a s with ⟨x | x, s'⟩ <;> rfl

/-- Two steps succeed if and only if each of them does. -/
theorem run_bind_eq_ok_iff
    {a : ExceptT ε (StateM σ) α} {f : α → ExceptT ε (StateM σ) β} {s u : σ} {y : β} :
    (a >>= f) s = (.ok y, u) ↔ ∃ x t, a s = (.ok x, t) ∧ f x t = (.ok y, u) := by
  constructor
  · intro h
    rcases hfirst : a s with ⟨x | x, t⟩
    · rw [run_bind_of_error hfirst] at h
      cases h
    · rw [run_bind_of_ok hfirst] at h
      exact ⟨x, t, rfl, h⟩
  · rintro ⟨x, t, hfirst, h⟩
    rw [run_bind_of_ok hfirst, h]

/-- Two steps fail if and only if the first one does, or the second one does after it. -/
theorem run_bind_eq_error_iff
    {a : ExceptT ε (StateM σ) α} {f : α → ExceptT ε (StateM σ) β} {s u : σ} {e : ε} :
    (a >>= f) s = (.error e, u) ↔
      a s = (.error e, u) ∨ ∃ x t, a s = (.ok x, t) ∧ f x t = (.error e, u) := by
  constructor
  · intro h
    rcases hfirst : a s with ⟨x | x, t⟩
    · rw [run_bind_of_error hfirst] at h
      cases h
      exact Or.inl rfl
    · rw [run_bind_of_ok hfirst] at h
      exact Or.inr ⟨x, t, rfl, h⟩
  · rintro (hfirst | ⟨x, t, hfirst, h⟩)
    · exact run_bind_of_error hfirst
    · rw [run_bind_of_ok hfirst, h]

/-- What relates the states around each of two steps relates the states around both. -/
theorem run_bind_rel {R : σ → σ → Prop} (htrans : ∀ s t u, R s t → R t u → R s u)
    {a : ExceptT ε (StateM σ) α} {f : α → ExceptT ε (StateM σ) β} {s : σ}
    (h : R s (a s).2) (hnext : ∀ x t, a s = (.ok x, t) → R t (f x t).2) :
    R s ((a >>= f) s).2 := by
  rcases hfirst : a s with ⟨x | x, t⟩
  · rw [run_bind_of_error hfirst]
    rwa [hfirst] at h
  · rw [run_bind_of_ok hfirst]
    rw [hfirst] at h
    exact htrans _ _ _ h (hnext x t hfirst)

/-! ## Two runs -/

/-- From two states a step has the same result, and it leaves states that are related. -/
def SameRun (R : σ → σ → Prop) (a : ExceptT ε (StateM σ) α) (s s' : σ) : Prop :=
  (a s').1 = (a s).1 ∧ R (a s).2 (a s').2

/-- From any two related states a step has the same result, and they stay related. -/
def Coupled (R : σ → σ → Prop) (a : ExceptT ε (StateM σ) α) : Prop :=
  ∀ s s', R s s' → SameRun R a s s'

section

variable {R : σ → σ → Prop}

theorem sameRun_of_eq {a : ExceptT ε (StateM σ) α} {s s' t t' : σ} {result : Except ε α}
    (h : a s = (result, t)) (h' : a s' = (result, t')) (hrel : R t t') : SameRun R a s s' := by
  rw [SameRun, h, h']
  exact ⟨rfl, hrel⟩

theorem coupled_pure (x : α) : Coupled R (pure x : ExceptT ε (StateM σ) α) :=
  fun _ _ h => ⟨rfl, h⟩

theorem coupled_throw (e : ε) : Coupled R (throw e : ExceptT ε (StateM σ) α) :=
  fun _ _ h => ⟨rfl, h⟩

/-- The second of two steps has to be compared only after results that the first one can have. -/
theorem SameRun.bind {a : ExceptT ε (StateM σ) α} {f : α → ExceptT ε (StateM σ) β} {s s' : σ}
    (h : SameRun R a s s')
    (hnext : ∀ x t t', a s = (.ok x, t) → a s' = (.ok x, t') → R t t' → SameRun R (f x) t t') :
    SameRun R (a >>= f) s s' := by
  obtain ⟨hresult, hrel⟩ := h
  rcases hfirst : a s with ⟨result, t⟩
  rcases hfirst' : a s' with ⟨result', t'⟩
  rw [hfirst, hfirst'] at hresult hrel
  obtain rfl : result' = result := hresult
  cases result' with
  | error e => exact sameRun_of_eq (run_bind_of_error hfirst) (run_bind_of_error hfirst') hrel
  | ok x =>
    rw [SameRun, run_bind_of_ok hfirst, run_bind_of_ok hfirst']
    exact hnext x t t' hfirst hfirst' hrel

theorem Coupled.bind {a : ExceptT ε (StateM σ) α} {f : α → ExceptT ε (StateM σ) β}
    (h : Coupled R a) (hnext : ∀ x, Coupled R (f x)) : Coupled R (a >>= f) :=
  fun s s' hrel => (h s s' hrel).bind fun x t t' _ _ hrel' => hnext x t t' hrel'

theorem SameRun.map {a : ExceptT ε (StateM σ) α} {s s' : σ} (h : SameRun R a s s')
    (f : α → β) : SameRun R (f <$> a) s s' := by
  rw [SameRun, run_map, run_map, h.1]
  exact ⟨rfl, h.2⟩

theorem Coupled.map {a : ExceptT ε (StateM σ) α} (h : Coupled R a) (f : α → β) :
    Coupled R (f <$> a) :=
  fun s s' hrel => (h s s' hrel).map f

end

/-! ## Outcomes -/

variable {γ δ : Type}

/-- Both fail in the same way, or neither fails. -/
def SameOutcome (x : Except ε α) (y : Except ε β) : Prop :=
  x.map (fun _ => ()) = y.map fun _ => ()

theorem SameOutcome.refl (x : Except ε α) : SameOutcome x x := rfl

theorem SameOutcome.cases {x : Except ε α} {y : Except ε β} (h : SameOutcome x y) :
    (∃ e, x = .error e ∧ y = .error e) ∨ ∃ a b, x = .ok a ∧ y = .ok b := by
  cases x with
  | error e =>
    cases y with
    | error e' =>
      cases h
      exact Or.inl ⟨e, rfl, rfl⟩
    | ok b => cases h
  | ok a =>
    cases y with
    | error e' => cases h
    | ok b => exact Or.inr ⟨a, b, rfl, rfl⟩

theorem SameOutcome.bind {x : Except ε α} {y : Except ε β} {f : α → Except ε γ}
    {g : β → Except ε δ} (h : SameOutcome x y) (hnext : ∀ a b, SameOutcome (f a) (g b)) :
    SameOutcome (x.bind f) (y.bind g) := by
  rcases h.cases with ⟨e, rfl, rfl⟩ | ⟨a, b, rfl, rfl⟩
  · rfl
  · exact hnext a b

theorem sameOutcome_bind_self {x : Except ε α} {f : α → Except ε γ} {g : α → Except ε δ}
    (hnext : ∀ a, SameOutcome (f a) (g a)) : SameOutcome (x.bind f) (x.bind g) := by
  cases x with
  | error e => rfl
  | ok a => exact hnext a

/-! ## Two runs of two actions -/

/-- Both results are the same failure, or both are values and these are related. -/
inductive RelatedResults (Q : α → β → Prop) : Except ε α → Except ε β → Prop
  | error (e : ε) : RelatedResults Q (.error e) (.error e)
  | ok {a : α} {b : β} (related : Q a b) : RelatedResults Q (.ok a) (.ok b)

theorem RelatedResults.sameOutcome {Q : α → β → Prop} {x : Except ε α} {y : Except ε β}
    (h : RelatedResults Q x y) : SameOutcome x y := by
  cases h <;> rfl

theorem RelatedResults.map {Q : α → β → Prop} {S : γ → δ → Prop} {x : Except ε α} {y : Except ε β}
    {f : α → γ} {g : β → δ} (h : RelatedResults Q x y) (hfg : ∀ a b, Q a b → S (f a) (g b)) :
    RelatedResults S (x.map f) (y.map g) := by
  cases h with
  | error e => exact .error e
  | ok related => exact .ok (hfg _ _ related)

theorem RelatedResults.mapError {ε' : Type} {Q : α → β → Prop} {x : Except ε α} {y : Except ε β}
    (h : RelatedResults Q x y) (f : ε → ε') : RelatedResults Q (x.mapError f) (y.mapError f) := by
  cases h with
  | error e => exact .error (f e)
  | ok related => exact .ok related

theorem relatedResults_self (x : Except ε α) : RelatedResults Eq x x := by
  cases x with
  | error e => exact .error e
  | ok a => exact .ok rfl

/-- From two states two actions have related results, and they leave states that are related. -/
def PairedRun (R : σ → σ → Prop) (Q : α → β → Prop) (a : ExceptT ε (StateM σ) α)
    (b : ExceptT ε (StateM σ) β) (s s' : σ) : Prop :=
  RelatedResults Q (a s).1 (b s').1 ∧ R (a s).2 (b s').2

section

variable {R : σ → σ → Prop} {Q : α → β → Prop} {S : γ → δ → Prop} {s s' : σ}
  {a : ExceptT ε (StateM σ) α} {b : ExceptT ε (StateM σ) β}

theorem pairedRun_of_eq {t t' : σ} {x : Except ε α} {y : Except ε β} (ha : a s = (x, t))
    (hb : b s' = (y, t')) (hresults : RelatedResults Q x y) (hstates : R t t') :
    PairedRun R Q a b s s' := by
  rw [PairedRun, ha, hb]
  exact ⟨hresults, hstates⟩

theorem pairedRun_pure {x : α} {y : β} (hvalues : Q x y) (hstates : R s s') :
    PairedRun R Q (pure x : ExceptT ε (StateM σ) α) (pure y : ExceptT ε (StateM σ) β) s s' :=
  ⟨.ok hvalues, hstates⟩

theorem pairedRun_throw (e : ε) (hstates : R s s') :
    PairedRun R Q (throw e : ExceptT ε (StateM σ) α) (throw e : ExceptT ε (StateM σ) β) s s' :=
  ⟨.error e, hstates⟩

theorem PairedRun.bind {f : α → ExceptT ε (StateM σ) γ} {g : β → ExceptT ε (StateM σ) δ}
    (h : PairedRun R Q a b s s')
    (hnext : ∀ x y t t', a s = (.ok x, t) → b s' = (.ok y, t') → Q x y → R t t' →
      PairedRun R S (f x) (g y) t t') :
    PairedRun R S (a >>= f) (b >>= g) s s' := by
  obtain ⟨hresults, hstates⟩ := h
  rcases ha : a s with ⟨x, t⟩
  rcases hb : b s' with ⟨y, t'⟩
  rw [ha, hb] at hresults hstates
  cases hresults with
  | error e =>
    exact pairedRun_of_eq (run_bind_of_error ha) (run_bind_of_error hb) (.error e) hstates
  | ok related =>
    rw [PairedRun, run_bind_of_ok ha, run_bind_of_ok hb]
    exact hnext _ _ t t' ha hb related hstates

theorem PairedRun.map {f : α → γ} {g : β → δ} (h : PairedRun R Q a b s s')
    (hfg : ∀ x y, Q x y → S (f x) (g y)) : PairedRun R S (f <$> a) (g <$> b) s s' := by
  rw [PairedRun, run_map, run_map]
  exact ⟨h.1.map hfg, h.2⟩

/-- An action that is compared with itself has the same result in two runs. -/
theorem PairedRun.sameRun {R' : σ → σ → Prop} (h : PairedRun R Eq a a s s')
    (hR : ∀ t t', R t t' → R' t t') : SameRun R' a s s' := by
  obtain ⟨hresults, hstates⟩ := h
  refine ⟨?_, hR _ _ hstates⟩
  generalize (a s).1 = x at hresults
  generalize (a s').1 = y at hresults
  cases hresults with
  | error e => rfl
  | ok heq => rw [heq]

end

theorem cases_of_isSome_eq {o : Option α} {o' : Option β} (h : o.isSome = o'.isSome) :
    (o = none ∧ o' = none) ∨ ∃ a b, o = some a ∧ o' = some b := by
  cases o with
  | none =>
    cases o' with
    | none => exact Or.inl ⟨rfl, rfl⟩
    | some b => cases h
  | some a =>
    cases o' with
    | none => cases h
    | some b => exact Or.inr ⟨a, b, rfl, rfl⟩

end SealedVault
