import Mathlib.Order.Basic

namespace QueryMind.Lib
set_option autoImplicit true

/-- The state a program leaves behind, whether it returns or raises. -/
def endState (x : EStateM ε σ α) (s : σ) : σ :=
  match x s with
  | .ok _ s' => s'
  | .error _ s' => s'

def fromExcept (x : Except ε α) : EStateM ε σ α := fun s =>
  match x with
  | .ok a => .ok a s
  | .error e => .error e s

theorem ok_bind (a : α) (f : α → Except ε β) : Except.ok a >>= f = f a := rfl

theorem error_bind (e : ε) (f : α → Except ε β) : Except.error e >>= f = .error e := rfl

theorem bind_ok {x : Except ε α} {f : α → Except ε β} (h : (x >>= f) = .ok b) :
    ∃ a, x = .ok a ∧ f a = .ok b := by
  cases x with
  | error e => cases h
  | ok a => exact ⟨a, rfl, h⟩

theorem bind_error {x : Except ε α} {f : α → Except ε β} (h : (x >>= f) = .error e) :
    x = .error e ∨ ∃ a, x = .ok a ∧ f a = .error e := by
  cases x with
  | error e' =>
    cases h
    exact .inl rfl
  | ok a => exact .inr ⟨a, rfl, h⟩

theorem toOption_eq_some {x : Except ε α} : x.toOption = some a ↔ x = .ok a := by
  cases x with
  | ok b => exact ⟨fun h => congrArg _ (Option.some.inj h), fun h => congrArg _ (Except.ok.inj h)⟩
  | error e => exact ⟨(fun h => by cases h), (fun h => by cases h)⟩

/-- From a state in `P` a program returns as `Q` says, or raises as `E` says. -/
def Spec (P : σ → Prop) (x : EStateM ε σ α) (Q : α → σ → Prop) (E : ε → σ → Prop) : Prop :=
  ∀ s, P s →
    match x s with
    | .ok a s' => Q a s'
    | .error e s' => E e s'

section Spec
variable {P P' : σ → Prop} {E E' : ε → σ → Prop} {Q Q' : α → σ → Prop} {x : EStateM ε σ α}

theorem Spec.pure (h : ∀ s, P s → Q a s) : Spec P (pure a : EStateM ε σ α) Q E := h

theorem Spec.bind {f : α → EStateM ε σ β} (hx : Spec P x Q E) (hf : ∀ a, Spec (Q a) (f a) R E) :
    Spec P (x >>= f) R E := by
  intro s hs
  have h := hx s hs
  simp only [Bind.bind, EStateM.bind]
  cases hr : x s with
  | ok a s' =>
    rw [hr] at h
    exact hf a s' h
  | error e s' =>
    rw [hr] at h
    exact h

theorem Spec.modify {f : σ → σ} {Q : PUnit → σ → Prop} (h : ∀ s, P s → Q ⟨⟩ (f s)) :
    Spec P (modify f : EStateM ε σ PUnit) Q E := h

theorem Spec.get {Q : σ → σ → Prop} (h : ∀ s, P s → Q s s) :
    Spec P (get : EStateM ε σ σ) Q E := h

theorem Spec.fromExcept {x : Except ε α} (h : ∀ a, x = .ok a → ∀ s, P s → Q a s)
    (he : ∀ e, x = .error e → ∀ s, P s → E e s) : Spec P (fromExcept x) Q E := by
  intro s hs
  cases x with
  | ok a => exact h a rfl s hs
  | error e => exact he e rfl s hs

theorem Spec.imp (h : Spec P x Q E) (hp : ∀ s, P' s → P s) (hq : ∀ a s, Q a s → Q' a s)
    (he : ∀ e s, E e s → E' e s) : Spec P' x Q' E' := by
  intro s hs
  have h := h s (hp s hs)
  cases hr : x s with
  | ok a s' =>
    rw [hr] at h
    exact hq a s' h
  | error e s' =>
    rw [hr] at h
    exact he e s' h

theorem Spec.given {A : Prop} (h : A → Spec P x Q E) : Spec (fun s => A ∧ P s) x Q E :=
  fun s hs => h hs.1 s hs.2

end Spec

def mapResult (φ : σ → τ) (k : ε → ε') (g : α → β) :
    EStateM.Result ε σ α → EStateM.Result ε' τ β
  | .ok a s => .ok (g a) (φ s)
  | .error e s => .error (k e) (φ s)

/-- Wherever a program may end, it may have begun, and the other one does the same on the images of
its states, values and exceptions. -/
def Simulates (R : σ → Prop) (φ : σ → τ) (k : ε → ε') (g : α → β) (x : EStateM ε σ α)
    (y : EStateM ε' τ β) : Prop :=
  ∀ s, R (endState x s) → R s ∧ mapResult φ k g (x s) = y (φ s)

section Simulates
variable {R : σ → Prop} {φ : σ → τ} {k : ε → ε'} {g : α → β} {x : EStateM ε σ α}
  {y : EStateM ε' τ β}

theorem Simulates.pure (a : α) : Simulates R φ k g (pure a) (pure (g a)) :=
  fun _ hs => ⟨hs, rfl⟩

theorem Simulates.bind {f : α → EStateM ε σ γ} {f' : β → EStateM ε' τ δ} {g' : γ → δ}
    (hx : Simulates R φ k g x y) (hf : ∀ a, Simulates R φ k g' (f a) (f' (g a))) :
    Simulates R φ k g' (x >>= f) (y >>= f') := by
  intro s hs
  have h := hx s
  simp only [endState, Bind.bind, EStateM.bind] at hs h ⊢
  cases hr : x s with
  | ok a s' =>
    simp only [hr] at hs h ⊢
    obtain ⟨hs', he⟩ := hf a s' hs
    obtain ⟨hR, hy⟩ := h hs'
    rw [← hy]
    exact ⟨hR, he⟩
  | error e s' =>
    simp only [hr] at hs h ⊢
    obtain ⟨hR, hy⟩ := h hs
    rw [← hy]
    exact ⟨hR, rfl⟩

theorem Simulates.modify {f : σ → σ} {f' : τ → τ} (hR : ∀ s, R (f s) → R s)
    (hφ : ∀ s, φ (f s) = f' (φ s)) : Simulates R φ k id (modify f) (modify f') := by
  intro s hs
  refine ⟨hR s hs, ?_⟩
  show EStateM.Result.ok _ (φ (f s)) = .ok _ (f' (φ s))
  rw [hφ]

theorem Simulates.get : Simulates R φ k φ (get : EStateM ε σ σ) get := fun _ hs => ⟨hs, rfl⟩

theorem Simulates.fromExcept (x : Except ε α) :
    Simulates R φ id id (fromExcept x) (fromExcept x) := by
  intro s hs
  cases x <;> exact ⟨hs, rfl⟩

end Simulates

end QueryMind.Lib
