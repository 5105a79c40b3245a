import QueryMind.Lib.Transition

namespace QueryMind.Lib
set_option autoImplicit true

/-- The names of some atomic operations, and what each of them answers. -/
structure Interface where
  Op : Type
  Ans : Op → Type

/-- A program that may return, raise, or call an operation and go on with its answer. -/
inductive Prog (I : Interface) (ε α : Type)
  | ret (a : α)
  | raise (e : ε)
  | call (op : I.Op) (k : I.Ans op → Prog I ε α)

def Prog.bind (p : Prog I ε α) (f : α → Prog I ε β) : Prog I ε β :=
  match p with
  | .ret a => f a
  | .raise e => .raise e
  | .call op k => .call op (fun r => (k r).bind f)

instance : Monad (Prog I ε) where
  pure := .ret
  bind := .bind

def Prog.perform (op : I.Op) : Prog I ε (I.Ans op) := .call op .ret

@[simp] theorem Prog.pure_eq (a : α) : (pure a : Prog I ε α) = .ret a := rfl

@[simp] theorem Prog.ret_bind (a : α) (f : α → Prog I ε β) : (.ret a >>= f) = f a := rfl

@[simp] theorem Prog.call_bind (op : I.Op) (k : I.Ans op → Prog I ε α) (f : α → Prog I ε β) :
    (Prog.call op k >>= f) = .call op (fun r => k r >>= f) := rfl

@[simp] theorem Prog.perform_bind (op : I.Op) (f : I.Ans op → Prog I ε β) :
    (Prog.perform op >>= f) = .call op f := rfl

/-- What an operation does to the shared state, and what it answers. -/
abbrev Handler (I : Interface) (σ : Type) := (op : I.Op) → σ → I.Ans op × σ

def Prog.exec (h : Handler I σ) : Prog I ε α → σ → Except ε α × σ
  | .ret a, s => (.ok a, s)
  | .raise e, s => (.error e, s)
  | .call op k, s => (k (h op s).1).exec h (h op s).2

section Exec
variable {h : Handler I σ}

@[simp] theorem Prog.exec_ret : (Prog.ret a : Prog I ε α).exec h s = (.ok a, s) := rfl

@[simp] theorem Prog.exec_call : (Prog.call op k : Prog I ε α).exec h s =
    (k (h op s).1).exec h (h op s).2 := rfl

theorem Prog.exec_bind (p : Prog I ε α) (f : α → Prog I ε β) (s : σ) :
    (p >>= f).exec h s =
      match p.exec h s with
      | (.ok a, t) => (f a).exec h t
      | (.error e, t) => (.error e, t) := by
  induction p generalizing s with
  | ret => rfl
  | raise => rfl
  | call op k ih => simp only [call_bind, exec_call, ih]

theorem Prog.exec_bind_ok {p : Prog I ε α} {f : α → Prog I ε β}
    (he : (p >>= f).exec h s = (.ok b, u)) :
    ∃ a t, p.exec h s = (.ok a, t) ∧ (f a).exec h t = (.ok b, u) := by
  rw [exec_bind] at he
  rcases hp : p.exec h s with ⟨_ | a, t⟩ <;> rw [hp] at he
  · cases he
  · exact ⟨a, t, rfl, he⟩

theorem Prog.exec_map (p : Prog I ε α) (g : α → β) (s : σ) :
    (p >>= fun a => .ret (g a)).exec h s = ((p.exec h s).1.map g, (p.exec h s).2) := by
  rw [exec_bind]
  rcases p.exec h s with ⟨_ | a, t⟩ <;> rfl

theorem Prog.exec_invariant {J : σ → Prop} (hJ : ∀ op s, J s → J (h op s).2)
    (p : Prog I ε α) (s : σ) (hs : J s) : J (p.exec h s).2 := by
  induction p generalizing s with
  | ret => exact hs
  | raise => exact hs
  | call op k ih => exact ih _ _ (hJ op s hs)

theorem Prog.exec_relation {R : σ → σ → Prop} (hr : ∀ s, R s s)
    (ht : ∀ s t u, R s t → R t u → R s u) (hR : ∀ op s, R s (h op s).2)
    (p : Prog I ε α) (s : σ) : R s (p.exec h s).2 := by
  induction p generalizing s with
  | ret => exact hr s
  | raise => exact hr s
  | call op k ih => exact ht _ _ _ (hR op s) (ih _ _)

end Exec

/-- The outcome of a program as a value, for a handler of exceptions to look at. -/
def Prog.attempt : Prog I ε α → Prog I ε' (Except ε α)
  | .ret a => .ret (.ok a)
  | .raise e => .ret (.error e)
  | .call op k => .call op fun r => (k r).attempt

section Fallible

/-- The same operations, when they may raise instead of answering. -/
def Interface.fallible (I : Interface) : Interface := ⟨I.Op, fun op => Option (I.Ans op)⟩

/-- A program that lets what its operations raise through: `none` is raised for it. -/
def Prog.fallible : Prog I ε α → Prog I.fallible (Option ε) α
  | .ret a => .ret a
  | .raise e => .raise (some e)
  | .call op k => .call (I := I.fallible) op fun r => r.elim (.raise none) fun a => (k a).fallible

theorem Prog.fallible_bind (p : Prog I ε α) (f : α → Prog I ε β) :
    (p >>= f).fallible = p.fallible >>= fun a => (f a).fallible := by
  induction p with
  | ret => rfl
  | raise => rfl
  | call op k ih =>
    apply congrArg (Prog.call (I := I.fallible) op)
    funext r
    cases r with
    | none => rfl
    | some a => exact ih a

/-- Among the operations that a predicate counts, the one at a point raises; it leaves no trace. -/
def failing (h : Handler I σ) (counted : I.Op → Bool) (point : Option Nat) :
    Handler I.fallible (σ × Nat) :=
  fun op s =>
    if counted op then
      if point = some s.2 then (none, s) else (some (h op s.1).1, (h op s.1).2, s.2 + 1)
    else (some (h op s.1).1, (h op s.1).2, s.2)

theorem failing_apply (h : Handler I σ) (counted : I.Op → Bool) (point : Option Nat) (op : I.Op)
    (s : σ × Nat) : failing h counted point op s =
      if counted op = true then
        if point = some s.2 then (none, s) else (some (h op s.1).1, (h op s.1).2, s.2 + 1)
      else (some (h op s.1).1, (h op s.1).2, s.2) := rfl

/-- Run a program while one of the counted operations raises. -/
def Prog.execFailing (h : Handler I σ) (counted : I.Op → Bool) (point : Option Nat)
    (p : Prog I ε α) (s : σ × Nat) : Except (Option ε) α × σ × Nat :=
  p.fallible.exec (failing h counted point) s

section Exec
variable {h : Handler I σ} {counted : I.Op → Bool} {point : Option Nat}

theorem Prog.execFailing_call (k : I.Ans op → Prog I ε α) (s : σ × Nat) :
    (Prog.call op k).execFailing h counted point s =
      Prog.exec (failing h counted point)
        ((failing h counted point op s).1.elim (.raise none) fun a => (k a).fallible)
        (failing h counted point op s).2 := rfl

theorem Prog.execFailing_uncounted (hc : counted op = false) (k : I.Ans op → Prog I ε α)
    (s : σ × Nat) : (Prog.call op k).execFailing h counted point s =
      (k (h op s.1).1).execFailing h counted point ((h op s.1).2, s.2) := by
  have he : failing h counted point op s = (some (h op s.1).1, (h op s.1).2, s.2) := by
    rw [failing_apply, hc]
    rfl
  rw [execFailing_call, he]
  rfl

theorem Prog.execFailing_passed (hc : counted op = true) (hp : point ≠ some s.2)
    (k : I.Ans op → Prog I ε α) : (Prog.call op k).execFailing h counted point s =
      (k (h op s.1).1).execFailing h counted point ((h op s.1).2, s.2 + 1) := by
  have he : failing h counted point op s = (some (h op s.1).1, (h op s.1).2, s.2 + 1) := by
    rw [failing_apply, hc, if_pos rfl, if_neg hp]
  rw [execFailing_call, he]
  rfl

theorem Prog.execFailing_raised (hc : counted op = true) (hp : point = some s.2)
    (k : I.Ans op → Prog I ε α) : (Prog.call op k).execFailing h counted point s =
      (.error none, s) := by
  have he : failing h counted point op s = (none, s) := by
    rw [failing_apply, hc, if_pos rfl, if_pos hp]
  rw [execFailing_call, he]
  rfl

theorem Prog.execFailing_bind (p : Prog I ε α) (f : α → Prog I ε β) (s : σ × Nat) :
    (p >>= f).execFailing h counted point s =
      match p.execFailing h counted point s with
      | (.ok a, t) => (f a).execFailing h counted point t
      | (.error e, t) => (.error e, t) := by
  rw [execFailing, fallible_bind, exec_bind, execFailing]
  rcases p.fallible.exec (failing h counted point) s with ⟨_ | a, t⟩
  · rfl
  · rfl

end Exec

end Fallible

/-- With answers that satisfy `V`, only operations in `A` are called and only results in `P`
returned. -/
def Prog.Always (V : (op : I.Op) → I.Ans op → Prop) (A : I.Op → Prop) (P : α → Prop) :
    Prog I ε α → Prop
  | .ret a => P a
  | .raise _ => True
  | .call op k => A op ∧ ∀ r, V op r → (k r).Always V A P

/-- A program does not return before it has called an operation in `B`. -/
def Prog.NotBefore (V : (op : I.Op) → I.Ans op → Prop) (B : I.Op → Prop) : Prog I ε α → Prop
  | .ret _ => False
  | .raise _ => True
  | .call op k => B op ∨ ∀ r, V op r → (k r).NotBefore V B

section Always
variable {I : Interface} {V : (op : I.Op) → I.Ans op → Prop} {A B : I.Op → Prop}

theorem Prog.Always.call {k : I.Ans op → Prog I ε α} (ho : A op)
    (hk : ∀ r, V op r → (k r).Always V A P) : (Prog.call op k).Always V A P := ⟨ho, hk⟩

theorem Prog.NotBefore.call {k : I.Ans op → Prog I ε α}
    (hk : ∀ r, V op r → (k r).NotBefore V B) : (Prog.call op k).NotBefore V B := .inr hk

theorem Prog.Always.bind {p : Prog I ε α} {f : α → Prog I ε β} (hp : p.Always V A P)
    (hf : ∀ a, P a → (f a).Always V A Q) : (p >>= f).Always V A Q := by
  induction p with
  | ret a => exact hf a hp
  | raise => exact hp
  | call op k ih => exact ⟨hp.1, fun r hr => ih r (hp.2 r hr)⟩

theorem Prog.NotBefore.bind {p : Prog I ε α} (hp : p.NotBefore V B) (f : α → Prog I ε β) :
    (p >>= f).NotBefore V B := by
  induction p with
  | ret a => exact hp.elim
  | raise => exact hp
  | call op k ih => exact hp.imp id fun h r hr => ih r (h r hr)

theorem Prog.Always.notBefore_bind {p : Prog I ε α} {f : α → Prog I ε β} (hp : p.Always V A P)
    (hf : ∀ a, P a → (f a).NotBefore V B) : (p >>= f).NotBefore V B := by
  induction p with
  | ret a => exact hf a hp
  | raise => exact hp
  | call op k ih => exact .inr fun r hr => ih r (hp.2 r hr)

end Always

theorem Prog.execFailing_of_always {h : Handler I σ} {counted : I.Op → Bool} {p : Prog I ε α}
    (hp : p.Always (fun _ _ => True) (fun op => counted op = false) (fun _ => True))
    (point : Option Nat) (s : σ × Nat) : p.execFailing h counted point s =
      ((p.exec h s.1).1.mapError some, (p.exec h s.1).2, s.2) := by
  induction p generalizing s with
  | ret => rfl
  | raise => rfl
  | call op k ih =>
    rw [execFailing_uncounted hp.1]
    exact ih _ (hp.2 _ trivial) _

/-- One call in flight: what was asked, the operations taken so far, and the rest. -/
structure Task (ρ : Type) (I : Interface) (ε α : Type) where
  request : ρ
  log : List I.Op
  rest : Prog I ε α

/-- Calls that share a state and interleave at the granularity of their operations. -/
structure Pool (ρ : Type) (I : Interface) (ε α σ : Type) where
  shared : σ
  tasks : List (Task ρ I ε α)

/-- A new call arrives, or the call at an index takes its next operation. -/
inductive Pool.Action (ρ : Type)
  | start (r : ρ)
  | step (i : Nat)

def Pool.start (body : ρ → Prog I ε α) (p : Pool ρ I ε α σ) (r : ρ) : Pool ρ I ε α σ :=
  { p with tasks := p.tasks ++ [⟨r, [], body r⟩] }

def Pool.advance (h : Handler I σ) (p : Pool ρ I ε α σ) (i : Nat) : Option (Pool ρ I ε α σ) :=
  match p.tasks[i]? with
  | some ⟨r, log, .call op k⟩ =>
    some { shared := (h op p.shared).2
           tasks := p.tasks.set i ⟨r, log ++ [op], k (h op p.shared).1⟩ }
  | _ => none

def Pool.pending (p : Pool ρ I ε α σ) (i : Nat) : Option I.Op :=
  match p.tasks[i]? with
  | some ⟨_, _, .call op _⟩ => some op
  | _ => none

theorem Pool.pending_call {p : Pool ρ I ε α σ} {i : Nat}
    (hi : p.tasks[i]? = some ⟨r, log, .call op k⟩) : p.pending i = some op := by
  rw [pending, hi]

def Pool.next (h : Handler I σ) (body : ρ → Prog I ε α) (p : Pool ρ I ε α σ) :
    Pool.Action ρ → Option (Pool ρ I ε α σ)
  | .start r => some (p.start body r)
  | .step i => p.advance h i

def Pool.Step (h : Handler I σ) (body : ρ → Prog I ε α) (p : Pool ρ I ε α σ)
    (a : Pool.Action ρ) (q : Pool ρ I ε α σ) : Prop := p.next h body a = some q

theorem Pool.Step.cases {h : Handler I σ} {body : ρ → Prog I ε α}
    (hs : Pool.Step h body p a q) :
    (∃ r, a = .start r ∧ q = p.start body r) ∨
    ∃ i r log op k, a = .step i ∧ p.tasks[i]? = some ⟨r, log, .call op k⟩ ∧
      q = { shared := (h op p.shared).2
            tasks := p.tasks.set i ⟨r, log ++ [op], k (h op p.shared).1⟩ } := by
  cases a with
  | start r => exact .inl ⟨r, rfl, (Option.some.inj hs).symm⟩
  | step i =>
    simp only [Step, next, advance] at hs
    split at hs
    · rename_i r log op k he
      exact .inr ⟨i, r, log, op, k, rfl, he, (Option.some.inj hs).symm⟩
    · cases hs

end QueryMind.Lib
