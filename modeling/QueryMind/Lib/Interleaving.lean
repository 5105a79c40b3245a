import QueryMind.Lib.Program
import Mathlib.Algebra.Group.Basic
import Mathlib.Algebra.Group.Nat.Defs

namespace QueryMind.Lib
set_option autoImplicit true

section Keeps
variable {I : Interface} {V : (op : I.Op) → I.Ans op → Prop} {A B : I.Op → Prop}

/-- With answers that satisfy `V`, only operations in `A` are called, and the outcome is in `P`. -/
def Prog.Keeps (V : (op : I.Op) → I.Ans op → Prop) (A : I.Op → Prop) (P : Except ε α → Prop) :
    Prog I ε α → Prop
  | .ret a => P (.ok a)
  | .raise e => P (.error e)
  | .call op k => A op ∧ ∀ r, V op r → (k r).Keeps V A P

theorem Prog.Keeps.bind {p : Prog I ε α} {f : α → Prog I ε β} (hp : p.Keeps V A P)
    (ho : ∀ a, P (.ok a) → (f a).Keeps V A Q) (he : ∀ e, P (.error e) → Q (.error e)) :
    (p >>= f).Keeps V A Q := by
  induction p with
  | ret a => exact ho a hp
  | raise e => exact he e hp
  | call op k ih => exact ⟨hp.1, fun r hr => ih r (hp.2 r hr)⟩

theorem Prog.Keeps.imp {p : Prog I ε α} (hp : p.Keeps V A P) (hA : ∀ op, A op → B op)
    (hP : ∀ r, P r → Q r) : p.Keeps V B Q := by
  induction p with
  | ret a => exact hP _ hp
  | raise e => exact hP _ hp
  | call op k ih => exact ⟨hA op hp.1, fun r hr => ih r (hp.2 r hr)⟩

theorem Prog.Keeps.attempt {p : Prog I ε α} {P : Except ε' (Except ε α) → Prop}
    (hp : p.Keeps V A (fun r => P (.ok r))) :
    (p.attempt : Prog I ε' (Except ε α)).Keeps V A P := by
  induction p with
  | ret a => exact hp
  | raise e => exact hp
  | call op k ih => exact ⟨hp.1, fun r hr => ih r (hp.2 r hr)⟩

end Keeps

section Accounts
variable {I : Interface} {M : Type} [AddCommMonoid M] {V : (op : I.Op) → I.Ans op → Prop}
  {gain : (op : I.Op) → I.Ans op → M} {cost : I.Op → M}

/-- With a balance at hand and answers that satisfy `V`, a program pays for each operation out of
the balance and of what the answer brings, and leaves a balance that its outcome allows. -/
def Prog.Accounts (V : (op : I.Op) → I.Ans op → Prop) (gain : (op : I.Op) → I.Ans op → M)
    (cost : I.Op → M) (P : Except ε α → M → Prop) : Prog I ε α → M → Prop
  | .ret a, c => P (.ok a) c
  | .raise e, c => P (.error e) c
  | .call op k, c => ∀ r, V op r → ∃ c', c + gain op r = cost op + c' ∧
      (k r).Accounts V gain cost P c'

theorem Prog.Accounts.free {k : I.Ans op → Prog I ε α} (hg : ∀ r, gain op r = 0)
    (hc : cost op = 0) (h : ∀ r, V op r → (k r).Accounts V gain cost P c) :
    (Prog.call op k).Accounts V gain cost P c :=
  fun r hr => ⟨c, by rw [hg, hc, add_zero, zero_add], h r hr⟩

theorem Prog.Accounts.imp {p : Prog I ε α} (h : p.Accounts V gain cost P c)
    (hP : ∀ r c, P r c → Q r c) : p.Accounts V gain cost Q c := by
  induction p generalizing c with
  | ret a => exact hP _ _ h
  | raise e => exact hP _ _ h
  | call op k ih =>
    intro r hr
    obtain ⟨c', he, hk⟩ := h r hr
    exact ⟨c', he, ih r hk⟩

theorem Prog.Accounts.bind {p : Prog I ε α} {f : α → Prog I ε β}
    (h : p.Accounts V gain cost P c) (ho : ∀ a c, P (.ok a) c → (f a).Accounts V gain cost Q c)
    (he : ∀ e c, P (.error e) c → Q (.error e) c) : (p >>= f).Accounts V gain cost Q c := by
  induction p generalizing c with
  | ret a => exact ho a c h
  | raise e => exact he e c h
  | call op k ih =>
    intro r hr
    obtain ⟨c', hc, hk⟩ := h r hr
    exact ⟨c', hc, ih r hk⟩

theorem Prog.Accounts.attempt {p : Prog I ε α} {P : Except ε' (Except ε α) → M → Prop}
    (h : p.Accounts V gain cost (fun r => P (.ok r)) c) :
    (p.attempt : Prog I ε' (Except ε α)).Accounts V gain cost P c := by
  induction p generalizing c with
  | ret a => exact h
  | raise e => exact h
  | call op k ih =>
    intro r hr
    obtain ⟨c', hc, hk⟩ := h r hr
    exact ⟨c', hc, ih r hk⟩

theorem Prog.Keeps.accounts {p : Prog I ε α} (h : p.Keeps V (fun op => cost op = 0) P) (c : M) :
    p.Accounts V gain cost (fun r c' => P r ∧ ∃ d, c' = c + d) c := by
  induction p generalizing c with
  | ret => exact ⟨h, 0, (add_zero c).symm⟩
  | raise => exact ⟨h, 0, (add_zero c).symm⟩
  | call op k ih =>
    intro r hr
    refine ⟨c + gain op r, by rw [h.1, zero_add], (ih r (h.2 r hr) _).imp ?_⟩
    rintro r' _ ⟨hP, d, rfl⟩
    exact ⟨hP, gain op r + d, add_assoc c _ d⟩

theorem Prog.Accounts.keeps {p : Prog I ε α} {A : I.Op → Prop} {Q : Except ε α → Prop}
    (h : p.Accounts V gain cost P c) (hk : p.Keeps V A Q) :
    p.Accounts V gain cost (fun r c' => P r c' ∧ Q r) c := by
  induction p generalizing c with
  | ret => exact ⟨h, hk⟩
  | raise => exact ⟨h, hk⟩
  | call op k ih =>
    intro r hr
    obtain ⟨c', hc, hr'⟩ := h r hr
    exact ⟨c', hc, ih r hr' (hk.2 r hr)⟩

/-- The sum of what each entry of a list may hold. -/
inductive Outstanding (A : τ → M → Prop) : List τ → M → Prop
  | nil : Outstanding A [] 0
  | cons (h : A t c) (hs : Outstanding A ts m) : Outstanding A (t :: ts) (c + m)

theorem Outstanding.snoc {A : τ → M → Prop} (h : Outstanding A ts m) (ht : A t 0) :
    Outstanding A (ts ++ [t]) m := by
  induction h with
  | nil =>
    rw [← zero_add (0 : M)]
    exact .cons ht .nil
  | cons hc _ ih => exact .cons hc ih

theorem Outstanding.set {A : τ → M → Prop} (h : Outstanding A ts m) (hi : ts[i]? = some t) :
    ∃ c m', A t c ∧ m = c + m' ∧ ∀ t' c', A t' c' → Outstanding A (ts.set i t') (c' + m') := by
  induction h generalizing i with
  | nil => cases hi
  | @cons _ c _ m hc hs ih =>
    cases i with
    | zero =>
      cases hi
      exact ⟨c, m, hc, rfl, fun t' c' h' => .cons h' hs⟩
    | succ i =>
      obtain ⟨c₁, m₁, h₁, he, hset⟩ := ih hi
      refine ⟨c₁, c + m₁, h₁, ?_, fun t' c' h' => ?_⟩
      · rw [he, add_left_comm]
      · rw [add_left_comm]
        exact .cons hc (hset t' c' h')

theorem Outstanding.settled {A : τ → M → Prop} (h : Outstanding A ts m)
    (h0 : ∀ t ∈ ts, ∀ c, A t c → c = 0) : m = 0 := by
  induction h with
  | nil => rfl
  | cons hc _ ih =>
    rw [h0 _ List.mem_cons_self _ hc, zero_add]
    exact ih fun t ht => h0 t (List.mem_cons_of_mem _ ht)

theorem Outstanding.countP_le {A : τ → Nat → Prop} (h : Outstanding A ts m) (b : τ → Bool)
    (hb : ∀ t c, A t c → b t = true → 1 ≤ c) : ts.countP b ≤ m := by
  induction h with
  | nil => exact Nat.le_refl 0
  | @cons t c ts m hc _ ih =>
    rw [List.countP_cons]
    split
    · rename_i ht
      have := hb t c hc ht
      omega
    · omega

/-- What comes in and what goes out of a shared state, operation by operation, with answers that
satisfy `V`. -/
structure Books (h : Handler I σ) (V : (op : I.Op) → I.Ans op → Prop)
    (gain : (op : I.Op) → I.Ans op → M) (cost : I.Op → M) (income expense : σ → M) : Prop where
  answers : ∀ op s, V op (h op s).1
  income : ∀ op s, income (h op s).2 = income s + gain op (h op s).1
  expense : ∀ op s, expense (h op s).2 = expense s + cost op

/-- The calls hold the difference between what came in and what went out. -/
def Pool.Balanced (V : (op : I.Op) → I.Ans op → Prop) (gain : (op : I.Op) → I.Ans op → M)
    (cost : I.Op → M) (P : ρ → Except ε α → M → Prop) (income expense : σ → M)
    (p : Pool ρ I ε α σ) : Prop :=
  ∃ m, Outstanding (fun t => t.rest.Accounts V gain cost (P t.request)) p.tasks m ∧
    income p.shared = expense p.shared + m

variable {h : Handler I σ} {income expense : σ → M} {body : ρ → Prog I ε α}

theorem Pool.Balanced.step {P : ρ → Except ε α → M → Prop}
    (hb : Books h V gain cost income expense)
    (hbody : ∀ r, (body r).Accounts V gain cost (P r) 0)
    (hp : Balanced V gain cost P income expense p) (hs : Pool.Step h body p a q) :
    Balanced V gain cost P income expense q := by
  obtain ⟨m, ho, he⟩ := hp
  rcases hs.cases with ⟨r, rfl, rfl⟩ | ⟨i, r, log, op, k, rfl, hi, rfl⟩
  · exact ⟨m, ho.snoc (hbody r), he⟩
  · obtain ⟨c, m', ht, rfl, hset⟩ := ho.set hi
    obtain ⟨c', hc, hk⟩ := ht (h op p.shared).1 (hb.answers op _)
    refine ⟨c' + m', hset _ c' hk, ?_⟩
    calc income (h op p.shared).2
        = expense p.shared + (c + m') + gain op (h op p.shared).1 := by rw [hb.income, he]
      _ = expense p.shared + (c + gain op (h op p.shared).1 + m') := by
        rw [add_assoc, add_right_comm c]
      _ = expense p.shared + (cost op + c' + m') := by rw [hc]
      _ = expense (h op p.shared).2 + (c' + m') := by
        rw [hb.expense, add_assoc, add_assoc]

/-- Whatever the schedule, the books balance against what the calls hold. -/
theorem Pool.Balanced.run {P : ρ → Except ε α → M → Prop}
    (hb : Books h V gain cost income expense)
    (hbody : ∀ r, (body r).Accounts V gain cost (P r) 0)
    (hr : Run (Pool.Step h body) ⟨s, []⟩ as q) (hs : income s = expense s) :
    Balanced V gain cost P income expense q :=
  hr.invariant (I := Balanced V gain cost P income expense) ⟨0, .nil, by rw [hs, add_zero]⟩
    fun _ _ _ hp hst => hp.step hb hbody hst

def Pool.Quiet (p : Pool ρ I ε α σ) : Prop := ∀ i, p.pending i = none

theorem Pool.Balanced.quiet {p : Pool ρ I ε α σ}
    (hp : Balanced V gain cost (fun _ _ c => c = 0) income expense p) (hq : p.Quiet) :
    income p.shared = expense p.shared := by
  obtain ⟨m, ho, he⟩ := hp
  rw [he, ho.settled, add_zero]
  intro t ht c hc
  obtain ⟨i, hi⟩ := List.getElem?_of_mem ht
  obtain ⟨r, log, rest⟩ := t
  cases rest with
  | ret a => exact hc
  | raise e => exact hc
  | call op k =>
    have hpend := hq i
    rw [Pool.pending_call hi] at hpend
    cases hpend

end Accounts

section Assertions
variable {I : Interface} {h : Handler I σ} {J : σ → Prop} {R : σ → σ → Prop}
  {G : (op : I.Op) → σ → Prop}

/-- However the state moves on along `R` in between, and as long as `J` holds, every operation is
called where `G` holds and the outcome satisfies `P` from then on. -/
def Prog.Safe (h : Handler I σ) (J : σ → Prop) (R : σ → σ → Prop) (G : (op : I.Op) → σ → Prop)
    (P : Except ε α → σ → Prop) : Prog I ε α → σ → Prop
  | .ret a, s => ∀ t, R s t → J t → P (.ok a) t
  | .raise e, s => ∀ t, R s t → J t → P (.error e) t
  | .call op k, s => ∀ t, R s t → J t → G op t ∧ (k (h op t).1).Safe h J R G P (h op t).2

theorem Prog.Safe.later {p : Prog I ε α} (ht : ∀ s t u, R s t → R t u → R s u)
    (hp : p.Safe h J R G P s) (hs : R s t) : p.Safe h J R G P t := by
  cases p with
  | ret a => exact fun u hu => hp u (ht _ _ _ hs hu)
  | raise e => exact fun u hu => hp u (ht _ _ _ hs hu)
  | call op k => exact fun u hu => hp u (ht _ _ _ hs hu)

theorem Prog.Safe.of_later {p : Prog I ε α} (hr : ∀ s, R s s)
    (hp : ∀ t, R s t → J t → p.Safe h J R G P t) : p.Safe h J R G P s := by
  cases p with
  | ret a => exact fun t hs hj => hp t hs hj t (hr t) hj
  | raise e => exact fun t hs hj => hp t hs hj t (hr t) hj
  | call op k => exact fun t hs hj => hp t hs hj t (hr t) hj

theorem Prog.Safe.bind {p : Prog I ε α} {f : α → Prog I ε β} (hr : ∀ s, R s s)
    (hp : p.Safe h J R G P s) (ho : ∀ a s, P (.ok a) s → (f a).Safe h J R G Q s)
    (he : ∀ e s, P (.error e) s → Q (.error e) s) : (p >>= f).Safe h J R G Q s := by
  induction p generalizing s with
  | ret a => exact .of_later hr fun t hs hj => ho a t (hp t hs hj)
  | raise e => exact fun t hs hj => he e t (hp t hs hj)
  | call op k ih =>
    intro t hs hj
    obtain ⟨hg, hk⟩ := hp t hs hj
    exact ⟨hg, ih _ hk⟩

theorem Prog.Safe.imp {p : Prog I ε α} (hp : p.Safe h J R G P s) (hP : ∀ r s, P r s → Q r s) :
    p.Safe h J R G Q s := by
  induction p generalizing s with
  | ret a => exact fun t hs hj => hP _ t (hp t hs hj)
  | raise e => exact fun t hs hj => hP _ t (hp t hs hj)
  | call op k ih =>
    intro t hs hj
    obtain ⟨hg, hk⟩ := hp t hs hj
    exact ⟨hg, ih _ hk⟩

theorem Prog.Safe.since {p : Prog I ε α} (ht : ∀ s t u, R s t → R t u → R s u)
    (hR : ∀ op s, R s (h op s).2) (hp : p.Safe h J R G P s) (hs : R r s) :
    p.Safe h J R G (fun o t => P o t ∧ R r t) s := by
  induction p generalizing s with
  | ret a => exact fun t hst hj => ⟨hp t hst hj, ht _ _ _ hs hst⟩
  | raise e => exact fun t hst hj => ⟨hp t hst hj, ht _ _ _ hs hst⟩
  | call op k ih =>
    intro t hst hj
    obtain ⟨hg, hk⟩ := hp t hst hj
    exact ⟨hg, ih _ hk (ht _ _ _ (ht _ _ _ hs hst) (hR op t))⟩

theorem Prog.Safe.attempt {p : Prog I ε α} {P : Except ε' (Except ε α) → σ → Prop}
    (hp : p.Safe h J R G (fun r => P (.ok r)) s) :
    (p.attempt : Prog I ε' (Except ε α)).Safe h J R G P s := by
  induction p generalizing s with
  | ret a => exact hp
  | raise e => exact hp
  | call op k ih =>
    intro t hs hj
    obtain ⟨hg, hk⟩ := hp t hs hj
    exact ⟨hg, ih _ hk⟩

theorem Prog.Keeps.safe {V : (op : I.Op) → I.Ans op → Prop} {A : I.Op → Prop} {p : Prog I ε α}
    (hp : p.Keeps V A P) (hV : ∀ op s, V op (h op s).1) (s : σ) :
    p.Safe h J R (fun op _ => A op) (fun r _ => P r) s := by
  induction p generalizing s with
  | ret => exact fun _ _ _ => hp
  | raise => exact fun _ _ _ => hp
  | call op k ih => exact fun t _ _ => ⟨hp.1, ih _ (hp.2 _ (hV op t)) _⟩

def Pool.AllSafe (h : Handler I σ) (J : σ → Prop) (R : σ → σ → Prop) (G : (op : I.Op) → σ → Prop)
    (P : ρ → Except ε α → σ → Prop) (p : Pool ρ I ε α σ) : Prop :=
  ∀ t ∈ p.tasks, t.rest.Safe h J R G (P t.request) p.shared

variable {body : ρ → Prog I ε α}

theorem Pool.AllSafe.step {P : ρ → Except ε α → σ → Prop} (hr : ∀ s, R s s)
    (ht : ∀ s t u, R s t → R t u → R s u) (hR : ∀ op s, R s (h op s).2)
    (hJ : ∀ op s, J s → G op s → J (h op s).2) (hbody : ∀ r s, (body r).Safe h J R G (P r) s)
    (hp : AllSafe h J R G P p ∧ J p.shared) (hs : Pool.Step h body p a q) :
    AllSafe h J R G P q ∧ J q.shared := by
  obtain ⟨hp, hj⟩ := hp
  rcases hs.cases with ⟨r, rfl, rfl⟩ | ⟨i, r, log, op, k, rfl, hi, rfl⟩
  · refine ⟨fun t hm => ?_, hj⟩
    rcases List.mem_append.1 hm with hm | hm
    · exact hp t hm
    · rw [List.mem_singleton.1 hm]
      exact hbody r _
  · obtain ⟨hg, hk⟩ := hp _ (List.mem_of_getElem? hi) _ (hr _) hj
    refine ⟨fun t hm => ?_, hJ op _ hj hg⟩
    rcases List.mem_or_eq_of_mem_set hm with hm | rfl
    · exact (hp t hm).later ht (hR op _)
    · exact hk

/-- Whatever the schedule, what safe calls keep holds of the shared state. -/
theorem Pool.AllSafe.run {P : ρ → Except ε α → σ → Prop} (hr : ∀ s, R s s)
    (ht : ∀ s t u, R s t → R t u → R s u) (hR : ∀ op s, R s (h op s).2)
    (hJ : ∀ op s, J s → G op s → J (h op s).2) (hbody : ∀ r s, (body r).Safe h J R G (P r) s)
    (hrun : Run (Pool.Step h body) ⟨s, []⟩ as p) (hs : J s) :
    AllSafe h J R G P p ∧ J p.shared :=
  hrun.invariant (I := fun p => AllSafe h J R G P p ∧ J p.shared) ⟨nofun, hs⟩
    fun _ _ _ hp hst => Pool.AllSafe.step hr ht hR hJ hbody hp hst

/-- What the operations in `A` keep holds whatever the schedule, of calls that keep to them. -/
theorem Pool.keeps_run {V : (op : I.Op) → I.Ans op → Prop} {A : I.Op → Prop}
    {P : Except ε α → Prop} (hV : ∀ op s, V op (h op s).1)
    (hJ : ∀ op s, J s → A op → J (h op s).2) (hbody : ∀ r, (body r).Keeps V A P)
    (hrun : Run (Pool.Step h body) ⟨s, []⟩ as p) (hs : J s) : J p.shared :=
  (AllSafe.run (R := fun _ _ => True) (P := fun _ r _ => P r) (fun _ => trivial)
    (fun _ _ _ _ _ => trivial) (fun _ _ => trivial) hJ (fun r s => (hbody r).safe hV s) hrun hs).2

end Assertions

end QueryMind.Lib
