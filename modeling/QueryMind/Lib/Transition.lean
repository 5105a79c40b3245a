import Mathlib.Data.List.Basic

namespace QueryMind.Lib
set_option autoImplicit true

/-- A labelled run, oldest action first. -/
inductive Run (step : σ → α → σ → Prop) : σ → List α → σ → Prop
  | nil : Run step s [] s
  | snoc : Run step s as t → step t a u → Run step s (as ++ [a]) u

theorem Run.single {step : σ → α → σ → Prop} (h : step s a t) : Run step s [a] t :=
  Run.snoc .nil h

theorem Run.append {step : σ → α → σ → Prop} (h : Run step s as t) (h' : Run step t bs u) :
    Run step s (as ++ bs) u := by
  induction h' with
  | nil => simpa only [List.append_nil] using h
  | snoc _ hs ih =>
    rw [← List.append_assoc]
    exact ih.snoc hs

theorem Run.cons {step : σ → α → σ → Prop} (h : step s a t) (h' : Run step t as u) :
    Run step s (a :: as) u :=
  (Run.single h).append h'

/-- What holds at the start and is kept by each step holds at the end of every run. -/
theorem Run.invariant {step : σ → α → σ → Prop} {I : σ → Prop} (h : Run step s as t)
    (h₀ : I s) (hI : ∀ s a t, I s → step s a t → I t) : I t := by
  induction h with
  | nil => exact h₀
  | snoc _ hs ih => exact hI _ _ _ ih hs

theorem Run.invariant_trace {step : σ → α → σ → Prop} {I : List α → σ → Prop}
    (h : Run step s as t) (h₀ : I [] s)
    (hI : ∀ as s a t, I as s → step s a t → I (as ++ [a]) t) : I as t := by
  induction h with
  | nil => exact h₀
  | snoc _ hs ih => exact hI _ _ _ _ ih hs

/-- Runs restricted to the steps that meet a condition. -/
def Guarded (step : σ → α → σ → Prop) (C : σ → α → Prop) : σ → α → σ → Prop :=
  fun s a t => step s a t ∧ C s a

def runList (next : σ → α → Option σ) : σ → List α → Option σ
  | s, [] => some s
  | s, a :: as => (next s a).bind (fun t => runList next t as)

theorem runList_run {next : σ → α → Option σ} (h : runList next s as = some t) :
    Run (fun s a t => next s a = some t) s as t := by
  induction as generalizing s with
  | nil => cases h; exact .nil
  | cons a as ih =>
    simp only [runList, Option.bind_eq_some_iff] at h
    obtain ⟨u, hu, ht⟩ := h
    exact .cons hu (ih ht)

def guardedNext (next : σ → α → Option σ) (C : σ → α → Prop) [∀ s a, Decidable (C s a)] (s : σ)
    (a : α) : Option σ := if C s a then next s a else none

theorem runList_guarded {next : σ → α → Option σ} {C : σ → α → Prop} [∀ s a, Decidable (C s a)]
    (h : runList (guardedNext next C) s as = some t) :
    Run (Guarded (fun s a t => next s a = some t) C) s as t := by
  have hr := runList_run h
  clear h
  induction hr with
  | nil => exact .nil
  | snoc _ hs ih =>
    simp only [guardedNext] at hs
    split at hs
    · rename_i hc
      exact ih.snoc ⟨hs, hc⟩
    · cases hs

/-- A condition on each step of the run that a list of inputs makes. -/
def Along (next : σ → α → σ) (C : σ → α → Prop) : σ → List α → Prop
  | _, [] => True
  | s, a :: as => C s a ∧ Along next C (next s a) as

/-- Two conditions agree along a run where they agree at each step from a state that meets an
invariant, and the invariant is kept by the steps that meet them. -/
theorem Along.congr {next : σ → α → σ} {C D : σ → α → Prop} {I : σ → Prop}
    (hCD : ∀ s a, I s → (C s a ↔ D s a)) (hI : ∀ s a, I s → C s a → I (next s a)) (h₀ : I s) :
    Along next C s as ↔ Along next D s as := by
  induction as generalizing s with
  | nil => exact Iff.rfl
  | cons a as ih =>
    constructor
    · intro h
      exact ⟨(hCD s a h₀).1 h.1, (ih (hI s a h₀ h.1)).1 h.2⟩
    · intro h
      have hC := (hCD s a h₀).2 h.1
      exact ⟨hC, (ih (hI s a h₀ hC)).2 h.2⟩

theorem Along.imp {next : σ → α → σ} {C D : σ → α → Prop} {I : σ → Prop}
    (hCD : ∀ s a, I s → C s a → D s a) (hI : ∀ s a, I s → C s a → I (next s a)) (h₀ : I s)
    (h : Along next C s as) : Along next D s as := by
  induction as generalizing s with
  | nil => trivial
  | cons a as ih => exact ⟨hCD s a h₀ h.1, ih (hI s a h₀ h.1) h.2⟩

theorem Along.and {next : σ → α → σ} {C D : σ → α → Prop} :
    Along next (fun s a => C s a ∧ D s a) s as ↔ Along next C s as ∧ Along next D s as := by
  induction as generalizing s with
  | nil => exact (and_self_iff).symm
  | cons a as ih =>
    simp only [Along, ih]
    exact and_and_and_comm

theorem split_snoc {xs before later : List α} (h : xs ++ [a] = before ++ x :: later) :
    (later = [] ∧ xs = before ∧ a = x) ∨
      ∃ later', later = later' ++ [a] ∧ xs = before ++ x :: later' := by
  rcases List.eq_nil_or_concat later with rfl | ⟨later', y, rfl⟩
  · obtain ⟨hb, ha⟩ := List.append_inj' h rfl
    exact .inl ⟨rfl, hb, List.singleton_inj.1 ha⟩
  · have h' : xs ++ [a] = (before ++ x :: later') ++ [y] := by
      simpa only [List.append_assoc, List.cons_append, List.concat_eq_append] using h
    obtain ⟨hb, ha⟩ := List.append_inj' h' rfl
    cases List.singleton_inj.1 ha
    exact .inr ⟨later', List.concat_eq_append, hb⟩

end QueryMind.Lib
