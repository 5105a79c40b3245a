import Mathlib.Logic.Function.Basic

namespace QueryMind.Lib
set_option autoImplicit true

namespace Memo

variable {κ : Type u} {α : Type v} {β : Type w}

section
variable [DecidableEq κ] (key : α → κ) (f : α → β) (keep : β → Bool)

/-- Look a result up under its key, or compute it and keep it when it is worth keeping. -/
def consult (cache : κ → Option β) (a : α) : β × (κ → Option β) :=
  match cache (key a) with
  | some b => (b, cache)
  | none => (f a, if keep (f a) then Function.update cache (key a) (some (f a)) else cache)

end

/-- Every stored result is one that was computed for its key and was worth keeping. -/
def Sound (key : α → κ) (f : α → β) (keep : β → Bool) (cache : κ → Option β) : Prop :=
  ∀ k b, cache k = some b → ∃ a, key a = k ∧ f a = b ∧ keep b = true

theorem sound_empty {key : α → κ} {f : α → β} {keep : β → Bool} :
    Sound key f keep fun _ => none := by
  intro k b h
  cases h

section
variable [DecidableEq κ] {key : α → κ} {f : α → β} {keep : β → Bool} {cache : κ → Option β}

theorem consult_hit (h : cache (key a) = some b) : consult key f keep cache a = (b, cache) := by
  rw [consult, h]

theorem consult_miss (h : cache (key a) = none) :
    consult key f keep cache a =
      (f a, if keep (f a) then Function.update cache (key a) (some (f a)) else cache) := by
  rw [consult, h]

theorem Sound.update (h : Sound key f keep cache) (hk : keep (f a) = true) :
    Sound key f keep (Function.update cache (key a) (some (f a))) := by
  intro k b hb
  by_cases he : k = key a
  · rw [he, Function.update_self] at hb
    cases hb
    exact ⟨a, he.symm, rfl, hk⟩
  · rw [Function.update_of_ne he] at hb
    exact h k b hb

theorem Sound.consult (h : Sound key f keep cache) (a : α) :
    Sound key f keep (consult key f keep cache a).2 := by
  cases hc : cache (key a) with
  | some b =>
    rw [consult_hit hc]
    exact h
  | none =>
    rw [consult_miss hc]
    by_cases hk : keep (f a) = true
    · simp only [if_pos hk]
      exact h.update hk
    · simp only [if_neg hk]
      exact h

/-- A key that settles the result hides the cache. -/
theorem Sound.consult_eq (h : Sound key f keep cache) (hf : f.FactorsThrough key) (a : α) :
    (Memo.consult key f keep cache a).1 = f a := by
  cases hc : cache (key a) with
  | some b =>
    obtain ⟨a', hk, hb, _⟩ := h _ _ hc
    rw [consult_hit hc, ← hb]
    exact hf hk
  | none => rw [consult_miss hc]

end

end Memo

namespace Memo
variable {κ : Type u} {α : Type v} {β : Type w}

section
variable [DecidableEq κ] (key : α → κ) (f : α → β)

/-- Look one argument up after the other, keeping every result. -/
def consultAll : (κ → Option β) → List α → List β × (κ → Option β)
  | cache, [] => ([], cache)
  | cache, a :: as =>
    let r := consult key f (fun _ => true) cache a
    let rest := consultAll r.2 as
    (r.1 :: rest.1, rest.2)

/-- The first of some arguments with the key of a given one. -/
def firstWith (as : List α) (a : α) : α := (as.find? fun a' => key a' = key a).getD a

end

section
variable [DecidableEq κ] {key : α → κ} {f : α → β} {cache : κ → Option β} {as : List α}

theorem firstWith_mem (h : a ∈ as) : firstWith key as a ∈ as := by
  rw [firstWith]
  cases hf : as.find? fun a' => key a' = key a with
  | none => exact h
  | some a' => exact List.mem_of_find?_eq_some hf

variable (key) in
theorem key_firstWith (as : List α) (a : α) : key (firstWith key as a) = key a := by
  rw [firstWith]
  cases hf : as.find? fun a' => key a' = key a with
  | none => rfl
  | some a' => exact of_decide_eq_true (List.find?_some (p := fun a' => key a' = key a) hf)

theorem firstWith_congr (h : key a = key a') (ha : a ∈ as) :
    firstWith key as a = firstWith key as a' := by
  rw [firstWith, firstWith, ← h]
  cases hf : as.find? fun b => key b = key a with
  | none =>
    have hn := List.find?_eq_none.1 hf a ha
    exact absurd (decide_eq_true rfl) hn
  | some b => rfl

theorem firstWith_cons_of_eq (h : key a = key a') : firstWith key (a :: as) a' = a := by
  rw [firstWith, List.find?_cons, decide_eq_true h]
  rfl

theorem firstWith_cons_of_ne (h : key a ≠ key a') :
    firstWith key (a :: as) a' = firstWith key as a' := by
  rw [firstWith, List.find?_cons, decide_eq_false h, firstWith]

theorem firstWith_append (h : a ∈ as) (bs : List α) :
    firstWith key (as ++ bs) a = firstWith key as a := by
  rw [firstWith, List.find?_append, firstWith]
  cases hf : as.find? fun a' => key a' = key a with
  | none => exact absurd (decide_eq_true rfl) (List.find?_eq_none.1 hf a h)
  | some b => rfl

theorem firstWith_map (g : γ → α) (cs : List γ) (c : γ) :
    firstWith key (cs.map g) (g c) = g (firstWith (fun c => key (g c)) cs c) := by
  rw [firstWith, List.find?_map, firstWith]
  exact Option.getD_map g c _

theorem consultAll_eq (as : List α) (cache : κ → Option β) :
    (consultAll key f cache as).1 =
      as.map fun a => (cache (key a)).getD (f (firstWith key as a)) := by
  induction as generalizing cache with
  | nil => rfl
  | cons a as ih =>
    rw [consultAll, List.map_cons, firstWith_cons_of_eq rfl]
    cases hc : cache (key a) with
    | some b =>
      rw [consult_hit hc, ih]
      refine congrArg (List.cons b) (List.map_congr_left ?_)
      intro a' _
      change (cache (key a')).getD _ = _
      by_cases hk : key a = key a'
      · rw [← hk, hc]
        rfl
      · rw [firstWith_cons_of_ne hk]
    | none =>
      rw [consult_miss hc, if_pos rfl, ih]
      refine congrArg (List.cons (f a)) (List.map_congr_left ?_)
      intro a' _
      change (Function.update cache (key a) (some (f a)) (key a')).getD _ = _
      by_cases hk : key a = key a'
      · rw [← hk, Function.update_self, hc, firstWith_cons_of_eq hk]
        rfl
      · rw [Function.update_of_ne (Ne.symm hk), firstWith_cons_of_ne hk]

theorem consultAll_cache (as : List α) (cache : κ → Option β) (k : κ) :
    (consultAll key f cache as).2 k = (cache k).or ((as.find? fun a => key a = k).map f) := by
  induction as generalizing cache with
  | nil => exact (Option.or_none).symm
  | cons a as ih =>
    rw [consultAll, List.find?_cons]
    cases hc : cache (key a) with
    | some b =>
      rw [consult_hit hc]
      refine (ih cache).trans ?_
      by_cases hk : key a = k
      · rw [← hk, hc, Option.some_or, Option.some_or]
      · rw [decide_eq_false hk]
    | none =>
      rw [consult_miss hc, if_pos rfl]
      refine (ih _).trans ?_
      change (Function.update cache (key a) (some (f a)) k).or _ = _
      by_cases hk : key a = k
      · rw [← hk, Function.update_self, hc, decide_eq_true rfl, Option.some_or, Option.none_or]
        rfl
      · rw [Function.update_of_ne (Ne.symm hk), decide_eq_false hk]

/-- Whatever is stored under the key of one of the arguments is what it gives. -/
def Agrees (key : α → κ) (f : α → β) (cache : κ → Option β) (as : List α) : Prop :=
  ∀ a ∈ as, ∀ b, cache (key a) = some b → b = f a

theorem Agrees.consultAll {as bs : List α} (hc : Agrees key f cache (as ++ bs))
    (h : ∀ a ∈ as ++ bs, ∀ a' ∈ as ++ bs, key a = key a' → f a = f a') :
    (consultAll key f cache as).1 = as.map f ∧
      Agrees key f (Memo.consultAll key f cache as).2 bs := by
  constructor
  · rw [consultAll_eq]
    apply List.map_congr_left
    intro a ha
    cases hk : cache (key a) with
    | some b => exact hc a (List.mem_append_left _ ha) b hk
    | none =>
      exact h _ (List.mem_append_left _ (firstWith_mem ha)) a (List.mem_append_left _ ha)
        (key_firstWith key as a)
  · intro a ha b hb
    rw [consultAll_cache, Option.or_eq_some_iff] at hb
    rcases hb with hb | ⟨_, hb⟩
    · exact hc a (List.mem_append_right _ ha) b hb
    · obtain ⟨a', hf, rfl⟩ := Option.map_eq_some_iff.1 hb
      exact h a' (List.mem_append_left _ (List.mem_of_find?_eq_some hf)) a
        (List.mem_append_right _ ha)
        (of_decide_eq_true (List.find?_some (p := fun c => decide (key c = key a)) hf))

variable (key f) in
/-- From nothing stored, lookups give what the arguments give, as far as can be told, just when
arguments with one key give the same. -/
theorem consultAll_empty_iff (told : β → γ) (as : List α) :
    (consultAll key f (fun _ => none) as).1.map told = as.map (fun a => told (f a)) ↔
      ∀ a ∈ as, ∀ a' ∈ as, key a = key a' → told (f a) = told (f a') := by
  rw [consultAll_eq, List.map_map, List.map_inj_left]
  constructor
  · intro h a ha a' ha' hk
    rw [← h a ha, ← h a' ha']
    change told (f (firstWith key as a)) = told (f (firstWith key as a'))
    rw [firstWith_congr hk ha]
  · intro h a ha
    exact h _ (firstWith_mem ha) _ ha (key_firstWith key as a)

end

end Memo

theorem factorsThrough_map {f : α → γ} {g : α → β} (h : g.FactorsThrough f) :
    (List.map g).FactorsThrough (List.map f) := by
  intro as as' he
  induction as generalizing as' with
  | nil =>
    rw [List.map_nil, eq_comm, List.map_eq_nil_iff] at he
    rw [he]
  | cons a as ih =>
    cases as' with
    | nil => cases he
    | cons a' as' =>
      obtain ⟨ha, has⟩ := List.cons.inj he
      rw [List.map_cons, List.map_cons, h ha, ih has]

end QueryMind.Lib
