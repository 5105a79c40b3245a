import Mathlib.Data.List.Induction
import Mathlib.Data.List.Nodup

namespace QueryMind.Lib
set_option autoImplicit true

/-- A dictionary, in the order in which its keys were first set. -/
abbrev Dict (κ α : Type) := List (κ × α)

namespace Dict

def keys (d : Dict κ α) : List κ := d.map (·.1)

theorem keys_cons (e : κ × α) (d : Dict κ α) : keys (e :: d) = e.1 :: keys d := rfl

variable {κ : Type} [DecidableEq κ]

def get? (d : Dict κ α) (k : κ) : Option α := (d.find? fun e => e.1 = k).map (·.2)

def set : Dict κ α → κ → α → Dict κ α
  | [], k, v => [(k, v)]
  | e :: d, k, v => if e.1 = k then (k, v) :: d else e :: set d k v

def alter (d : Dict κ α) (k : κ) (f : Option α → α) : Dict κ α := set d k (f (get? d k))

theorem get_cons (e : κ × α) (d : Dict κ α) (k : κ) :
    get? (e :: d) k = if e.1 = k then some e.2 else get? d k := by
  rw [get?, List.find?_cons]
  by_cases h : e.1 = k
  · rw [if_pos h, decide_eq_true h]
    rfl
  · rw [if_neg h, decide_eq_false h]
    rfl

theorem get_set (d : Dict κ α) (k k' : κ) (v : α) :
    get? (set d k v) k' = if k = k' then some v else get? d k' := by
  induction d with
  | nil => rw [set, get_cons]
  | cons e d ih =>
    rw [set]
    by_cases h : e.1 = k
    · rw [if_pos h, get_cons, get_cons, h]
      split
      · rfl
      · rfl
    · rw [if_neg h, get_cons, get_cons, ih]
      by_cases he : e.1 = k'
      · rw [if_pos he, if_pos he, if_neg fun hk => h (he.trans hk.symm)]
      · rw [if_neg he, if_neg he]

theorem keys_set (d : Dict κ α) (k : κ) (v : α) :
    keys (set d k v) = if k ∈ keys d then keys d else keys d ++ [k] := by
  induction d with
  | nil => rfl
  | cons e d ih =>
    rw [set]
    by_cases h : e.1 = k
    · rw [if_pos h, keys_cons, keys_cons, h, if_pos List.mem_cons_self]
    · have hk : k ∈ e.1 :: keys d ↔ k ∈ keys d := by
        rw [List.mem_cons]
        exact or_iff_right fun hk => h hk.symm
      rw [if_neg h, keys_cons, keys_cons, ih]
      by_cases hm : k ∈ keys d
      · rw [if_pos hm, if_pos (hk.2 hm)]
      · rw [if_neg hm, if_neg fun h => hm (hk.1 h)]
        rfl

theorem get_of_mem {d : Dict κ α} (hn : (keys d).Nodup) (he : e ∈ d) : get? d e.1 = some e.2 := by
  induction d with
  | nil => cases he
  | cons e' d ih =>
    rw [keys_cons, List.nodup_cons] at hn
    rw [get_cons]
    rcases List.mem_cons.1 he with rfl | he
    · rw [if_pos rfl]
    · have hne : e'.1 ≠ e.1 := fun h => hn.1 (List.mem_map.2 ⟨e, he, h.symm⟩)
      rw [if_neg hne]
      exact ih hn.2 he

end Dict

def firsts [DecidableEq κ] (l : List κ) : List κ :=
  l.foldl (fun seen k => if k ∈ seen then seen else seen ++ [k]) []

def valuesAt [DecidableEq κ] (k : κ) (l : List (κ × β)) : List β :=
  (l.filter fun e => e.1 = k).map (·.2)

/-- A dictionary that keeps, for each key, what has come of the values given for it. -/
def tally [DecidableEq κ] (f : Option α → β → α) (l : List (κ × β)) : Dict κ α :=
  l.foldl (fun d e => d.alter e.1 (f · e.2)) []

section Tally
variable {κ : Type} [DecidableEq κ]

theorem firsts_append (l : List κ) (k : κ) :
    firsts (l ++ [k]) = if k ∈ firsts l then firsts l else firsts l ++ [k] := by
  rw [firsts, List.foldl_append]
  rfl

theorem firsts_spec (l : List κ) : (firsts l).Nodup ∧ ∀ k, k ∈ firsts l ↔ k ∈ l := by
  induction l using List.reverseRecOn with
  | nil => exact ⟨List.nodup_nil, fun k => Iff.rfl⟩
  | append_singleton l k ih =>
    rw [firsts_append]
    by_cases h : k ∈ firsts l
    · rw [if_pos h]
      refine ⟨ih.1, fun k' => ?_⟩
      rw [ih.2, List.mem_append, List.mem_singleton]
      exact ⟨.inl, fun hk => hk.elim id fun hk => hk ▸ (ih.2 k).1 h⟩
    · rw [if_neg h]
      refine ⟨ih.1.append (List.nodup_singleton k) ?_, fun k' => ?_⟩
      · exact List.disjoint_singleton.2 h
      · rw [List.mem_append, List.mem_append, ih.2]

theorem valuesAt_append (k : κ) (l m : List (κ × β)) :
    valuesAt k (l ++ m) = valuesAt k l ++ valuesAt k m := by
  rw [valuesAt, List.filter_append, List.map_append]
  rfl

theorem valuesAt_singleton (k : κ) (e : κ × β) :
    valuesAt k [e] = if e.1 = k then [e.2] else [] := by
  rw [valuesAt, List.filter_singleton]
  by_cases h : e.1 = k
  · rw [if_pos h, decide_eq_true h]
    rfl
  · rw [if_neg h, decide_eq_false h]
    rfl

theorem tally_append (f : Option α → β → α) (l : List (κ × β)) (e : κ × β) :
    tally f (l ++ [e]) = (tally f l).alter e.1 (f · e.2) := by
  rw [tally, List.foldl_append]
  rfl

theorem keys_tally (f : Option α → β → α) (l : List (κ × β)) :
    (tally f l).keys = firsts (l.map (·.1)) := by
  induction l using List.reverseRecOn with
  | nil => rfl
  | append_singleton l e ih =>
    rw [tally_append, Dict.alter, Dict.keys_set, ih, List.map_append, List.map_singleton,
      firsts_append]

theorem get_tally (f : Option α → β → α) (l : List (κ × β)) (k : κ) :
    (tally f l).get? k = (valuesAt k l).foldl (fun v x => some (f v x)) none := by
  induction l using List.reverseRecOn with
  | nil => rfl
  | append_singleton l e ih =>
    rw [tally_append, Dict.alter, Dict.get_set, valuesAt_append, valuesAt_singleton, ih]
    by_cases h : e.1 = k
    · rw [if_pos h, if_pos h, List.foldl_append, ← ih, h, ih]
      rfl
    · rw [if_neg h, if_neg h, List.append_nil]

end Tally

end QueryMind.Lib
