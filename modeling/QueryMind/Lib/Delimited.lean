import Mathlib.Data.List.Infix
import Mathlib.Data.List.TakeWhile

namespace QueryMind.Lib
set_option autoImplicit true

section
variable [DecidableEq α] {d l u : List α}

/-- A list cut at the first place where a delimiter stands. -/
def cut (d : List α) : List α → Option (List α × List α)
  | [] => if d = [] then some ([], []) else none
  | x :: xs =>
    if d <+: x :: xs then some ([], (x :: xs).drop d.length)
    else (cut d xs).map (fun r => (x :: r.1, r.2))

theorem cut_prefix (d v : List α) : cut d (d ++ v) = some ([], v) := by
  cases hl : d ++ v with
  | nil =>
    obtain ⟨rfl, rfl⟩ := List.append_eq_nil_iff.1 hl
    rfl
  | cons x xs =>
    have hp : d <+: x :: xs := hl ▸ List.prefix_append d v
    rw [cut, if_pos hp, ← hl, List.drop_left]

theorem cut_append (v : List α) (h : ¬ d <:+: u ++ d.dropLast) :
    cut d (u ++ (d ++ v)) = some (u, v) := by
  induction u with
  | nil => exact cut_prefix d v
  | cons x u ih =>
    have hn : ¬ d <+: x :: (u ++ (d ++ v)) := by
      intro hp
      apply h
      apply List.IsPrefix.isInfix
      have hq : x :: u ++ d.dropLast <+: x :: (u ++ (d ++ v)) := by
        rw [List.cons_append, List.prefix_cons_inj, List.prefix_append_right_inj]
        exact (List.dropLast_prefix d).trans (List.prefix_append d v)
      apply List.prefix_of_prefix_length_le hp hq
      rw [List.length_append, List.length_dropLast, List.length_cons]
      omega
    have hi : ¬ d <:+: u ++ d.dropLast := fun hi => h (List.infix_cons hi)
    rw [List.cons_append, cut, if_neg hn, ih hi]
    rfl

theorem cut_none (h : ¬ d <:+: l) : cut d l = none := by
  induction l with
  | nil =>
    have hd : d ≠ [] := fun hd => h (hd ▸ List.nil_infix)
    rw [cut, if_neg hd]
  | cons x xs ih =>
    rw [cut, if_neg fun hp => h hp.isInfix, ih fun hi => h (List.infix_cons hi)]
    rfl

theorem cut_eq_none_iff : cut d l = none ↔ ¬ d <:+: l := by
  constructor
  · intro h hi
    induction l with
    | nil =>
      rw [cut, List.infix_nil.1 hi] at h
      cases h
    | cons x xs ih =>
      rw [cut] at h
      by_cases hp : d <+: x :: xs
      · rw [if_pos hp] at h
        cases h
      · rw [if_neg hp, Option.map_eq_none_iff] at h
        exact ih h ((List.infix_cons_iff.1 hi).resolve_left hp)
  · exact cut_none

theorem exists_cut (d u v : List α) : ∃ a b, cut d (u ++ (d ++ v)) = some (a, b) ∧ a <+: u := by
  induction u with
  | nil => exact ⟨[], v, cut_prefix d v, List.nil_prefix⟩
  | cons x u ih =>
    rw [List.cons_append, cut]
    by_cases hp : d <+: x :: (u ++ (d ++ v))
    · rw [if_pos hp]
      exact ⟨[], _, rfl, List.nil_prefix⟩
    · rw [if_neg hp]
      obtain ⟨a, b, hab, ha⟩ := ih
      rw [hab]
      exact ⟨x :: a, b, rfl, (List.prefix_cons_inj x).2 ha⟩

end

theorem infix_of_infix_append (h : d <:+: u ++ v) (hu : ∀ x ∈ u, x ∉ d) : d = [] ∨ d <:+: v := by
  induction u with
  | nil => exact .inr h
  | cons x u ih =>
    rw [List.cons_append, List.infix_cons_iff] at h
    rcases h with hp | hi
    · cases d with
      | nil => exact .inl rfl
      | cons y d =>
        obtain ⟨rfl, _⟩ := List.cons_prefix_cons.1 hp
        exact absurd List.mem_cons_self (hu y List.mem_cons_self)
    · exact ih hi fun y hy => hu y (List.mem_cons_of_mem x hy)

theorem infix_dropWhile {p : α → Bool} (h : d <:+: l) (hp : ∀ x ∈ d, p x = false) :
    d = [] ∨ d <:+: l.dropWhile p := by
  apply infix_of_infix_append (u := l.takeWhile p)
  · rwa [List.takeWhile_append_dropWhile]
  · intro x hx hd
    exact Bool.false_ne_true ((hp x hd).symm.trans (List.mem_takeWhile_imp hx))

theorem suffix_append_cases (h : l <:+ u ++ v) : l <:+ v ∨ ∃ w, w <:+ u ∧ w ≠ [] ∧ l = w ++ v := by
  rcases List.suffix_or_suffix_of_suffix h (List.suffix_append u v) with hv | hl
  · exact .inl hv
  · obtain ⟨w, rfl⟩ := hl
    by_cases hw : w = []
    · rw [hw, List.nil_append]
      exact .inl List.suffix_rfl
    · obtain ⟨t, ht⟩ := h
      rw [← List.append_assoc] at ht
      exact .inr ⟨w, ⟨t, List.append_cancel_right ht⟩, hw, rfl⟩

theorem infix_iff_suffix {d l : List α} : d <:+: l ↔ ∃ z, z <:+ l ∧ d <+: z :=
  List.infix_iff_prefix_suffix.trans (exists_congr fun _ => and_comm)

theorem dropWhile_append_cons {p : α → Bool} {x : α} (hx : p x = false) (u v : List α) :
    (u ++ x :: v).dropWhile p = u.dropWhile p ++ x :: v := by
  induction u with
  | nil => exact List.dropWhile_cons_of_neg (by rw [hx]; exact Bool.false_ne_true)
  | cons y u ih =>
    by_cases hy : p y = true
    · rw [List.cons_append, List.dropWhile_cons_of_pos hy, ih, List.dropWhile_cons_of_pos hy]
    · rw [List.cons_append, List.dropWhile_cons_of_neg hy, List.dropWhile_cons_of_neg hy,
        List.cons_append]

theorem exists_leading [DecidableEq α] (x : α) (l : List α) :
    ∃ n r, l = List.replicate n x ++ r ∧ r.head? ≠ some x := by
  induction l with
  | nil => exact ⟨0, [], rfl, by simp⟩
  | cons y l ih =>
    by_cases hy : y = x
    · obtain ⟨n, r, rfl, hr⟩ := ih
      exact ⟨n + 1, r, by rw [hy, List.replicate_succ, List.cons_append], hr⟩
    · exact ⟨0, y :: l, rfl, by simpa using hy⟩

theorem exists_trailing [DecidableEq α] (x : α) (l : List α) :
    ∃ r n, l = r ++ List.replicate n x ∧ r.getLast? ≠ some x := by
  obtain ⟨n, r, hl, hr⟩ := exists_leading x l.reverse
  refine ⟨r.reverse, n, ?_, ?_⟩
  · rw [← List.reverse_replicate, ← List.reverse_append, ← hl, List.reverse_reverse]
  · rwa [List.getLast?_reverse]

theorem exists_core [DecidableEq α] (x : α) (l : List α) :
    (∃ m, l = List.replicate m x) ∨
      ∃ m core j, l = List.replicate m x ++ (core ++ List.replicate j x) ∧ core ≠ [] ∧
        core.head? ≠ some x ∧ core.getLast? ≠ some x := by
  obtain ⟨m, r, rfl, hr⟩ := exists_leading x l
  obtain ⟨core, j, rfl, hc⟩ := exists_trailing x r
  by_cases hne : core = []
  · exact .inl ⟨m + j, by rw [hne, List.nil_append, List.replicate_append_replicate]⟩
  · rw [List.head?_append_of_ne_nil _ hne] at hr
    exact .inr ⟨m, core, j, rfl, hne, hr, hc⟩

theorem suffix_replicate {n : Nat} {x : α} (h : l <:+ List.replicate n x) :
    ∃ i, l = List.replicate i x :=
  ⟨l.length, List.eq_replicate_iff.2 ⟨rfl, fun _ hy => List.eq_of_mem_replicate (h.subset hy)⟩⟩

end QueryMind.Lib
