import Mathlib.Algebra.BigOperators.Group.List.Basic
import Mathlib.Algebra.Order.Ring.Unbundled.Rat
import Mathlib.Tactic.Linarith

namespace QueryMind.Lib
set_option autoImplicit true

/-- What `random()` gives. -/
structure Chance where
  value : Rat
  nonneg : 0 ≤ value
  lt_one : value < 1

namespace Draws

/-- `randint(lo, hi)`, made of any number drawn. -/
def randint (lo hi n : Nat) : Nat := lo + n % (hi + 1 - lo)

theorem le_randint (lo hi n : Nat) : lo ≤ randint lo hi n := Nat.le_add_right _ _

theorem randint_le (h : lo ≤ hi) (n : Nat) : randint lo hi n ≤ hi := by
  have hlt := Nat.mod_lt n (show 0 < hi + 1 - lo by omega)
  rw [randint]
  omega

theorem randint_sub (hl : lo ≤ k) (hh : k ≤ hi) : randint lo hi (k - lo) = k := by
  rw [randint, Nat.mod_eq_of_lt (by omega)]
  omega

def choice (xs : List α) (h : xs ≠ []) (n : Nat) : α :=
  xs.get ⟨n % xs.length, Nat.mod_lt n (List.length_pos_iff.2 h)⟩

def shuffleFrom (draws : Nat → Nat) : Nat → Array α → Array α
  | 0, xs => xs
  | i + 1, xs => shuffleFrom draws i (xs.swapIfInBounds (i + 1) (draws (i + 1) % (i + 2)))

/-- `shuffle(xs)`: each position from the last one on, swapped with one up to it. -/
def shuffle (draws : Nat → Nat) (xs : List α) : List α :=
  (shuffleFrom draws (xs.length - 1) xs.toArray).toList

theorem swapIfInBounds_perm (xs : Array α) (i j : Nat) :
    (xs.swapIfInBounds i j).toList.Perm xs.toList := by
  rw [Array.swapIfInBounds]
  split
  · split
    · exact (Array.swap_perm _ _).toList
    · exact List.Perm.refl _
  · exact List.Perm.refl _

theorem shuffleFrom_perm (draws : Nat → Nat) (n : Nat) (xs : Array α) :
    (shuffleFrom draws n xs).toList.Perm xs.toList := by
  induction n generalizing xs with
  | zero => exact List.Perm.refl _
  | succ i ih => exact (ih _).trans (swapIfInBounds_perm xs _ _)

theorem shuffle_perm (draws : Nat → Nat) (xs : List α) : (shuffle draws xs).Perm xs :=
  shuffleFrom_perm draws _ _

def bisect (key : Nat → Rat) (x : Rat) (lo hi : Nat) : Nat :=
  if lo < hi then
    if x < key ((lo + hi) / 2) then bisect key x lo ((lo + hi) / 2)
    else bisect key x ((lo + hi) / 2 + 1) hi
  else lo
termination_by hi - lo

theorem bisect_le (key : Nat → Rat) (x : Rat) (h : lo ≤ hi) : bisect key x lo hi ≤ hi := by
  fun_induction bisect key x lo hi with
  | case1 lo hi hlt hx ih => exact (ih (by omega)).trans (by omega)
  | case2 lo hi hlt hx ih => exact ih (by omega)
  | case3 lo hi hlt => exact h

/-- The sum of the first weights, as `accumulate` has them. -/
def cumulative (entries : List (α × Rat)) (i : Nat) : Rat :=
  ((entries.take (i + 1)).map Prod.snd).sum

def total (entries : List (α × Rat)) : Rat := (entries.map Prod.snd).sum

end Draws

open Draws

/-- Choices and their weights, which are more than nothing together. -/
structure Distribution (α : Type) where
  entries : List (α × Rat)
  positive : 0 < total entries

namespace Distribution
variable (d : Distribution α)

def index (draw : Chance) : Nat :=
  bisect (cumulative d.entries) (draw.value * total d.entries) 0 (d.entries.length - 1)

theorem entries_ne_nil : d.entries ≠ [] := by
  intro h
  have hpos := d.positive
  rw [h] at hpos
  exact absurd hpos (lt_irrefl 0)

theorem index_lt (draw : Chance) : d.index draw < d.entries.length := by
  have hlen := List.length_pos_iff.2 d.entries_ne_nil
  have hle := bisect_le (cumulative d.entries) (draw.value * total d.entries)
    (Nat.zero_le (d.entries.length - 1))
  rw [index]
  omega

/-- `choices(population, weights, k=1)[0]`. -/
def pick (draw : Chance) : α := (d.entries.get ⟨d.index draw, d.index_lt draw⟩).1

theorem pick_mem (draw : Chance) : ∃ weight, (d.pick draw, weight) ∈ d.entries :=
  ⟨_, List.get_mem d.entries ⟨d.index draw, d.index_lt draw⟩⟩

end Distribution

/-- `choices`, which fails where the weights are nothing together. -/
def Draws.weightedChoice (entries : List (α × Rat)) (draw : Chance) : Option α :=
  if h : 0 < total entries then some (Distribution.pick ⟨entries, h⟩ draw) else none

theorem Draws.weightedChoice_mem (h : weightedChoice entries draw = some x) :
    ∃ weight, (x, weight) ∈ entries := by
  rw [weightedChoice] at h
  split at h
  · rename_i hpos
    obtain rfl := Option.some.inj h
    exact Distribution.pick_mem ⟨entries, hpos⟩ draw
  · cases h

end QueryMind.Lib
