import Mathlib.Data.List.Basic

namespace QueryMind.Lib
set_option autoImplicit true

/-- The first element that the iteration of a set yields; any one of them may come first. -/
structure SetOrder where
  first : List String → Option String
  mem : ∀ l q, first l = some q → q ∈ l
  isSome : ∀ l, l ≠ [] → (first l).isSome = true

def listOrder : SetOrder where
  first := List.head?
  mem := fun _ _ h => List.mem_of_mem_head? h
  isSome := fun _ h => List.isSome_head?.2 h

/-- The iteration of a set that starts with a given element, wherever the set has it. -/
def SetOrder.preferring (q : String) : SetOrder where
  first := fun l => if q ∈ l then some q else l.head?
  mem := by
    intro l q' h
    split at h
    · rename_i hq
      exact Option.some.inj h ▸ hq
    · exact List.mem_of_mem_head? h
  isSome := by
    intro l h
    split
    · rfl
    · exact List.isSome_head?.2 h

theorem SetOrder.preferring_first (h : q ∈ l) : (SetOrder.preferring q).first l = some q :=
  if_pos h

theorem SetOrder.first_nil (order : SetOrder) : order.first [] = none := by
  cases hq : order.first [] with
  | none => rfl
  | some q => cases order.mem _ _ hq

/-- All orders start alike just when there is one element to start with. -/
theorem SetOrder.first_order_free_iff (l : List String) :
    (∀ order order' : SetOrder, order.first l = order'.first l) ↔
      ∀ q ∈ l, ∀ q' ∈ l, q = q' := by
  constructor
  · intro h q hq q' hq'
    have he := h (.preferring q) (.preferring q')
    rw [preferring_first hq, preferring_first hq'] at he
    exact Option.some.inj he
  · intro h order order'
    cases l with
    | nil => rw [first_nil, first_nil]
    | cons q l =>
      obtain ⟨q₁, h₁⟩ := Option.isSome_iff_exists.1 (order.isSome _ (List.cons_ne_nil q l))
      obtain ⟨q₂, h₂⟩ := Option.isSome_iff_exists.1 (order'.isSome _ (List.cons_ne_nil q l))
      rw [h₁, h₂, h q₁ (order.mem _ _ h₁) q₂ (order'.mem _ _ h₂)]

end QueryMind.Lib
