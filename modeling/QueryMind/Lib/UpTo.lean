import Mathlib.Data.List.Infix

namespace QueryMind.Lib
set_option autoImplicit true

/-- The part of a list up to its first element with a property, that element included. -/
def upTo (p : α → Bool) : List α → List α
  | [] => []
  | a :: l => if p a then [a] else a :: upTo p l

theorem upTo_of_none (h : l.any p = false) : upTo p l = l := by
  induction l with
  | nil => rfl
  | cons a l ih =>
    rw [List.any_cons, Bool.or_eq_false_iff] at h
    rw [upTo, h.1, ih h.2]
    rfl

theorem upTo_append_of_any (h : l.any p = true) : upTo p (l ++ l') = upTo p l := by
  induction l with
  | nil => cases h
  | cons a l ih =>
    rw [List.any_cons, Bool.or_eq_true] at h
    rw [List.cons_append, upTo, upTo]
    split
    · rfl
    · rename_i hp
      rw [ih (h.resolve_left hp)]

theorem upTo_append_of_none (h : l.any p = false) : upTo p (l ++ l') = l ++ upTo p l' := by
  induction l with
  | nil => rfl
  | cons a l ih =>
    rw [List.any_cons, Bool.or_eq_false_iff] at h
    rw [List.cons_append, upTo, h.1, ih h.2]
    rfl

theorem upTo_append_prefix (p : α → Bool) (l l' : List α) : upTo p l <+: upTo p (l ++ l') := by
  cases h : l.any p with
  | true => rw [upTo_append_of_any h]
  | false =>
    rw [upTo_of_none h, upTo_append_of_none h]
    exact List.prefix_append _ _

theorem upTo_split (h : l.any p = true) :
    ∃ pre a rest, l = pre ++ a :: rest ∧ pre.any p = false ∧ p a = true ∧
      upTo p l = pre ++ [a] := by
  induction l with
  | nil => cases h
  | cons b l ih =>
    by_cases hb : p b = true
    · exact ⟨[], b, l, rfl, rfl, hb, by rw [upTo, if_pos hb]; rfl⟩
    · rw [List.any_cons, Bool.or_eq_true] at h
      obtain ⟨pre, a, rest, rfl, hpre, ha, hu⟩ := ih (h.resolve_left hb)
      refine ⟨b :: pre, a, rest, rfl, ?_, ha, ?_⟩
      · rw [List.any_cons, hpre, Bool.or_false]
        exact Bool.eq_false_iff.2 hb
      · rw [upTo, if_neg hb, hu]
        rfl

end QueryMind.Lib
