import Mathlib.Data.List.FinRange
import Mathlib.Data.List.Pairwise
import Mathlib.Data.List.Sort

namespace QueryMind.Lib
set_option autoImplicit true

variable {ρ : Type} [LinearOrder ρ] [Zero ρ]

/-- A comparator that divides what it compares into classes and orders these totally. -/
structure ConsistentComparator (cmp : α → α → ρ) : Prop where
  self : ∀ a, cmp a a = 0
  antisymm : ∀ a b, cmp a b < 0 ↔ 0 < cmp b a
  trans : ∀ a b c, cmp a b ≤ 0 → cmp b c ≤ 0 → cmp a c ≤ 0

namespace ConsistentComparator

variable {cmp : α → α → ρ}

theorem le_zero_iff (h : ConsistentComparator cmp) (a b : α) : cmp a b ≤ 0 ↔ ¬cmp b a < 0 := by
  rw [h.antisymm b a, not_lt]

theorem eq_zero_comm (h : ConsistentComparator cmp) : cmp a b = 0 ↔ cmp b a = 0 := by
  have hone : ∀ a b, cmp a b = 0 → cmp b a = 0 := by
    intro a b he
    apply le_antisymm
    · exact (h.le_zero_iff b a).2 (he ▸ lt_irrefl _)
    · exact le_of_not_gt fun hlt => absurd ((h.antisymm b a).1 hlt) (he ▸ lt_irrefl _)
  exact ⟨hone a b, hone b a⟩

theorem comp (h : ConsistentComparator cmp) (f : β → α) :
    ConsistentComparator fun a b => cmp (f a) (f b) where
  self := fun a => h.self (f a)
  antisymm := fun a b => h.antisymm (f a) (f b)
  trans := fun a b c => h.trans (f a) (f b) (f c)

theorem swap (h : ConsistentComparator cmp) : ConsistentComparator fun a b => cmp b a where
  self := h.self
  antisymm := fun a b => h.antisymm b a
  trans := fun a b c hab hbc => h.trans c b a hbc hab

end ConsistentComparator

/-- The first position stands before the second in a stable order. -/
def Before (cmp : Fin n → Fin n → ρ) (i j : Fin n) : Prop := cmp i j < 0 ∨ cmp i j = 0 ∧ i < j

/-- A sort may return any arrangement where the comparator is not consistent, and where it is, the
one that is in order and keeps the positions of equals. -/
def IsSort (cmp : Fin n → Fin n → ρ) (order : List (Fin n)) : Prop :=
  order.Perm (List.finRange n) ∧ (ConsistentComparator cmp → order.Pairwise (Before cmp))

variable {cmp num : Fin n → Fin n → ρ}

theorem before_asymm (h : ConsistentComparator cmp) (hij : Before cmp i j) : ¬Before cmp j i := by
  rintro (hji | ⟨hji, hlt⟩)
  · have hgt := (h.antisymm j i).1 hji
    rcases hij with hij | ⟨hij, _⟩
    · exact absurd hij (lt_asymm hgt)
    · exact absurd hgt (hij ▸ lt_irrefl _)
  · rcases hij with hij | ⟨_, hlt'⟩
    · exact absurd hij (h.eq_zero_comm.1 hji ▸ lt_irrefl _)
    · exact absurd hlt (lt_asymm hlt')

theorem before_or (h : ConsistentComparator cmp) (hij : i ≠ j) :
    Before cmp i j ∨ Before cmp j i := by
  rcases lt_trichotomy (cmp i j) 0 with hlt | heq | hgt
  · exact .inl (.inl hlt)
  · rcases lt_or_gt_of_ne hij with hij | hij
    · exact .inl (.inr ⟨heq, hij⟩)
    · exact .inr (.inr ⟨h.eq_zero_comm.1 heq, hij⟩)
  · exact .inr (.inl ((h.antisymm j i).2 hgt))

theorem before_trans (h : ConsistentComparator cmp) (hij : Before cmp i j) (hjk : Before cmp j k) :
    Before cmp i k := by
  have hle : ∀ i j, Before cmp i j → cmp i j ≤ 0 :=
    fun i j hb => hb.elim le_of_lt fun hb => hb.1.le
  have hik := h.trans i j k (hle i j hij) (hle j k hjk)
  rcases hik.lt_or_eq with hlt | heq
  · exact .inl hlt
  · have hkj := h.trans k i j (h.eq_zero_comm.1 heq).le (hle i j hij)
    have hji := h.trans j k i (hle j k hjk) (h.eq_zero_comm.1 heq).le
    have hij' : cmp i j = 0 := by
      apply le_antisymm (hle i j hij)
      exact le_of_not_gt ((h.le_zero_iff j i).1 hji)
    have hjk' : cmp j k = 0 := by
      apply le_antisymm (hle j k hjk)
      exact le_of_not_gt ((h.le_zero_iff k j).1 hkj)
    have hlt : i < j := (hij.resolve_left (hij' ▸ lt_irrefl _)).2
    exact .inr ⟨heq, hlt.trans (hjk.resolve_left (hjk' ▸ lt_irrefl _)).2⟩

theorem exists_isSort (h : ConsistentComparator cmp) : ∃ order, IsSort cmp order := by
  classical
  let le : Fin n → Fin n → Prop := fun i j => i = j ∨ Before cmp i j
  have htotal : ∀ i j, le i j ∨ le j i := by
    intro i j
    by_cases hij : i = j
    · exact .inl (.inl hij)
    · exact (before_or h hij).imp .inr .inr
  have htrans : ∀ i j k, le i j → le j k → le i k := by
    rintro i j k (rfl | hij) (rfl | hjk)
    · exact .inl rfl
    · exact .inr hjk
    · exact .inr hij
    · exact .inr (before_trans h hij hjk)
  have : Std.Total le := ⟨htotal⟩
  have : IsTrans (Fin n) le := ⟨htrans⟩
  refine ⟨(List.finRange n).insertionSort le, List.perm_insertionSort le _, ?_⟩
  intro _
  have hnodup : ((List.finRange n).insertionSort le).Nodup :=
    (List.perm_insertionSort le _).nodup_iff.2 (List.nodup_finRange n)
  apply ((List.pairwise_insertionSort le _).and hnodup).imp
  rintro i j ⟨hle, hne⟩
  exact hle.resolve_left hne

theorem pairwise_or {order : List (Fin n)} {R : Fin n → Fin n → Prop}
    (hp : order.Perm (List.finRange n))
    (h : order.Pairwise R) (hij : i ≠ j) : R i j ∨ R j i := by
  have hs : order.Pairwise fun i j => R i j ∨ R j i := h.imp fun hij => .inl hij
  have : Std.Symm fun i j => R i j ∨ R j i := ⟨fun _ _ h => h.symm⟩
  exact hs.forall (hp.mem_iff.2 (List.mem_finRange i)) (hp.mem_iff.2 (List.mem_finRange j)) hij

/-- Every sort is in the order of another comparator exactly where the comparator is consistent and
agrees with the other on which of two rows may stay before a later one. -/
theorem isSort_before_iff (hself : ∀ i, cmp i i = 0) (hnum : ConsistentComparator num) :
    (∀ order, IsSort cmp order → order.Pairwise (Before num)) ↔
      ConsistentComparator cmp ∧ ∀ i j, i < j → (cmp i j ≤ 0 ↔ num i j ≤ 0) := by
  constructor
  · intro hall
    have hc : ConsistentComparator cmp := by
      by_contra hn
      have hp : ∀ order : List (Fin n), order.Perm (List.finRange n) →
          order.Pairwise (Before num) := fun order hp => hall order ⟨hp, fun h => absurd h hn⟩
      have hrev := hp _ (List.reverse_perm _)
      rw [List.pairwise_reverse] at hrev
      have hboth := (hp _ (List.Perm.refl _)).and hrev
      apply hn
      have hone : ∀ i j : Fin n, i = j := by
        intro i j
        by_contra hij
        rcases pairwise_or (.refl _) hboth hij with ⟨h, h'⟩ | ⟨h, h'⟩
        · exact before_asymm hnum h h'
        · exact before_asymm hnum h h'
      constructor
      · exact hself
      · intro a b
        rw [hone a b, hself b]
      · intro a b c _ _
        rw [hone a c, hself c]
    refine ⟨hc, ?_⟩
    intro i j hij
    obtain ⟨order, hs⟩ := exists_isSort hc
    rcases pairwise_or hs.1 ((hs.2 hc).and (hall order hs)) hij.ne with ⟨h, h'⟩ | ⟨h, h'⟩
    · exact iff_of_true (h.elim le_of_lt fun h => h.1.le) (h'.elim le_of_lt fun h => h.1.le)
    · have hlt := h.resolve_right fun h => absurd h.2 (lt_asymm hij)
      have hlt' := h'.resolve_right fun h => absurd h.2 (lt_asymm hij)
      exact iff_of_false (fun hle => (hc.le_zero_iff i j).1 hle hlt)
        (fun hle => (hnum.le_zero_iff i j).1 hle hlt')
  · rintro ⟨hc, hagree⟩ order ⟨hp, hs⟩
    apply (hs hc).imp
    intro i j hb
    rcases lt_trichotomy i j with hij | rfl | hji
    · have hle : cmp i j ≤ 0 := hb.elim le_of_lt fun h => h.1.le
      rcases ((hagree i j hij).1 hle).lt_or_eq with hlt | heq
      · exact .inl hlt
      · exact .inr ⟨heq, hij⟩
    · rcases hb with hb | hb
      · exact absurd hb (hself i ▸ lt_irrefl _)
      · exact absurd hb.2 (lt_irrefl i)
    · have hlt := hb.resolve_right fun h => absurd h.2 (lt_asymm hji)
      left
      by_contra hn
      exact (hc.le_zero_iff j i).1 ((hagree j i hji).2 ((hnum.le_zero_iff j i).2 hn)) hlt

end QueryMind.Lib
