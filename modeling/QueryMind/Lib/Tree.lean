import Mathlib.Data.List.Basic

namespace QueryMind.Lib
set_option autoImplicit true

/-- A labelled tree with any number of ordered children. -/
inductive OrderedTree (α : Type)
  | node (label : α) (children : List (OrderedTree α))

namespace OrderedTree

def label : OrderedTree α → α
  | .node l _ => l

def children : OrderedTree α → List (OrderedTree α)
  | .node _ cs => cs

/-- A tree is below another when a path of child steps leads to it. -/
inductive Below : OrderedTree α → OrderedTree α → Prop
  | refl : Below t t
  | child (hc : c ∈ cs) (h : Below t c) : Below t (.node l cs)

theorem Below.trans (h : Below u t) (ht : Below t r) : Below u r := by
  induction ht with
  | refl => exact h
  | child hc _ ih => exact .child hc (ih h)

theorem Below.of_mem (hc : c ∈ cs) (h : Below (.node l cs) r) : Below c r :=
  .trans (.child hc .refl) h

def zipLevels : List (List β) → List (List β) → List (List β)
  | [], ys => ys
  | xs, [] => xs
  | x :: xs, y :: ys => (x ++ y) :: zipLevels xs ys

mutual
def levels : OrderedTree α → List (List (OrderedTree α))
  | .node l cs => [.node l cs] :: levelsList cs

def levelsList : List (OrderedTree α) → List (List (OrderedTree α))
  | [] => []
  | t :: ts => zipLevels (levels t) (levelsList ts)
end

/-- Every node, in breadth-first order. -/
def walk (t : OrderedTree α) : List (OrderedTree α) := t.levels.flatten

theorem mem_zipLevels {xs ys : List (List β)} :
    b ∈ (zipLevels xs ys).flatten ↔ b ∈ xs.flatten ∨ b ∈ ys.flatten := by
  induction xs generalizing ys with
  | nil => simp [zipLevels]
  | cons x xs ih =>
    cases ys with
    | nil => simp [zipLevels]
    | cons y ys =>
      simp only [zipLevels, List.flatten_cons, List.mem_append, ih]
      constructor
      · rintro ((h | h) | (h | h))
        · exact .inl (.inl h)
        · exact .inr (.inl h)
        · exact .inl (.inr h)
        · exact .inr (.inr h)
      · rintro ((h | h) | (h | h))
        · exact .inl (.inl h)
        · exact .inr (.inl h)
        · exact .inl (.inr h)
        · exact .inr (.inr h)

mutual
theorem mem_levels : ∀ t : OrderedTree α, u ∈ t.levels.flatten ↔ Below u t
  | .node l cs => by
    rw [levels, List.flatten_cons, List.mem_append, List.mem_singleton, mem_levelsList cs]
    constructor
    · rintro (rfl | ⟨c, hc, h⟩)
      · exact .refl
      · exact .child hc h
    · rintro (_ | ⟨hc, h⟩)
      · exact .inl rfl
      · exact .inr ⟨_, hc, h⟩

theorem mem_levelsList : ∀ ts : List (OrderedTree α),
    u ∈ (levelsList ts).flatten ↔ ∃ t ∈ ts, Below u t
  | [] => by simp [levelsList]
  | t :: ts => by
    rw [levelsList, mem_zipLevels, mem_levels t, mem_levelsList ts]
    simp
end

theorem mem_walk {t : OrderedTree α} : u ∈ t.walk ↔ Below u t := mem_levels t

theorem zipLevels_perm : ∀ xs ys : List (List β),
    (zipLevels xs ys).flatten.Perm (xs.flatten ++ ys.flatten)
  | [], ys => .refl _
  | x :: xs, [] => by
    rw [zipLevels, List.flatten_nil, List.append_nil]
    exact List.cons_ne_nil x xs
  | x :: xs, y :: ys => by
    rw [zipLevels, List.flatten_cons, List.flatten_cons, List.flatten_cons, List.append_assoc,
      List.append_assoc]
    apply List.Perm.append_left
    exact ((zipLevels_perm xs ys).append_left y).trans (List.perm_append_comm_assoc _ _ _)

theorem levelsList_perm (ts : List (OrderedTree α)) :
    (levelsList ts).flatten.Perm (ts.flatMap walk) := by
  induction ts with
  | nil => exact .refl _
  | cons t ts ih =>
    rw [levelsList, List.flatMap_cons]
    exact (zipLevels_perm _ _).trans (ih.append_left _)

theorem walk_perm (l : α) (cs : List (OrderedTree α)) :
    (walk (.node l cs)).Perm (.node l cs :: cs.flatMap walk) := by
  rw [walk, levels, List.flatten_cons]
  exact (levelsList_perm cs).cons _

mutual
/-- The tree of a tree's nodes, each with the label of its parent. -/
def within (parent : Option α) : OrderedTree α → OrderedTree (Option α × OrderedTree α)
  | .node l cs => .node (parent, .node l cs) (withinList l cs)

def withinList (l : α) : List (OrderedTree α) → List (OrderedTree (Option α × OrderedTree α))
  | [] => []
  | t :: ts => within (some l) t :: withinList l ts
end

mutual
/-- The nodes of a tree that can be reached without entering one of some labels. -/
def own (stop : α → Bool) : OrderedTree α → List (OrderedTree α)
  | .node l cs => if stop l then [] else .node l cs :: ownList stop cs

def ownList (stop : α → Bool) : List (OrderedTree α) → List (OrderedTree α)
  | [] => []
  | t :: ts => own stop t ++ ownList stop ts
end

theorem below_node : Below u (.node l cs) ↔ u = .node l cs ∨ ∃ c ∈ cs, Below u c := by
  constructor
  · intro h
    cases h with
    | refl => exact .inl rfl
    | child hc h => exact .inr ⟨_, hc, h⟩
  · intro h
    rcases h with rfl | ⟨c, hc, h⟩
    · exact .refl
    · exact .child hc h

/-- A tree stands beneath one of some labels within another tree. -/
def Beneath (p : α → Bool) (u t : OrderedTree α) : Prop :=
  ∃ a, Below a t ∧ p a.label = true ∧ ∃ c ∈ a.children, Below u c

theorem beneath_node : Beneath p u (.node l cs) ↔
    (p l = true ∧ ∃ c ∈ cs, Below u c) ∨ ∃ c ∈ cs, Beneath p u c := by
  constructor
  · intro ⟨a, ha, hp, hu⟩
    rcases below_node.1 ha with rfl | ⟨c, hc, hb⟩
    · exact .inl ⟨hp, hu⟩
    · exact .inr ⟨c, hc, a, hb, hp, hu⟩
  · intro h
    rcases h with ⟨hp, hu⟩ | ⟨c, hc, a, hb, hp, hu⟩
    · exact ⟨_, .refl, hp, hu⟩
    · exact ⟨a, .child hc hb, hp, hu⟩

mutual
/-- The tree of a tree's nodes, each with whether it stands beneath one of some labels. -/
def under (p : α → Bool) (above : Bool) : OrderedTree α → OrderedTree (Bool × OrderedTree α)
  | .node l cs => .node (above, .node l cs) (underList p (above || p l) cs)

def underList (p : α → Bool) (above : Bool) :
    List (OrderedTree α) → List (OrderedTree (Bool × OrderedTree α))
  | [] => []
  | t :: ts => under p above t :: underList p above ts
end

theorem mem_labels_node {x : α} : x ∈ (node l cs).walk.map label ↔
    x = l ∨ ∃ c ∈ cs, x ∈ c.walk.map label := by
  simp only [List.mem_map, mem_walk, below_node]
  constructor
  · rintro ⟨v, rfl | ⟨c, hc, hv⟩, rfl⟩
    · exact .inl rfl
    · exact .inr ⟨c, hc, v, hv, rfl⟩
  · rintro (rfl | ⟨c, hc, v, hv, rfl⟩)
    · exact ⟨_, .inl rfl, rfl⟩
    · exact ⟨v, .inr ⟨c, hc, hv⟩, rfl⟩

mutual
theorem mem_under (p : α → Bool) : ∀ (above : Bool) (t : OrderedTree α),
    (true, u) ∈ (under p above t).walk.map label ↔
      (above = true ∧ Below u t) ∨ Beneath p u t
  | above, .node l cs => by
    rw [under, mem_labels_node, mem_underList p (above || p l) cs, below_node, beneath_node]
    constructor
    · rintro (h | ⟨c, hc, ⟨ha, hu⟩ | hu⟩)
      · cases h
        exact .inl ⟨rfl, .inl rfl⟩
      · rcases Bool.or_eq_true_iff.1 ha with ha | ha
        · exact .inl ⟨ha, .inr ⟨c, hc, hu⟩⟩
        · exact .inr (.inl ⟨ha, c, hc, hu⟩)
      · exact .inr (.inr ⟨c, hc, hu⟩)
    · rintro (⟨rfl, rfl | ⟨c, hc, hu⟩⟩ | ⟨hp, c, hc, hu⟩ | ⟨c, hc, hu⟩)
      · exact .inl rfl
      · exact .inr ⟨c, hc, .inl ⟨Bool.true_or _, hu⟩⟩
      · exact .inr ⟨c, hc, .inl ⟨by rw [hp, Bool.or_true], hu⟩⟩
      · exact .inr ⟨c, hc, .inr hu⟩

theorem mem_underList (p : α → Bool) : ∀ (above : Bool) (ts : List (OrderedTree α)),
    (∃ t ∈ underList p above ts, (true, u) ∈ t.walk.map label) ↔
      ∃ t ∈ ts, (above = true ∧ Below u t) ∨ Beneath p u t
  | above, [] => by
    simp [underList]
  | above, t :: ts => by
    rw [underList, List.exists_mem_cons_iff, List.exists_mem_cons_iff, mem_under p above t,
      mem_underList p above ts]
end

end OrderedTree

end QueryMind.Lib
