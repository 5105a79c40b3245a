import Mathlib.Data.Finset.Card

namespace QueryMind.Lib
set_option autoImplicit true

/-- A walk along edges, each starting where the one before it ends. -/
inductive Walk (out : α → List ε) (target : ε → α) : α → List ε → α → Prop
  | nil (a : α) : Walk out target a [] a
  | cons (he : e ∈ out a) (h : Walk out target (target e) es b) : Walk out target a (e :: es) b

namespace Walk

variable {out : α → List ε} {target : ε → α}

theorem single (he : e ∈ out a) : Walk out target a [e] (target e) :=
  .cons he (.nil _)

theorem append (hp : Walk out target a p b) (hq : Walk out target b q c) :
    Walk out target a (p ++ q) c := by
  induction hp with
  | nil => exact hq
  | cons he _ ih => exact .cons he (ih hq)

theorem from_visited (hp : Walk out target a p b) (hv : v ∈ a :: p.map target) :
    ∃ q, Walk out target v q b ∧ q.length ≤ p.length := by
  induction hp with
  | nil a =>
    obtain rfl := List.mem_singleton.1 hv
    exact ⟨[], .nil v, Nat.le_refl _⟩
  | cons he h ih =>
    rcases List.mem_cons.1 hv with rfl | hv
    · exact ⟨_, .cons he h, Nat.le_refl _⟩
    · obtain ⟨q, hq, hl⟩ := ih hv
      exact ⟨q, hq, Nat.le_succ_of_le hl⟩

theorem nodup_of_least (hp : Walk out target a p b)
    (hmin : ∀ q, Walk out target a q b → p.length ≤ q.length) : (a :: p.map target).Nodup := by
  induction hp with
  | nil a => exact List.nodup_singleton a
  | cons he h ih =>
    have hrest := ih fun q hq => Nat.le_of_succ_le_succ (hmin _ (.cons he hq))
    apply List.nodup_cons.2
    constructor
    · intro ha
      obtain ⟨q, hq, hl⟩ := h.from_visited ha
      exact absurd (hmin q hq) (Nat.not_le.2 (Nat.lt_succ_of_le hl))
    · exact hrest

theorem ne_nil (hp : Walk out target a p b) (hne : a ≠ b) : p ≠ [] := by
  cases hp with
  | nil => exact absurd rfl hne
  | cons => exact List.cons_ne_nil _ _

end Walk

namespace BreadthFirst

/-- What looking through the edges of one vertex comes to. -/
inductive Scan (α ε : Type)
  | found (path : List ε)
  | pending (visited : List α) (queue : List (α × List ε))

section
variable {α ε : Type} [DecidableEq α] (out : α → List ε) (target : ε → α) (goal : α)

/-- Look through the edges of a vertex that `path` leads to. -/
def scan (path : List ε) : List ε → List α → List (α × List ε) → Scan α ε
  | [], visited, queue => .pending visited queue
  | edge :: edges, visited, queue =>
    if target edge = goal then .found (path ++ [edge])
    else if target edge ∈ visited then scan path edges visited queue
    else scan path edges (target edge :: visited) (queue ++ [(target edge, path ++ [edge])])

/-- Search until the goal is found or the queue is empty; `none` when the fuel runs out before. -/
def search : Nat → List α → List (α × List ε) → Option (List ε)
  | 0, _, _ => none
  | _ + 1, _, [] => some []
  | fuel + 1, visited, (current, path) :: queue =>
    match scan target goal path (out current) visited queue with
    | .found path => some path
    | .pending visited queue => search fuel visited queue

end

variable {α ε : Type} {out : α → List ε} {target : ε → α} {goal : α}

/-- The entries that a scan adds to the queue: edges to vertices not visited so far. -/
structure Added (target : ε → α) (goal : α) (path edges : List ε) (visited visited' : List α)
    (added : List (α × List ε)) : Prop where
  entry : ∀ entry ∈ added, ∃ e ∈ edges, entry = (target e, path ++ [e]) ∧ target e ∉ visited
  visited_iff : ∀ v, v ∈ visited' ↔ v ∈ visited ∨ v ∈ added.map Prod.fst
  scanned : ∀ e ∈ edges, target e ∈ visited' ∧ target e ≠ goal
  nodup : (added.map Prod.fst).Nodup

theorem Added.none (target : ε → α) (goal : α) (path : List ε) (visited : List α) :
    Added target goal path [] visited visited [] where
  entry := by
    intro entry h
    cases h
  visited_iff := by
    intro v
    exact ⟨.inl, fun hv => hv.resolve_right List.not_mem_nil⟩
  scanned := by
    intro e he
    cases he
  nodup := List.nodup_nil

theorem Added.skip (ha : Added target goal path edges visited visited' added)
    (hg : target edge ≠ goal) (hv : target edge ∈ visited) :
    Added target goal path (edge :: edges) visited visited' added where
  entry := by
    intro entry hentry
    obtain ⟨e, he, hrest⟩ := ha.entry entry hentry
    exact ⟨e, List.mem_cons_of_mem _ he, hrest⟩
  visited_iff := ha.visited_iff
  scanned := by
    rw [List.forall_mem_cons]
    exact ⟨⟨(ha.visited_iff _).2 (.inl hv), hg⟩, ha.scanned⟩
  nodup := ha.nodup

theorem Added.push (ha : Added target goal path edges (target edge :: visited) visited' added)
    (hg : target edge ≠ goal) (hv : target edge ∉ visited) :
    Added target goal path (edge :: edges) visited visited'
      ((target edge, path ++ [edge]) :: added) where
  entry := by
    rw [List.forall_mem_cons]
    constructor
    · exact ⟨edge, List.mem_cons_self, rfl, hv⟩
    · intro entry hentry
      obtain ⟨e, he, heq, hn⟩ := ha.entry entry hentry
      exact ⟨e, List.mem_cons_of_mem _ he, heq, fun hm => hn (List.mem_cons_of_mem _ hm)⟩
  visited_iff := by
    intro v
    rw [ha.visited_iff v, List.mem_cons, List.map_cons, List.mem_cons, or_assoc, or_left_comm]
  scanned := by
    rw [List.forall_mem_cons]
    exact ⟨⟨(ha.visited_iff _).2 (.inl List.mem_cons_self), hg⟩, ha.scanned⟩
  nodup := by
    rw [List.map_cons, List.nodup_cons]
    constructor
    · intro hm
      obtain ⟨entry, hentry, heq⟩ := List.mem_map.1 hm
      obtain ⟨e, _, rfl, hn⟩ := ha.entry entry hentry
      exact hn (List.mem_cons.2 (.inl heq))
    · exact ha.nodup

/-- What holds between two turns of the search: each vertex visited has a depth, its edges lead at
most one deeper once they are looked through, and the queue holds the others by depth. -/
structure Frontier (out : α → List ε) (target : ε → α) (goal start : α) (visited : List α)
    (queue : List (α × List ε)) (depth : α → Nat) : Prop where
  start_mem : start ∈ visited
  depth_start : depth start = 0
  goal_not_mem : goal ∉ visited
  queued : ∀ v path, (v, path) ∈ queue →
    v ∈ visited ∧ path.length = depth v ∧ Walk out target start path v
  closed : ∀ v ∈ visited, (∃ path, (v, path) ∈ queue) ∨
    ∀ e ∈ out v, target e ∈ visited ∧ depth (target e) ≤ depth v + 1
  ordered : queue.Pairwise fun x y => x.2.length ≤ y.2.length
  bounded : ∀ v ∈ visited, ∀ x ∈ queue, depth v ≤ x.2.length + 1

theorem Frontier.initial (out : α → List ε) (target : ε → α) (hne : start ≠ goal) :
    Frontier out target goal start [start] [(start, [])] fun _ => 0 where
  start_mem := List.mem_singleton_self start
  depth_start := rfl
  goal_not_mem := by
    intro h
    exact hne (List.mem_singleton.1 h).symm
  queued := by
    intro v path h
    cases List.mem_singleton.1 h
    exact ⟨List.mem_singleton_self _, rfl, .nil _⟩
  closed := by
    intro v hv
    obtain rfl := List.mem_singleton.1 hv
    exact .inl ⟨[], List.mem_singleton_self _⟩
  ordered := List.pairwise_singleton _ _
  bounded := by
    intro v _ x _
    exact Nat.zero_le _

theorem Frontier.leaves (hf : Frontier out target goal start visited queue depth)
    (hp : Walk out target a p b) (ha : a ∈ visited) (hb : b ∉ visited) :
    ∃ v path, (v, path) ∈ queue ∧ path.length + 1 ≤ depth a + p.length := by
  induction hp with
  | nil => exact absurd ha hb
  | cons he h ih =>
    rw [List.length_cons]
    rcases hf.closed _ ha with ⟨path, hq⟩ | hclosed
    · have hlen := (hf.queued _ _ hq).2.1
      exact ⟨_, path, hq, by omega⟩
    · obtain ⟨hm, hd⟩ := hclosed _ he
      obtain ⟨v, path, hq, hlen⟩ := ih hm hb
      exact ⟨v, path, hq, by omega⟩

theorem Frontier.least
    (hf : Frontier out target goal start visited ((current, path) :: queue) depth)
    (hp : Walk out target start p goal) : path.length + 1 ≤ p.length := by
  obtain ⟨v, q, hq, hlen⟩ := hf.leaves hp hf.start_mem hf.goal_not_mem
  rw [hf.depth_start, Nat.zero_add] at hlen
  rcases List.mem_cons.1 hq with heq | hq
  · cases heq
    exact hlen
  · have hle := (List.pairwise_cons.1 hf.ordered).1 _ hq
    exact (Nat.succ_le_succ hle).trans hlen

theorem Frontier.exhausted (hf : Frontier out target goal start visited [] depth) (p : List ε) :
    ¬Walk out target start p goal := by
  intro hp
  obtain ⟨v, path, hq, _⟩ := hf.leaves hp hf.start_mem hf.goal_not_mem
  cases hq

variable [DecidableEq α]

theorem scan_found (h : scan target goal path edges visited queue = .found path') :
    ∃ e ∈ edges, target e = goal ∧ path' = path ++ [e] := by
  induction edges generalizing visited queue with
  | nil => cases h
  | cons edge edges ih =>
    rw [scan] at h
    by_cases hg : target edge = goal
    · rw [if_pos hg] at h
      cases h
      exact ⟨edge, List.mem_cons_self, hg, rfl⟩
    · rw [if_neg hg] at h
      have hrest : ∃ e ∈ edges, target e = goal ∧ path' = path ++ [e] := by
        by_cases hv : target edge ∈ visited
        · exact ih ((if_pos hv).symm.trans h)
        · exact ih ((if_neg hv).symm.trans h)
      obtain ⟨e, he, hrest⟩ := hrest
      exact ⟨e, List.mem_cons_of_mem _ he, hrest⟩

theorem scan_pending (h : scan target goal path edges visited queue = .pending visited' queue') :
    ∃ added, queue' = queue ++ added ∧ Added target goal path edges visited visited' added := by
  induction edges generalizing visited queue with
  | nil =>
    cases h
    exact ⟨[], (List.append_nil _).symm, .none target goal path _⟩
  | cons edge edges ih =>
    rw [scan] at h
    by_cases hg : target edge = goal
    · rw [if_pos hg] at h
      cases h
    · rw [if_neg hg] at h
      by_cases hv : target edge ∈ visited
      · rw [if_pos hv] at h
        obtain ⟨added, hq, ha⟩ := ih h
        exact ⟨added, hq, ha.skip hg hv⟩
      · rw [if_neg hv] at h
        obtain ⟨added, hq, ha⟩ := ih h
        exact ⟨_, hq.trans (List.append_assoc _ _ _), ha.push hg hv⟩

theorem Frontier.step
    (hf : Frontier out target goal start visited ((current, path) :: queue) depth)
    (ha : Added target goal path (out current) visited visited' added) :
    Frontier out target goal start visited' (queue ++ added)
      fun v => if v ∈ visited then depth v else path.length + 1 := by
  obtain ⟨hcur, hlen, hwalk⟩ := hf.queued current path List.mem_cons_self
  have hold : ∀ v ∈ visited, v ∈ visited' := fun v hv => (ha.visited_iff v).2 (.inl hv)
  have hadded : ∀ x ∈ added, x.1 ∉ visited ∧ x.2.length = path.length + 1 := by
    intro x hx
    obtain ⟨e, _, rfl, hn⟩ := ha.entry x hx
    exact ⟨hn, List.length_append⟩
  have hdepth : ∀ v ∈ visited, (if v ∈ visited then depth v else path.length + 1) ≤
      path.length + 1 := by
    intro v hv
    rw [if_pos hv]
    exact hf.bounded v hv _ List.mem_cons_self
  constructor
  case start_mem => exact hold _ hf.start_mem
  case depth_start => exact (if_pos hf.start_mem).trans hf.depth_start
  case goal_not_mem =>
    intro hg
    rcases (ha.visited_iff goal).1 hg with hg | hg
    · exact hf.goal_not_mem hg
    · obtain ⟨entry, hentry, heq⟩ := List.mem_map.1 hg
      obtain ⟨e, he, rfl, _⟩ := ha.entry entry hentry
      exact (ha.scanned e he).2 heq
  case queued =>
    intro v q hq
    rcases List.mem_append.1 hq with hq | hq
    · obtain ⟨hv, hl, hw⟩ := hf.queued v q (List.mem_cons_of_mem _ hq)
      exact ⟨hold v hv, hl.trans (if_pos hv).symm, hw⟩
    · obtain ⟨hn, hl⟩ := hadded _ hq
      obtain ⟨e, he, heq, _⟩ := ha.entry _ hq
      cases heq
      exact ⟨(ha.scanned e he).1, hl.trans (if_neg hn).symm, hwalk.append (.single he)⟩
  case closed =>
    intro v hv
    rcases (ha.visited_iff v).1 hv with hv | hv
    · rcases hf.closed v hv with ⟨q, hq⟩ | hclosed
      · rcases List.mem_cons.1 hq with heq | hq
        · cases heq
          right
          intro e he
          refine ⟨(ha.scanned e he).1, ?_⟩
          rw [if_pos hcur, ← hlen]
          by_cases ht : target e ∈ visited
          · exact hdepth _ ht
          · exact (if_neg ht).le
        · exact .inl ⟨q, List.mem_append_left _ hq⟩
      · right
        intro e he
        obtain ⟨ht, hd⟩ := hclosed e he
        rw [if_pos ht, if_pos hv]
        exact ⟨hold _ ht, hd⟩
    · obtain ⟨entry, hentry, rfl⟩ := List.mem_map.1 hv
      exact .inl ⟨entry.2, List.mem_append_right _ hentry⟩
  case ordered =>
    obtain ⟨_, hrest⟩ := List.pairwise_cons.1 hf.ordered
    refine List.pairwise_append.2 ⟨hrest, ?_, ?_⟩
    · apply List.pairwise_of_forall_mem_list
      intro x hx y hy
      rw [(hadded x hx).2, (hadded y hy).2]
    · intro x hx y hy
      obtain ⟨hv, hl, _⟩ := hf.queued x.1 x.2 (List.mem_cons_of_mem _ hx)
      rw [(hadded y hy).2, hl]
      exact hf.bounded _ hv _ List.mem_cons_self
  case bounded =>
    intro v hv x hx
    have hle : path.length ≤ x.2.length := by
      rcases List.mem_append.1 hx with hx | hx
      · exact (List.pairwise_cons.1 hf.ordered).1 x hx
      · rw [(hadded x hx).2]
        exact Nat.le_succ _
    apply Nat.le_trans _ (Nat.succ_le_succ hle)
    by_cases hm : v ∈ visited
    · exact hdepth v hm
    · exact (if_neg hm).le

/-- A search that ends has found a walk with the least number of edges, or there is none. -/
theorem search_sound (hf : Frontier out target goal start visited queue depth)
    (h : search out target goal fuel visited queue = some path) :
    (path = [] ∧ ∀ p, ¬Walk out target start p goal) ∨
      Walk out target start path goal ∧
        ∀ p, Walk out target start p goal → path.length ≤ p.length := by
  induction fuel generalizing visited queue depth with
  | zero => cases h
  | succ fuel ih =>
    cases queue with
    | nil =>
      cases h
      exact .inl ⟨rfl, hf.exhausted⟩
    | cons entry queue =>
      obtain ⟨current, q⟩ := entry
      rw [search] at h
      cases hs : scan target goal q (out current) visited queue with
      | found p =>
        rw [hs] at h
        cases h
        obtain ⟨e, he, rfl, rfl⟩ := scan_found hs
        obtain ⟨_, _, hwalk⟩ := hf.queued current q List.mem_cons_self
        right
        constructor
        · exact hwalk.append (.single he)
        · intro p hp
          rw [List.length_append]
          exact hf.least hp
      | pending visited' queue' =>
        rw [hs] at h
        obtain ⟨added, rfl, ha⟩ := scan_pending hs
        exact ih (hf.step ha) h

/-- The turns that are left at most, where every edge leads into `U`. -/
def outstanding (U : Finset α) (visited : List α) (queue : List (α × List ε)) : Nat :=
  (U \ visited.toFinset).card + queue.length

theorem Added.outstanding_le (ha : Added target goal path edges visited visited' added)
    (hU : ∀ e ∈ edges, target e ∈ U) (queue : List (α × List ε)) :
    outstanding U visited' (queue ++ added) ≤ outstanding U visited queue := by
  have hlen : added.length = (added.map Prod.fst).toFinset.card := by
    rw [List.toFinset_card_of_nodup ha.nodup, List.length_map]
  have hdisj : Disjoint (added.map Prod.fst).toFinset (U \ visited'.toFinset) := by
    apply Finset.disjoint_left.2
    intro v hv hm
    apply (Finset.mem_sdiff.1 hm).2
    exact List.mem_toFinset.2 ((ha.visited_iff v).2 (.inr (List.mem_toFinset.1 hv)))
  have hsub : (added.map Prod.fst).toFinset ∪ (U \ visited'.toFinset) ⊆ U \ visited.toFinset := by
    intro v hv
    rcases Finset.mem_union.1 hv with hv | hv
    · obtain ⟨entry, hentry, rfl⟩ := List.mem_map.1 (List.mem_toFinset.1 hv)
      obtain ⟨e, he, rfl, hn⟩ := ha.entry entry hentry
      exact Finset.mem_sdiff.2 ⟨hU e he, fun hm => hn (List.mem_toFinset.1 hm)⟩
    · obtain ⟨hu, hn⟩ := Finset.mem_sdiff.1 hv
      apply Finset.mem_sdiff.2
      exact ⟨hu, fun hm => hn (List.mem_toFinset.2
        ((ha.visited_iff v).2 (.inl (List.mem_toFinset.1 hm))))⟩
  have hcard := Finset.card_le_card hsub
  rw [Finset.card_union_of_disjoint hdisj, ← hlen] at hcard
  rw [outstanding, outstanding, List.length_append]
  omega

/-- Fuel for the turns that are left ends the search, and more fuel changes nothing. -/
theorem search_ends (goal : α) (hU : ∀ a, ∀ e ∈ out a, target e ∈ U)
    (hn : outstanding U visited queue ≤ n) :
    ∃ path, ∀ fuel, n < fuel → search out target goal fuel visited queue = some path := by
  induction n generalizing visited queue with
  | zero =>
    have hq : queue = [] := List.eq_nil_of_length_eq_zero (Nat.eq_zero_of_add_eq_zero_left
      (Nat.le_zero.1 hn))
    subst hq
    refine ⟨[], ?_⟩
    intro fuel hfuel
    obtain ⟨fuel, rfl⟩ := Nat.exists_eq_succ_of_ne_zero (Nat.ne_of_gt hfuel)
    rfl
  | succ n ih =>
    cases queue with
    | nil =>
      refine ⟨[], ?_⟩
      intro fuel hfuel
      obtain ⟨fuel, rfl⟩ := Nat.exists_eq_succ_of_ne_zero (Nat.ne_zero_of_lt hfuel)
      rfl
    | cons entry queue =>
      obtain ⟨current, q⟩ := entry
      cases hs : scan target goal q (out current) visited queue with
      | found p =>
        refine ⟨p, ?_⟩
        intro fuel hfuel
        obtain ⟨fuel, rfl⟩ := Nat.exists_eq_succ_of_ne_zero (Nat.ne_zero_of_lt hfuel)
        rw [search, hs]
      | pending visited' queue' =>
        obtain ⟨added, rfl, ha⟩ := scan_pending hs
        have hle := ha.outstanding_le (hU current) queue
        have hcons : outstanding U visited queue + 1 ≤ n + 1 := hn
        obtain ⟨path, hpath⟩ := ih (hle.trans (Nat.le_of_succ_le_succ hcons))
        refine ⟨path, ?_⟩
        intro fuel hfuel
        obtain ⟨fuel, rfl⟩ := Nat.exists_eq_succ_of_ne_zero (Nat.ne_zero_of_lt hfuel)
        rw [search, hs]
        exact hpath fuel (Nat.lt_of_succ_lt_succ hfuel)

end BreadthFirst
end QueryMind.Lib
