import Mathlib.Logic.Relation
import QueryMind.Lib.BreadthFirst
import QueryMind.Metadata.Relationships
import QueryMind.SchemaLinker.Models

namespace QueryMind.SchemaLinker
open Lib Metadata
set_option autoImplicit true

def toResolved (edge : GraphEdge) : ResolvedRelationship :=
  ⟨edge.sourceTable, edge.targetTable, edge.relationshipName, edge.sourceColumns,
    edge.targetColumns⟩

/-- `None` stands for a loop that has not ended within `fuel` turns. -/
def findPath (fuel : Nat) (g : RelationshipGraph) (sourceTable targetTable : String) :
    Option (List ResolvedRelationship) :=
  if sourceTable = targetTable then some []
  else if sourceTable ∉ g.nodes ∨ targetTable ∉ g.nodes then some []
  else BreadthFirst.search (fun current => (g.edgesFrom current).map toResolved)
    ResolvedRelationship.targetTable targetTable fuel [sourceTable] [(sourceTable, [])]

def ResolvedRelationship.key (edge : ResolvedRelationship) : String × String × String :=
  (edge.sourceTable, edge.targetTable, edge.relationshipName)

def addUnseen (edges : List ResolvedRelationship) (edge : ResolvedRelationship) :
    List ResolvedRelationship :=
  if edge.key ∈ edges.map ResolvedRelationship.key then edges else edges ++ [edge]

def findPathsFrom (fuel : Nat) (g : RelationshipGraph) (anchorTable : String)
    (otherTables : List String) : Option (List ResolvedRelationship) :=
  otherTables.foldlM (fun edges target =>
    if target = anchorTable then some edges
    else (findPath fuel g anchorTable target).map (fun path => path.foldl addUnseen edges)) []

def declared (relationships : List RelationshipMetadata) : List ResolvedRelationship :=
  relationships.map fun r => toResolved (.fromRelationship r)

/-- Edges from one table to another, each starting where the one before it ends. -/
def Chain : String → List ResolvedRelationship → String → Prop
  | a, [], b => a = b
  | a, edge :: path, b => edge.sourceTable = a ∧ Chain edge.targetTable path b

/-- Some sequence of relationships leads from one table to the other. -/
def Reachable (relationships : List RelationshipMetadata) : String → String → Prop :=
  Relation.ReflTransGen fun a b => ∃ r ∈ relationships, r.sourceTable = a ∧ r.targetTable = b

section
variable {relationships : List RelationshipMetadata}

abbrev GraphWalk (tables : List String) (relationships : List RelationshipMetadata) :
    String → List ResolvedRelationship → String → Prop :=
  Walk (fun current => ((RelationshipGraph.new tables relationships).edgesFrom current).map
    toResolved) ResolvedRelationship.targetTable

theorem mem_edgesFrom : e ∈ ((RelationshipGraph.new tables relationships).edgesFrom a).map
    toResolved ↔ e ∈ declared relationships ∧ e.sourceTable = a := by
  rw [RelationshipGraph.edgesFrom_new, List.map_map, declared, List.mem_map, List.mem_map]
  constructor
  · rintro ⟨r, hr, rfl⟩
    obtain ⟨hr, hs⟩ := List.mem_filter.1 hr
    exact ⟨⟨r, hr, rfl⟩, of_decide_eq_true hs⟩
  · rintro ⟨⟨r, hr, rfl⟩, hs⟩
    exact ⟨r, List.mem_filter.2 ⟨hr, decide_eq_true hs⟩, rfl⟩

theorem graphWalk_iff : GraphWalk tables relationships a p b ↔
    (∀ e ∈ p, e ∈ declared relationships) ∧ Chain a p b := by
  constructor
  · intro h
    induction h with
    | nil => exact ⟨fun e he => absurd he List.not_mem_nil, rfl⟩
    | cons he _ ih =>
      obtain ⟨hd, hs⟩ := mem_edgesFrom.1 he
      rw [List.forall_mem_cons]
      exact ⟨⟨hd, ih.1⟩, hs, ih.2⟩
  · rintro ⟨hd, hc⟩
    induction p generalizing a with
    | nil => exact hc ▸ .nil a
    | cons e p ih =>
      obtain ⟨hs, hc⟩ := hc
      rw [List.forall_mem_cons] at hd
      exact .cons (mem_edgesFrom.2 ⟨hd.1, hs⟩) (ih hd.2 hc)

theorem reachable_iff (tables : List String) : Reachable relationships a b ↔
    ∃ p, GraphWalk tables relationships a p b := by
  constructor
  · intro h
    induction h using Relation.ReflTransGen.head_induction_on with
    | refl => exact ⟨[], .nil b⟩
    | head hab _ ih =>
      obtain ⟨r, hr, rfl, rfl⟩ := hab
      obtain ⟨p, hp⟩ := ih
      have he : toResolved (.fromRelationship r) ∈ declared relationships :=
        List.mem_map.2 ⟨r, hr, rfl⟩
      exact ⟨_, .cons (mem_edgesFrom.2 ⟨he, rfl⟩) hp⟩
  · rintro ⟨p, h⟩
    induction h with
    | nil => exact .refl
    | cons he _ ih =>
      obtain ⟨hd, rfl⟩ := mem_edgesFrom.1 he
      obtain ⟨r, hr, rfl⟩ := List.mem_map.1 hd
      exact .head ⟨r, hr, rfl, rfl⟩ ih

/-- What the join path between two tables has to be. -/
structure IsJoinPath (relationships : List RelationshipMetadata) (source : String)
    (path : List ResolvedRelationship) (target : String) : Prop where
  declared : ∀ e ∈ path, e ∈ declared relationships
  chain : Reachable relationships source target → Chain source path target
  nodup : (source :: path.map ResolvedRelationship.targetTable).Nodup
  least : ∀ p, (∀ e ∈ p, e ∈ SchemaLinker.declared relationships) → Chain source p target →
    path.length ≤ p.length
  empty_iff : path = [] ↔ source = target ∨ ¬Reachable relationships source target

theorem IsJoinPath.of_walk (hw : GraphWalk tables relationships source path target)
    (hmin : ∀ p, GraphWalk tables relationships source p target → path.length ≤ p.length)
    (hne : source ≠ target) : IsJoinPath relationships source path target where
  declared := (graphWalk_iff.1 hw).1
  chain := fun _ => (graphWalk_iff.1 hw).2
  nodup := hw.nodup_of_least hmin
  least := fun p hd hc => hmin p (graphWalk_iff.2 ⟨hd, hc⟩)
  empty_iff := by
    constructor
    · intro h
      exact absurd h (hw.ne_nil hne)
    · rintro (h | h)
      · exact absurd h hne
      · exact absurd ((reachable_iff tables).2 ⟨path, hw⟩) h

theorem IsJoinPath.none (h : source = target ∨ ¬Reachable relationships source target) :
    IsJoinPath relationships source [] target where
  declared := fun _ he => absurd he List.not_mem_nil
  chain := fun hr => h.resolve_right (not_not_intro hr)
  nodup := List.nodup_singleton source
  least := fun _ _ _ => Nat.zero_le _
  empty_iff := iff_of_true rfl h

theorem outstanding_initial (relationships : List RelationshipMetadata) (source : String) :
    BreadthFirst.outstanding (relationships.map RelationshipMetadata.targetTable).toFinset [source]
      [(source, ([] : List ResolvedRelationship))] ≤ relationships.length + 1 := by
  apply Nat.succ_le_succ
  calc ((relationships.map RelationshipMetadata.targetTable).toFinset \ [source].toFinset).card
    _ ≤ (relationships.map RelationshipMetadata.targetTable).toFinset.card :=
      Finset.card_le_card Finset.sdiff_subset
    _ ≤ (relationships.map RelationshipMetadata.targetTable).length := List.toFinset_card_le _
    _ = relationships.length := List.length_map _

theorem findPath_self (fuel : Nat) (g : RelationshipGraph) (table : String) :
    findPath fuel g table table = some [] := if_pos rfl

theorem exists_findPath (relationships : List RelationshipMetadata) (hs : source ∈ tables)
    (ht : target ∈ tables) :
    ∃ path, (∀ fuel, relationships.length + 1 < fuel →
      findPath fuel (.new tables relationships) source target = some path) ∧
        IsJoinPath relationships source path target := by
  by_cases hst : source = target
  · exact ⟨[], fun fuel _ => if_pos hst, .none (.inl hst)⟩
  · have hU : ∀ a, ∀ e ∈ ((RelationshipGraph.new tables relationships).edgesFrom a).map toResolved,
        e.targetTable ∈ (relationships.map RelationshipMetadata.targetTable).toFinset := by
      intro a e he
      obtain ⟨r, hr, rfl⟩ := List.mem_map.1 (mem_edgesFrom.1 he).1
      exact List.mem_toFinset.2 (List.mem_map.2 ⟨r, hr, rfl⟩)
    obtain ⟨path, hpath⟩ := BreadthFirst.search_ends target hU
      (outstanding_initial relationships source)
    refine ⟨path, ?_, ?_⟩
    · intro fuel hfuel
      have hnodes : ¬(source ∉ tables ∨ target ∉ tables) :=
        fun h => h.elim (fun h => h hs) (fun h => h ht)
      rw [findPath, if_neg hst, RelationshipGraph.new, if_neg hnodes]
      exact hpath fuel hfuel
    · rcases BreadthFirst.search_sound (.initial _ _ hst) (hpath _ (Nat.lt_succ_self _)) with
        ⟨rfl, hnone⟩ | ⟨hw, hmin⟩
      · apply IsJoinPath.none
        right
        intro hr
        obtain ⟨p, hp⟩ := (reachable_iff tables).1 hr
        exact hnone p hp
      · exact .of_walk hw hmin hst

end

theorem addUnseen_keys (h : (edges.map ResolvedRelationship.key).Nodup)
    (edge : ResolvedRelationship) :
    ((addUnseen edges edge).map ResolvedRelationship.key).Nodup := by
  rw [addUnseen]
  by_cases hk : edge.key ∈ edges.map ResolvedRelationship.key
  · rw [if_pos hk]
    exact h
  · rw [if_neg hk, List.map_append]
    exact List.nodup_append_comm.1 (List.nodup_cons.2 ⟨hk, h⟩)

theorem mem_addUnseen (h : e ∈ addUnseen edges edge) : e ∈ edges ∨ e = edge := by
  rw [addUnseen] at h
  by_cases hk : edge.key ∈ edges.map ResolvedRelationship.key
  · rw [if_pos hk] at h
    exact .inl h
  · rw [if_neg hk, List.mem_append, List.mem_singleton] at h
    exact h

theorem key_mem_addUnseen (h : k ∈ edges.map ResolvedRelationship.key ∨ k = edge.key) :
    k ∈ (addUnseen edges edge).map ResolvedRelationship.key := by
  rw [addUnseen]
  by_cases hk : edge.key ∈ edges.map ResolvedRelationship.key
  · rw [if_pos hk]
    exact h.elim id (fun h => h ▸ hk)
  · rw [if_neg hk, List.map_append, List.mem_append]
    exact h.imp id (fun h => List.mem_singleton.2 h)

/-- What collecting the edges of some paths leaves: one of each key, and none besides. -/
structure IsUnion (found edges : List ResolvedRelationship) : Prop where
  nodup : (edges.map ResolvedRelationship.key).Nodup
  subset : ∀ e ∈ edges, e ∈ found
  covers : ∀ e ∈ found, e.key ∈ edges.map ResolvedRelationship.key

theorem IsUnion.foldl (h : IsUnion found edges) (path : List ResolvedRelationship) :
    IsUnion (found ++ path) (path.foldl addUnseen edges) := by
  induction path generalizing found edges with
  | nil =>
    rw [List.append_nil]
    exact h
  | cons edge path ih =>
    have hstep : IsUnion (found ++ [edge]) (addUnseen edges edge) := by
      constructor
      · exact addUnseen_keys h.nodup edge
      · intro e he
        rw [List.mem_append, List.mem_singleton]
        exact (mem_addUnseen he).imp (h.subset e) id
      · intro e he
        apply key_mem_addUnseen
        rw [List.mem_append, List.mem_singleton] at he
        exact he.imp (h.covers e) (congrArg ResolvedRelationship.key)
    have hrest := ih hstep
    rw [List.append_assoc] at hrest
    exact hrest

theorem foldlM_paths {otherTables : List String} {paths : String → List ResolvedRelationship}
    (hp : ∀ target ∈ otherTables, findPath fuel g anchor target = some (paths target))
    (edges : List ResolvedRelationship) :
    otherTables.foldlM (fun edges target =>
      if target = anchor then some edges
      else (findPath fuel g anchor target).map (fun path => path.foldl addUnseen edges)) edges =
        some ((otherTables.flatMap paths).foldl addUnseen edges) := by
  induction otherTables generalizing edges with
  | nil => rfl
  | cons target otherTables ih =>
    rw [List.forall_mem_cons] at hp
    rw [List.foldlM_cons, List.flatMap_cons, List.foldl_append]
    by_cases ht : target = anchor
    · subst ht
      rw [findPath_self] at hp
      rw [if_pos rfl, ← Option.some.inj hp.1]
      exact ih hp.2 edges
    · rw [if_neg ht, hp.1]
      exact ih hp.2 _

theorem Chain.replaced {edges : List ResolvedRelationship} (h : Chain a path b)
    (hk : ∀ e ∈ path, e.key ∈ edges.map ResolvedRelationship.key) :
    ∃ p, (∀ e ∈ p, e ∈ edges) ∧ Chain a p b := by
  induction path generalizing a with
  | nil => exact ⟨[], fun e he => absurd he List.not_mem_nil, h⟩
  | cons e path ih =>
    rw [List.forall_mem_cons] at hk
    obtain ⟨e', he', heq⟩ := List.mem_map.1 hk.1
    obtain ⟨hsource, hrest⟩ := Prod.mk.inj heq
    obtain ⟨htarget, _⟩ := Prod.mk.inj hrest
    obtain ⟨p, hp, hc⟩ := ih h.2 hk.2
    refine ⟨e' :: p, ?_, hsource.trans h.1, htarget ▸ hc⟩
    rw [List.forall_mem_cons]
    exact ⟨he', hp⟩

theorem exists_findPath_any (relationships : List RelationshipMetadata) (hs : source ∈ tables)
    (target : String) : ∃ path : List ResolvedRelationship,
      (∀ fuel, relationships.length + 1 < fuel →
        findPath fuel (.new tables relationships) source target = some path) ∧
          (target ∈ tables → IsJoinPath relationships source path target) := by
  by_cases ht : target ∈ tables
  · obtain ⟨path, hpath, hjoin⟩ := exists_findPath relationships hs ht
    exact ⟨path, hpath, fun _ => hjoin⟩
  · refine ⟨[], ?_, fun h => absurd h ht⟩
    intro fuel _
    have hne : source ≠ target := fun h => ht (h ▸ hs)
    rw [findPath, if_neg hne, RelationshipGraph.new, if_pos (.inr ht)]

/-- Both searches end. A path is a shortest chain of declared edges that visits no table twice, and
the edges collected from one table are of different keys, of such paths, and reach every target
that can be reached. -/
theorem joinPaths_shortest (tables : List String) (relationships : List RelationshipMetadata)
    (source : String) (hs : source ∈ tables) :
    (∀ target ∈ tables, ∃ path, (∀ fuel, relationships.length + 1 < fuel →
      findPath fuel (.new tables relationships) source target = some path) ∧
        IsJoinPath relationships source path target) ∧
    ∀ otherTables, ∃ edges : List ResolvedRelationship, (∀ fuel, relationships.length + 1 < fuel →
      findPathsFrom fuel (.new tables relationships) source otherTables = some edges) ∧
        (edges.map ResolvedRelationship.key).Nodup ∧
        (∀ target ∈ otherTables, target ∈ tables → Reachable relationships source target →
          ∃ path, (∀ e ∈ path, e ∈ edges) ∧ Chain source path target) ∧
        ∀ e ∈ edges, ∃ target ∈ otherTables, ∃ path, e ∈ path ∧
          ∀ fuel, relationships.length + 1 < fuel →
            findPath fuel (.new tables relationships) source target = some path := by
  obtain ⟨paths, hpaths⟩ := Classical.skolem.1 (exists_findPath_any relationships hs)
  constructor
  · intro target ht
    exact ⟨paths target, (hpaths target).1, (hpaths target).2 ht⟩
  · intro otherTables
    have hempty : IsUnion [] [] :=
      ⟨List.nodup_nil, fun _ he => he, fun _ he => absurd he List.not_mem_nil⟩
    have hunion := hempty.foldl (otherTables.flatMap paths)
    rw [List.nil_append] at hunion
    refine ⟨_, ?_, hunion.nodup, ?_, ?_⟩
    · intro fuel hfuel
      exact foldlM_paths (fun target _ => (hpaths target).1 fuel hfuel) []
    · intro target hother ht hr
      apply (((hpaths target).2 ht).chain hr).replaced
      intro e he
      exact hunion.covers e (List.mem_flatMap.2 ⟨target, hother, he⟩)
    · intro e he
      obtain ⟨target, hother, hpath⟩ := List.mem_flatMap.1 (hunion.subset e he)
      exact ⟨target, hother, paths target, hpath, (hpaths target).1⟩

/-- Orders, their items and customers, with a parallel edge, a self-reference and cycles. -/
def shopRelationships : List RelationshipMetadata :=
  [⟨"customer", "orders", "customers", ["customer_id"], ["id"]⟩,
    ⟨"billed_to", "orders", "customers", ["billing_id"], ["id"]⟩,
    ⟨"orders", "customers", "orders", ["id"], ["customer_id"]⟩,
    ⟨"parent", "customers", "customers", ["parent_id"], ["id"]⟩,
    ⟨"items", "orders", "order_items", ["id"], ["order_id"]⟩,
    ⟨"order", "order_items", "orders", ["order_id"], ["id"]⟩]

example : (findPath 8 (.new ["customers", "orders", "order_items"] shopRelationships)
    "customers" "order_items").map (·.map ResolvedRelationship.relationshipName) =
      some ["orders", "items"] := by decide

theorem shopRelationships_reach :
    Reachable shopRelationships "customers" "order_items" := by
  have horders : Reachable shopRelationships "customers" "orders" :=
    .single ⟨⟨"orders", "customers", "orders", ["id"], ["customer_id"]⟩, by decide, rfl, rfl⟩
  exact horders.tail ⟨⟨"items", "orders", "order_items", ["id"], ["order_id"]⟩, by decide, rfl, rfl⟩

theorem joinPaths_shop :
    (∃ path, (∀ fuel, shopRelationships.length + 1 < fuel → findPath fuel
        (.new ["customers", "orders", "order_items"] shopRelationships) "customers" "order_items" =
          some path) ∧ IsJoinPath shopRelationships "customers" path "order_items") ∧
    ∃ edges : List ResolvedRelationship,
      (∀ fuel, shopRelationships.length + 1 < fuel → findPathsFrom fuel
        (.new ["customers", "orders", "order_items"] shopRelationships) "customers"
          ["orders", "order_items"] = some edges) ∧
      (edges.map ResolvedRelationship.key).Nodup ∧
      ∃ path, (∀ e ∈ path, e ∈ edges) ∧ Chain "customers" path "order_items" := by
  obtain ⟨hpath, hpaths⟩ := joinPaths_shortest ["customers", "orders", "order_items"]
    shopRelationships "customers" List.mem_cons_self
  constructor
  · exact hpath "order_items" (by decide)
  · obtain ⟨edges, hfound, hnodup, hreach, -⟩ := hpaths ["orders", "order_items"]
    exact ⟨edges, hfound, hnodup,
      hreach "order_items" (by decide) (by decide) shopRelationships_reach⟩

end QueryMind.SchemaLinker
