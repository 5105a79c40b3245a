import Mathlib.Data.List.Basic

namespace QueryMind.Metadata
set_option autoImplicit true

structure RelationshipMetadata where
  name : String
  sourceTable : String
  targetTable : String
  sourceColumns : List String
  targetColumns : List String
  deriving DecidableEq, Repr

structure GraphEdge where
  sourceTable : String
  targetTable : String
  relationshipName : String
  sourceColumns : List String
  targetColumns : List String
  deriving DecidableEq, Repr

def GraphEdge.fromRelationship (r : RelationshipMetadata) : GraphEdge :=
  ⟨r.sourceTable, r.targetTable, r.name, r.sourceColumns, r.targetColumns⟩

structure RelationshipGraph where
  nodes : List String
  adjacency : List (String × List GraphEdge)
  deriving DecidableEq, Repr

namespace RelationshipGraph

/-- `setdefault` and `append`: the edge goes to the end of its source's entry. -/
def addEdge (edge : GraphEdge) : List (String × List GraphEdge) → List (String × List GraphEdge)
  | [] => [(edge.sourceTable, [edge])]
  | (table, edges) :: grouped =>
    if table = edge.sourceTable then (table, edges ++ [edge]) :: grouped
    else (table, edges) :: addEdge edge grouped

def buildAdjacency (relationships : List RelationshipMetadata) : List (String × List GraphEdge) :=
  relationships.foldl (fun grouped r => addEdge (.fromRelationship r) grouped) []

def new (tables : List String) (relationships : List RelationshipMetadata) : RelationshipGraph :=
  ⟨tables, buildAdjacency relationships⟩

def edgesFrom (g : RelationshipGraph) (table : String) : List GraphEdge :=
  (g.adjacency.lookup table).getD []

theorem lookup_addEdge (edge : GraphEdge) (grouped : List (String × List GraphEdge))
    (table : String) : ((addEdge edge grouped).lookup table).getD [] =
      (grouped.lookup table).getD [] ++ if edge.sourceTable = table then [edge] else [] := by
  induction grouped with
  | nil =>
    rw [addEdge, List.lookup_cons]
    by_cases h : edge.sourceTable = table
    · rw [if_pos h, h, beq_self_eq_true]
      rfl
    · rw [if_neg h, beq_eq_false_iff_ne.2 (Ne.symm h)]
      rfl
  | cons entry grouped ih =>
    obtain ⟨t, edges⟩ := entry
    rw [addEdge]
    by_cases ht : t = edge.sourceTable
    · rw [if_pos ht, List.lookup_cons, List.lookup_cons]
      by_cases h : table = t
      · rw [h, beq_self_eq_true, if_pos ht.symm]
        rfl
      · have hne : edge.sourceTable ≠ table := fun he => h (he.symm.trans ht.symm)
        rw [beq_eq_false_iff_ne.2 h, if_neg hne, List.append_nil]
    · rw [if_neg ht, List.lookup_cons, List.lookup_cons]
      by_cases h : table = t
      · rw [h, beq_self_eq_true, if_neg (fun he => ht he.symm), List.append_nil]
      · rw [beq_eq_false_iff_ne.2 h, ih]

theorem edgesFrom_new (tables : List String) (relationships : List RelationshipMetadata)
    (table : String) : (new tables relationships).edgesFrom table =
      (relationships.filter (·.sourceTable = table)).map .fromRelationship := by
  have hfold : ∀ grouped : List (String × List GraphEdge),
      ((relationships.foldl (fun grouped r => addEdge (.fromRelationship r) grouped)
        grouped).lookup table).getD [] = (grouped.lookup table).getD [] ++
          (relationships.filter (·.sourceTable = table)).map .fromRelationship := by
    induction relationships with
    | nil => exact fun grouped => (List.append_nil _).symm
    | cons r relationships ih =>
      intro grouped
      rw [List.foldl_cons, ih, lookup_addEdge, List.append_assoc, List.filter_cons]
      by_cases h : r.sourceTable = table
      · simp only [GraphEdge.fromRelationship, h, if_true, decide_true, List.map_cons,
          List.singleton_append]
      · simp only [GraphEdge.fromRelationship, h, if_false, decide_false, List.nil_append,
          Bool.false_eq_true]
  exact hfold []

end RelationshipGraph

/-- Some relationship leads from one of the two tables to the other. -/
def Related (relationships : List RelationshipMetadata) (a b : String) : Prop :=
  ∃ r ∈ relationships, (r.sourceTable = a ∧ r.targetTable = b) ∨
    (r.sourceTable = b ∧ r.targetTable = a)

end QueryMind.Metadata
