import QueryMind.Lib.Hoare
import QueryMind.SchemaLinker.Relationships
import QueryMind.SchemaLinker.Resolver

namespace QueryMind.SchemaLinker
open Lib Metadata Nlu
set_option autoImplicit true

/-- What linking carries from one concept to the next. -/
structure LinkState where
  generator : CandidateGenerator
  ambiguities : List Ambiguity
  involvedTables : List String

/-- The state after one concept; `tableName` is the table that an item involves. -/
def LinkState.record (s : LinkState) (r : Outcome ρ × CandidateGenerator) (tableName : ρ → String) :
    LinkState :=
  ⟨r.2, s.ambiguities ++ r.1.2.toList,
    s.involvedTables ++ (r.1.1.map fun resolved => tableName resolved.item).toList⟩

def resolveEach
    (resolveOne : CandidateGenerator → ι → Except LinkError (Outcome ρ × CandidateGenerator))
    (tableName : ρ → String) :
    LinkState → List ι → Except LinkError (List (Resolution ρ) × LinkState)
  | s, [] => .ok ([], s)
  | s, i :: is => do
    let r ← resolveOne s.generator i
    let rest ← resolveEach resolveOne tableName (s.record r tableName) is
    .ok (r.1.1.toList ++ rest.1, rest.2)

section
variable {tableName : ρ → String}
  {resolveOne : CandidateGenerator → ι → Except LinkError (Outcome ρ × CandidateGenerator)}

theorem resolveEach_cons_ok {s : LinkState} (h : resolveOne s.generator i = .ok r) (is : List ι) :
    resolveEach resolveOne tableName s (i :: is) =
      (resolveEach resolveOne tableName (s.record r tableName) is).map
        fun rest => (r.1.1.toList ++ rest.1, rest.2) := by
  rw [resolveEach, h, ok_bind]
  cases resolveEach resolveOne tableName (s.record r tableName) is <;> rfl

theorem resolveEach_cons_error {s : LinkState} (h : resolveOne s.generator i = .error e)
    (is : List ι) : resolveEach resolveOne tableName s (i :: is) = .error e := by
  rw [resolveEach, h, error_bind]

end

/-- `dict.fromkeys`: each name once, where it first stands. -/
def uniqueTables (names : List String) : List String := names.eraseDups

/-- More turns than any search over the relationships takes. -/
def joinFuel (database : DatabaseMetadata) : Nat := database.relationships.length + 2

def resolveRelationshipPaths (database : DatabaseMetadata) (involvedTables : List String) :
    Option (List ResolvedRelationship) :=
  match uniqueTables involvedTables with
  | anchor :: other :: others =>
    findPathsFrom (joinFuel database) database.buildGraph anchor (other :: others)
  | _ => some []

/-- `None` for the paths stands for a search that has not ended. -/
structure LinkedContext where
  queryContext : QueryContext
  primaryEntity : Option (Resolution ResolvedTable)
  secondaryEntities : List (Resolution ResolvedTable)
  metrics : List (Resolution ResolvedMetric)
  dimensions : List (Resolution ResolvedColumn)
  filters : List (Resolution ResolvedFilter)
  sort : Option (Resolution ResolvedSort)
  relationshipPaths : Option (List ResolvedRelationship)
  ambiguities : List Ambiguity

/-- `SchemaLinker.link`, with the generator that it leaves behind. -/
def link (g : CandidateGenerator) (context : QueryContext) :
    Except LinkError (LinkedContext × CandidateGenerator) :=
  if g.database.tables = [] then .error .emptyRegistry
  else do
    let primary ← resolveEach resolveEntity (·.table.name) ⟨g, [], []⟩ context.primaryEntity.toList
    let secondary ← resolveEach resolveEntity (·.table.name) primary.2 context.secondaryEntities
    let metrics ← resolveEach resolveMetric (·.column.tableName) secondary.2 context.metrics
    let dimensions ← resolveEach resolveDimension (·.column.tableName) metrics.2 context.dimensions
    let filters ← resolveEach resolveFilter (·.column.tableName) dimensions.2 context.filters
    let sort ← resolveEach resolveSort (·.column.tableName) filters.2 context.sort.toList
    .ok (⟨context, primary.1.head?, secondary.1, metrics.1, dimensions.1, filters.1, sort.1.head?,
      resolveRelationshipPaths g.database sort.2.involvedTables, sort.2.ambiguities⟩,
      sort.2.generator)

/-- The generator of a linker that has linked some questions. Only an empty registry makes a link
raise, before it looks anything up. -/
def afterLinks (g : CandidateGenerator) : List QueryContext → CandidateGenerator
  | [] => g
  | context :: contexts =>
    match link g context with
    | .ok r => afterLinks r.2 contexts
    | .error _ => afterLinks g contexts

/-- A place of a question where a concept stands. -/
inductive Occurrence
  | entity (concept : String)
  | metric (metric : MetricExpression)
  | dimension (concept : String)
  | filter (filter : FilterExpression)
  | sort (sort : SortExpression)
  deriving DecidableEq, Repr

namespace Occurrence

def concept : Occurrence → String
  | .entity c => c
  | .metric e => e.name
  | .dimension c => c
  | .filter e => e.field
  | .sort e => e.field

def conceptKind : Occurrence → ConceptKind
  | .entity _ => .entity
  | .metric _ => .metric
  | .dimension _ => .dimension
  | .filter _ => .filterField
  | .sort _ => .sortField

def lookupKind : Occurrence → LookupKind
  | .entity _ => .table
  | _ => .column

end Occurrence

/-- The occurrences of a question's concepts, in the order in which they are linked. -/
def occurrences (context : QueryContext) : List Occurrence :=
  context.primaryEntity.toList.map .entity ++ context.secondaryEntities.map .entity ++
    context.metrics.map .metric ++ context.dimensions.map .dimension ++
    context.filters.map .filter ++ context.sort.toList.map .sort

/-- A resolved item of any field. -/
structure LinkedItem where
  occurrence : Occurrence
  object : TableMetadata ⊕ ColumnMetadata
  confidence : Rat
  matchingReason : MatchTier
  candidateRank : Nat
  alternatives : List LinkCandidate
  deriving DecidableEq, Repr

def Resolution.toItem (occurrence : ρ → Occurrence) (object : ρ → TableMetadata ⊕ ColumnMetadata)
    (r : Resolution ρ) : LinkedItem :=
  ⟨occurrence r.item, object r.item, r.confidence, r.matchingReason, r.candidateRank,
    r.alternatives⟩

def tableItem : Resolution ResolvedTable → LinkedItem :=
  Resolution.toItem (fun t => .entity t.businessConcept) fun t => .inl t.table

def metricItem : Resolution ResolvedMetric → LinkedItem :=
  Resolution.toItem (fun t => .metric ⟨t.businessConcept, t.aggregation, t.rawText⟩)
    fun t => .inr t.column

def dimensionItem : Resolution ResolvedColumn → LinkedItem :=
  Resolution.toItem (fun t => .dimension t.businessConcept) fun t => .inr t.column

def filterItem : Resolution ResolvedFilter → LinkedItem :=
  Resolution.toItem (fun t => .filter ⟨t.businessConcept, t.operator, t.value, t.rawText⟩)
    fun t => .inr t.column

def sortItem : Resolution ResolvedSort → LinkedItem :=
  Resolution.toItem (fun t => .sort ⟨t.businessConcept, t.direction, t.rawText⟩)
    fun t => .inr t.column

def LinkedContext.items (c : LinkedContext) : List LinkedItem :=
  c.primaryEntity.toList.map tableItem ++ c.secondaryEntities.map tableItem ++
    c.metrics.map metricItem ++ c.dimensions.map dimensionItem ++ c.filters.map filterItem ++
    c.sort.toList.map sortItem

def LinkedItem.tableName (item : LinkedItem) : String :=
  item.object.elim TableMetadata.name ColumnMetadata.tableName

def LinkedItem.columnName (item : LinkedItem) : Option String :=
  item.object.elim (fun _ => none) fun column => some column.name

end QueryMind.SchemaLinker
