import QueryMind.Nlu.Models
import QueryMind.Metadata.Registry

namespace QueryMind.SchemaLinker
open Lib Nlu Metadata
set_option autoImplicit true

structure ResolvedTable where
  businessConcept : String
  table : TableMetadata
  deriving DecidableEq, Repr

structure ResolvedColumn where
  businessConcept : String
  column : ColumnMetadata
  deriving DecidableEq, Repr

structure ResolvedMetric where
  businessConcept : String
  column : ColumnMetadata
  aggregation : Option AggregationType
  rawText : String
  deriving DecidableEq, Repr

structure ResolvedFilter where
  businessConcept : String
  column : ColumnMetadata
  operator : ComparisonOperator
  value : String
  rawText : String
  deriving DecidableEq, Repr

structure ResolvedSort where
  businessConcept : String
  column : ColumnMetadata
  direction : SortDirection
  rawText : String
  deriving DecidableEq, Repr

structure ResolvedRelationship where
  sourceTable : String
  targetTable : String
  relationshipName : String
  sourceColumns : List String
  targetColumns : List String
  deriving DecidableEq, Repr

/-- A question with its concepts resolved to schema objects. -/
structure LinkedQueryContext where
  queryContext : QueryContext
  primaryEntity : Option ResolvedTable
  secondaryEntities : List ResolvedTable
  metrics : List ResolvedMetric
  dimensions : List ResolvedColumn
  filters : List ResolvedFilter
  sort : Option ResolvedSort
  relationshipPaths : List ResolvedRelationship
  deriving DecidableEq, Repr

/-- What the user asked: the wording of the question and the constraints read from it. -/
structure Question where
  originalQuestion : String
  filters : List (ComparisonOperator × String)
  timeWindow : Option (TimePeriod × Option Date × Option Date)
  limit : Option Nat
  direction : Option SortDirection
  aggregation : Option AggregationType
  metrics : List (Option AggregationType)
  linkedFilters : List (ComparisonOperator × String)
  linkedDirection : Option SortDirection
  linkedMetrics : List (Option AggregationType)
  deriving DecidableEq, Repr

/-- The part of a context that says what was asked, before and after linking. -/
def LinkedQueryContext.asked (c : LinkedQueryContext) : Question where
  originalQuestion := c.queryContext.originalQuestion
  filters := c.queryContext.filters.map (fun f => (f.operator, f.value))
  timeWindow := c.queryContext.timeExpression.map (fun t => (t.period, t.startDate, t.endDate))
  limit := c.queryContext.limit.map (·.value)
  direction := c.queryContext.sort.map (·.direction)
  aggregation := c.queryContext.aggregation
  metrics := c.queryContext.metrics.map (·.aggregation)
  linkedFilters := c.filters.map (fun f => (f.operator, f.value))
  linkedDirection := c.sort.map (·.direction)
  linkedMetrics := c.metrics.map (·.aggregation)

end QueryMind.SchemaLinker
