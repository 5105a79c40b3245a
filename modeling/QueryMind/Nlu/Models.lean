import Mathlib.Data.List.Basic
import QueryMind.Lib.Calendar

namespace QueryMind.Nlu
open Lib
set_option autoImplicit true

inductive Intent
  | select | topN | aggregation | comparison | trend | detail | count | average | sum | min | max
  deriving DecidableEq, Repr

def Intent.value : Intent → String
  | .select => "select"
  | .topN => "top_n"
  | .aggregation => "aggregation"
  | .comparison => "comparison"
  | .trend => "trend"
  | .detail => "detail"
  | .count => "count"
  | .average => "average"
  | .sum => "sum"
  | .min => "min"
  | .max => "max"

inductive AggregationType
  | count | sum | average | min | max
  deriving DecidableEq, Repr

def AggregationType.value : AggregationType → String
  | .count => "count"
  | .sum => "sum"
  | .average => "average"
  | .min => "min"
  | .max => "max"

inductive ComparisonOperator
  | equals | notEquals | greaterThan | greaterThanOrEqual | lessThan | lessThanOrEqual | in
  | contains
  deriving DecidableEq, Repr

def ComparisonOperator.value : ComparisonOperator → String
  | .equals => "equals"
  | .notEquals => "not_equals"
  | .greaterThan => "greater_than"
  | .greaterThanOrEqual => "greater_than_or_equal"
  | .lessThan => "less_than"
  | .lessThanOrEqual => "less_than_or_equal"
  | .in => "in"
  | .contains => "contains"

inductive SortDirection
  | ascending | descending
  deriving DecidableEq, Repr

def SortDirection.value : SortDirection → String
  | .ascending => "asc"
  | .descending => "desc"

inductive TimePeriod
  | today | yesterday | thisWeek | lastWeek | thisMonth | lastMonth | thisQuarter | lastQuarter
  | thisYear | lastYear | between | before | after
  deriving DecidableEq, Repr

def TimePeriod.value : TimePeriod → String
  | .today => "today"
  | .yesterday => "yesterday"
  | .thisWeek => "this_week"
  | .lastWeek => "last_week"
  | .thisMonth => "this_month"
  | .lastMonth => "last_month"
  | .thisQuarter => "this_quarter"
  | .lastQuarter => "last_quarter"
  | .thisYear => "this_year"
  | .lastYear => "last_year"
  | .between => "between"
  | .before => "before"
  | .after => "after"

structure FilterExpression where
  field : String
  operator : ComparisonOperator
  value : String
  rawText : String
  deriving DecidableEq, Repr

structure MetricExpression where
  name : String
  aggregation : Option AggregationType
  rawText : String
  deriving DecidableEq, Repr

structure TimeExpression where
  period : TimePeriod
  startDate : Option Date
  endDate : Option Date
  rawText : String
  deriving DecidableEq, Repr

structure SortExpression where
  field : String
  direction : SortDirection
  rawText : String
  deriving DecidableEq, Repr

/-- A cap on the number of results; the model rejects zero. -/
structure LimitExpression where
  value : Nat
  value_pos : 0 < value
  rawText : String
  deriving DecidableEq, Repr

structure QueryContext where
  originalQuestion : String
  normalizedQuestion : String
  intent : Intent
  primaryEntity : Option String
  secondaryEntities : List String
  businessConcepts : List String
  metrics : List MetricExpression
  dimensions : List String
  filters : List FilterExpression
  timeExpression : Option TimeExpression
  sort : Option SortExpression
  limit : Option LimitExpression
  aggregation : Option AggregationType
  deriving DecidableEq, Repr

end QueryMind.Nlu
