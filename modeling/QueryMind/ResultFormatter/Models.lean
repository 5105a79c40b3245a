import QueryMind.Execution.Models

namespace QueryMind.ResultFormatter
open Execution
set_option autoImplicit true

inductive AnswerType
  | scalar
  | table
  | emptyResult
  | aggregation
  | detail
  deriving DecidableEq, Repr

structure AnswerSummary where
  title : String
  description : String
  rowCount : Nat
  columnCount : Nat
  containsNumeric : Bool
  containsDates : Bool
  deriving DecidableEq, Repr

/-- A value of the database and the text shown for it. -/
structure FormattedValue where
  originalValue : Value
  formattedValue : String
  detectedType : String
  deriving DecidableEq, Repr

structure FormattedRow where
  values : List FormattedValue
  deriving DecidableEq, Repr

structure FormattedTable where
  columns : List QueryColumn
  rows : List FormattedRow
  deriving DecidableEq, Repr

structure AnswerStatistics where
  rowsProcessed : Nat
  columnsProcessed : Nat
  valuesFormatted : Nat
  deriving DecidableEq, Repr

structure BusinessAnswer where
  answerType : AnswerType
  summary : AnswerSummary
  formattedTable : FormattedTable
  statistics : AnswerStatistics
  executionResult : SQLExecutionResult
  deriving DecidableEq, Repr

end QueryMind.ResultFormatter
