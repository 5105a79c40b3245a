import QueryMind.Llm.Models
import QueryMind.Sql.Models

namespace QueryMind.Repair
open Llm Sql
set_option autoImplicit true

inductive RepairReason
  | unknownTable
  | unknownColumn
  | schemaIssue
  | invalidJoin
  | missingGroupBy
  | aggregateError
  | aliasIssue
  | unsupportedFunction
  | dialectIssue
  | businessRuleMismatch
  | unsupportedStatement
  | syntaxError
  | other
  deriving DecidableEq, Repr

def RepairReason.value : RepairReason → String
  | .unknownTable => "unknown_table"
  | .unknownColumn => "unknown_column"
  | .schemaIssue => "schema_issue"
  | .invalidJoin => "invalid_join"
  | .missingGroupBy => "missing_group_by"
  | .aggregateError => "aggregate_error"
  | .aliasIssue => "alias_issue"
  | .unsupportedFunction => "unsupported_function"
  | .dialectIssue => "dialect_issue"
  | .businessRuleMismatch => "business_rule_mismatch"
  | .unsupportedStatement => "unsupported_statement"
  | .syntaxError => "syntax_error"
  | .other => "other"

inductive RepairStatus
  | repaired
  | maxAttemptsReached
  | noProgress
  | unrepairable
  deriving DecidableEq, Repr

structure RepairAttempt where
  attemptNumber : Nat
  repairReason : RepairReason
  inputSql : String
  repairedSql : String
  validationResult : SQLValidationResult
  promptVersion : String
  llmMetrics : GenerationMetrics
  success : Bool
  deriving DecidableEq

structure RepairStatistics where
  attemptCount : Nat
  successfulRepairs : Nat
  failedRepairs : Nat
  deriving DecidableEq, Repr

structure SQLRepairResult where
  originalSql : GeneratedSQL
  finalSql : GeneratedSQL
  finalValidationResult : SQLValidationResult
  history : List RepairAttempt
  statistics : RepairStatistics
  status : RepairStatus
  deriving DecidableEq

end QueryMind.Repair
