import QueryMind.Repair.Models
import Mathlib.Data.List.Sort

namespace QueryMind.Repair
open Sql
set_option autoImplicit true

/-- `_ISSUE_CODE_TO_REASON`; any other code is `OTHER`. -/
def issueCodeToReason : List (String × RepairReason) :=
  [("sql_syntax_error", .syntaxError), ("unsupported_statement_type", .unsupportedStatement),
    ("unknown_table", .unknownTable), ("unknown_schema", .schemaIssue),
    ("ambiguous_table_reference", .schemaIssue), ("unknown_column", .unknownColumn),
    ("ambiguous_column", .unknownColumn), ("invalid_qualification", .aliasIssue),
    ("duplicate_table_alias", .aliasIssue), ("duplicate_alias", .aliasIssue),
    ("unknown_alias", .aliasIssue), ("unknown_join_relationship", .invalidJoin),
    ("join_columns_do_not_match_relationship", .invalidJoin),
    ("missing_group_by", .missingGroupBy), ("having_without_aggregation", .aggregateError),
    ("nested_aggregate", .aggregateError), ("unsupported_function", .unsupportedFunction),
    ("unsupported_dialect", .dialectIssue), ("unsupported_dialect_construct", .dialectIssue),
    ("business_metric_schema_mismatch", .businessRuleMismatch)]

def reasonOf (issue : ValidationIssue) : RepairReason :=
  (issueCodeToReason.lookup issue.code).getD .other

def priorityFor : RepairReason → Nat
  | .syntaxError => 0
  | .unsupportedStatement => 1
  | .unknownTable => 2
  | .schemaIssue => 3
  | .unknownColumn => 4
  | .aliasIssue => 5
  | .invalidJoin => 6
  | .missingGroupBy => 7
  | .aggregateError => 8
  | .unsupportedFunction => 9
  | .dialectIssue => 10
  | .businessRuleMismatch => 11
  | .other => 99

def unrepairableCodes : List String := ["validator_internal_error"]

structure RepairCategory where
  reason : RepairReason
  priority : Nat
  issues : List ValidationIssue
  deriving DecidableEq, Repr

structure RepairPlan where
  categories : List RepairCategory
  primaryReason : RepairReason
  summary : String
  isRepairable : Bool
  deriving DecidableEq, Repr

/-- The issues by reason; the reasons in the order in which they first occur. -/
def groupByReason (issues : List ValidationIssue) : List RepairCategory :=
  (issues.map reasonOf).eraseDups.map (fun reason =>
    ⟨reason, priorityFor reason, issues.filter (fun issue => reasonOf issue = reason)⟩)

def buildSummary (categories : List RepairCategory) : String :=
  "Repair needed: " ++
    ", ".intercalate (categories.map (fun category =>
      category.reason.value ++ " (" ++ category.issues.length.repr ++ ")")) ++ "."

def issuesToRepair (v : SQLValidationResult) : List ValidationIssue :=
  if v.errors.isEmpty then v.warnings else v.errors

def plan (v : SQLValidationResult) : RepairPlan :=
  let issues := issuesToRepair v
  if issues.isEmpty then
    { categories := [], primaryReason := .other, summary := "No validation issues to repair."
      isRepairable := false }
  else
    let categories := (groupByReason issues).insertionSort (fun a b => a.priority ≤ b.priority)
    { categories
      primaryReason := (categories.head?.map RepairCategory.reason).getD .other
      summary := buildSummary categories
      isRepairable := !issues.all (fun issue => issue.code ∈ unrepairableCodes) }

theorem plan_repairable :
    (plan v).isRepairable = true ↔ ∃ issue ∈ issuesToRepair v, issue.code ∉ unrepairableCodes := by
  rw [plan]
  split
  · rename_i h
    rw [List.isEmpty_iff.1 h]
    simp only [Bool.false_eq_true, List.not_mem_nil, false_and, exists_false]
  · simp only [Bool.not_eq_true', List.all_eq_false, decide_eq_true_eq]

end QueryMind.Repair
