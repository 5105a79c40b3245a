import QueryMind.Repair.Models
import QueryMind.ResultFormatter.Models

namespace QueryMind.Orchestrator
open Execution Repair ResultFormatter Sql
set_option autoImplicit true

/-- The independently timed stages, in execution order. -/
inductive PipelineStage
  | nlu
  | schemaLinking
  | businessKnowledge
  | retrieval
  | promptCompilation
  | llm
  | sqlGeneration
  | sqlValidation
  | sqlRepair
  | sqlExecution
  | resultFormatting
  deriving DecidableEq, Repr

inductive PipelineStatus
  | success
  | failed
  deriving DecidableEq, Repr

def PipelineStatus.value : PipelineStatus → String
  | .success => "success"
  | .failed => "failed"

def PipelineStage.value : PipelineStage → String
  | .nlu => "nlu"
  | .schemaLinking => "schema_linking"
  | .businessKnowledge => "business_knowledge"
  | .retrieval => "retrieval"
  | .promptCompilation => "prompt_compilation"
  | .llm => "llm"
  | .sqlGeneration => "sql_generation"
  | .sqlValidation => "sql_validation"
  | .sqlRepair => "sql_repair"
  | .sqlExecution => "sql_execution"
  | .resultFormatting => "result_formatting"

structure StageTiming where
  stage : PipelineStage
  latencyMs : Rat
  deriving DecidableEq, Repr

structure PipelineStatistics where
  totalLatencyMs : Rat
  stageTimings : List StageTiming
  repairAttempted : Bool
  repairPerformed : Bool
  deriving DecidableEq, Repr

structure QueryMindResponse where
  originalQuestion : String
  businessAnswer : Option BusinessAnswer
  generatedSql : Option GeneratedSQL
  validationResult : Option SQLValidationResult
  repairResult : Option SQLRepairResult
  executionResult : Option SQLExecutionResult
  statistics : PipelineStatistics
  status : PipelineStatus
  error : Option String
  deriving DecidableEq

end QueryMind.Orchestrator
