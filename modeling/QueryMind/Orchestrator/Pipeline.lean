import QueryMind.Lib.Hoare
import QueryMind.Sql.Generation
import QueryMind.Streaming.Models

namespace QueryMind.Orchestrator
open Lib Execution Nlu Prompt Repair ResultFormatter SchemaLinker Sql Streaming
set_option autoImplicit true

/-- `PipelineExecutionError`, with its `__cause__`. -/
structure PipelineExecutionError where
  stage : PipelineStage
  stageTimings : List StageTiming
  repairAttempted : Bool
  repairPerformed : Bool
  generatedSql : Option GeneratedSQL
  validationResult : Option SQLValidationResult
  repairResult : Option SQLRepairResult
  executionResult : Option SQLExecutionResult
  cause : Raised
  deriving DecidableEq

def PipelineExecutionError.message (e : PipelineExecutionError) : String :=
  "Pipeline failed at stage '" ++ e.stage.value ++ "': " ++ e.cause.errorMessage

/-- A call of the `StageEventPublisher` interface, with the objects it is handed. -/
inductive PublisherCall
  | pipelineStarted (originalQuestion : String)
  | stageStarted (stage : PipelineStage)
  | stageCompleted (stage : PipelineStage) (durationMs : Rat)
  | stageFailed (stage : PipelineStage) (durationMs : Rat) (error : Raised)
  | pipelineCompleted (response : QueryMindResponse)
  | pipelineFailed (error : PipelineExecutionError)
  deriving DecidableEq

/-- After the calls so far, the next one returns or raises. -/
abbrev Publisher := List PublisherCall → PublisherCall → Option Raised

structure Clock where
  completed : PipelineStage → Rat
  failed : PipelineStage → Rat
  total : Rat

/-- The collaborators, as they answer one question; execution also says which texts it handed on. -/
structure PipelineRunner where
  parse : String → Except Raised QueryContext
  link : QueryContext → Except Raised LinkedQueryContext
  load : Except Raised Unit
  retrieve : LinkedQueryContext → Except Raised RetrievedKnowledgeBundle
  compile : RetrievedKnowledgeBundle → SQLDialect → Except Raised CompiledPrompt
  generate : CompiledPrompt → Except Raised SQLGeneration
  validate : GeneratedSQL → Except Raised SQLValidationResult
  repair : GeneratedSQL → SQLValidationResult → RetrievedKnowledgeBundle →
    Except Raised SQLRepairResult
  execute : GeneratedSQL → SQLValidationResult → Except Raised SQLExecutionResult × List String
  format : SQLExecutionResult → Except Raised BusinessAnswer
  dialect : SQLDialect

/-- The local variables, which outlive an exception, with the calls made so far. -/
structure Locals where
  currentStage : PipelineStage
  stageTimings : List StageTiming
  repairAttempted : Bool
  repairPerformed : Bool
  generatedSql : Option GeneratedSQL
  validationResult : Option SQLValidationResult
  repairResult : Option SQLRepairResult
  executionResult : Option SQLExecutionResult
  handed : List String
  emitted : List PublisherCall

def Locals.start : Locals where
  currentStage := .nlu
  stageTimings := []
  repairAttempted := false
  repairPerformed := false
  generatedSql := none
  validationResult := none
  repairResult := none
  executionResult := none
  handed := []
  emitted := []

/-- The text to be run and its verdict. -/
structure GenerationOutcome where
  finalGeneratedSql : GeneratedSQL
  finalValidationResult : SQLValidationResult

/-- What `run` raises: its own error, or what a publisher raised outside of every `try`. -/
inductive RunRaised
  | execution (error : PipelineExecutionError)
  | other (error : Raised)
  deriving DecidableEq

/-- A call the publisher raises in has been made all the same. -/
def notify (publisher : Option Publisher) (call : PublisherCall) : EStateM Raised Locals Unit :=
  match publisher with
  | none => pure ()
  | some publish => fun s =>
    let s' := { s with emitted := s.emitted ++ [call] }
    match publish s.emitted call with
    | none => .ok () s'
    | some error => .error error s'

def addTiming (stage : PipelineStage) (latencyMs : Rat) (s : Locals) : Locals :=
  { s with stageTimings := s.stageTimings ++ [⟨stage, latencyMs⟩] }

def executionErrorMessage (r : SQLExecutionResult) : String :=
  match r.executionError with
  | some e => e.message
  | none => "SQL execution did not succeed (status=" ++ r.status.value ++ ")."

def Locals.response (s : Locals) (question : String) (clock : Clock)
    (businessAnswer : Option BusinessAnswer) (status : PipelineStatus) (error : Option String) :
    QueryMindResponse where
  originalQuestion := question
  businessAnswer := businessAnswer
  generatedSql := s.generatedSql
  validationResult := s.validationResult
  repairResult := s.repairResult
  executionResult := s.executionResult
  statistics := {
    totalLatencyMs := clock.total
    stageTimings := s.stageTimings
    repairAttempted := s.repairAttempted
    repairPerformed := s.repairPerformed }
  status := status
  error := error

def Locals.wrapped (s : Locals) (exc : Raised) : PipelineExecutionError where
  stage := s.currentStage
  stageTimings := s.stageTimings
  repairAttempted := s.repairAttempted
  repairPerformed := s.repairPerformed
  generatedSql := s.generatedSql
  validationResult := s.validationResult
  repairResult := s.repairResult
  executionResult := s.executionResult
  cause := exc

def Locals.enter (outcome : GenerationOutcome) (s : Locals) : Locals :=
  { s with
    generatedSql := some outcome.finalGeneratedSql
    validationResult := some outcome.finalValidationResult }

def kept (x : Except Raised α) (keep : α → Locals → Locals) : EStateM Raised Locals α := do
  let a ← fromExcept x
  modify (keep a)
  return a

section Run
variable (runner : PipelineRunner) (clock : Clock) (publisher : Option Publisher)

/-- One stage: its number is set, its start told, its work done and timed, its end told. -/
def timed (stage : PipelineStage) (work : EStateM Raised Locals α) : EStateM Raised Locals α := do
  modify (fun s => { s with currentStage := stage })
  notify publisher (.stageStarted stage)
  let a ← work
  modify (addTiming stage (clock.completed stage))
  notify publisher (.stageCompleted stage (clock.completed stage))
  return a

def generateSql (compiledPrompt : CompiledPrompt) : EStateM Raised Locals SQLGeneration :=
  kept (runner.generate compiledPrompt)
    (fun generated s => { s with generatedSql := some generated.toGeneratedSQL })

def validateSql (gs : GeneratedSQL) : EStateM Raised Locals SQLValidationResult :=
  kept (runner.validate gs)
    (fun validationResult s => { s with validationResult := some validationResult })

def repairSql (gs : GeneratedSQL) (v : SQLValidationResult) (bundle : RetrievedKnowledgeBundle) :
    EStateM Raised Locals SQLRepairResult :=
  kept (runner.repair gs v bundle)
    (fun repairResult s => { s with repairResult := some repairResult })

def executeSql (gs : GeneratedSQL) (v : SQLValidationResult) :
    EStateM Raised Locals SQLExecutionResult := do
  modify (fun s => { s with handed := s.handed ++ (runner.execute gs v).2 })
  kept (runner.execute gs v).1
    (fun executionResult s => { s with executionResult := some executionResult })

/-- The stage that has run inside `SQL_GENERATION` already; the current stage stays that one. -/
def tellLlm (latencyMs : Rat) : EStateM Raised Locals Unit := do
  modify (addTiming .llm latencyMs)
  notify publisher (.stageStarted .llm)
  notify publisher (.stageCompleted .llm latencyMs)

def validateAndRepair (bundle : RetrievedKnowledgeBundle) (gs : GeneratedSQL) :
    EStateM Raised Locals GenerationOutcome := do
  let validationResult ← timed clock publisher .sqlValidation (validateSql runner gs)
  modify (fun s => { s with repairAttempted := !validationResult.isValid })
  if validationResult.isValid then
    return { finalGeneratedSql := gs, finalValidationResult := validationResult }
  else
    let repairResult ← timed clock publisher .sqlRepair
      (repairSql runner gs validationResult bundle)
    modify (fun s => { s with repairPerformed := decide (repairResult.status = .repaired) })
    return {
      finalGeneratedSql := repairResult.finalSql
      finalValidationResult := repairResult.finalValidationResult }

def generateAndValidate (question : String) : EStateM Raised Locals GenerationOutcome := do
  let queryContext ← timed clock publisher .nlu (fromExcept (runner.parse question))
  let linkedContext ← timed clock publisher .schemaLinking (fromExcept (runner.link queryContext))
  timed clock publisher .businessKnowledge (fromExcept runner.load)
  let bundle ← timed clock publisher .retrieval (fromExcept (runner.retrieve linkedContext))
  let compiledPrompt ← timed clock publisher .promptCompilation
    (fromExcept (runner.compile bundle runner.dialect))
  let generated ← timed clock publisher .sqlGeneration (generateSql runner compiledPrompt)
  tellLlm publisher generated.llmMetrics.latencyMs
  validateAndRepair runner clock publisher bundle generated.toGeneratedSQL

def finish (question : String) (businessAnswer : Option BusinessAnswer) (status : PipelineStatus)
    (error : Option String) : EStateM Raised Locals QueryMindResponse := do
  let s ← get
  let response := s.response question clock businessAnswer status error
  notify publisher (.pipelineCompleted response)
  return response

def executeAndFormat (question : String) (outcome : GenerationOutcome) :
    EStateM Raised Locals QueryMindResponse := do
  let executionResult ← timed clock publisher .sqlExecution
    (executeSql runner outcome.finalGeneratedSql outcome.finalValidationResult)
  if executionResult.status ≠ .success then
    finish clock publisher question none .failed (some (executionErrorMessage executionResult))
  else
    let businessAnswer ← timed clock publisher .resultFormatting
      (fromExcept (runner.format executionResult))
    finish clock publisher question (some businessAnswer) .success none

def tellFailure (exc : Raised) (wrapped : PipelineExecutionError) : EStateM Raised Locals Unit := do
  notify publisher (.stageFailed wrapped.stage (clock.failed wrapped.stage) exc)
  notify publisher (.pipelineFailed wrapped)

/-- `except Exception`: what the publisher raises here gets out as it is. -/
def onException (exc : Raised) : EStateM RunRaised Locals α := fun s =>
  match tellFailure clock publisher exc (s.wrapped exc) s with
  | .ok _ s' => .error (.execution (s.wrapped exc)) s'
  | .error e s' => .error (.other e) s'

def guarded (body : EStateM Raised Locals α) : EStateM RunRaised Locals α := fun s =>
  match body s with
  | .ok a s' => .ok a s'
  | .error exc s' => onException clock publisher exc s'

def unguarded (body : EStateM Raised Locals α) : EStateM RunRaised Locals α := fun s =>
  match body s with
  | .ok a s' => .ok a s'
  | .error e s' => .error (.other e) s'

def run (question : String) : EStateM RunRaised Locals QueryMindResponse := do
  unguarded (notify publisher (.pipelineStarted question))
  let outcome ← guarded clock publisher (generateAndValidate runner clock publisher question)
  modify (Locals.enter outcome)
  guarded clock publisher (executeAndFormat runner clock publisher question outcome)

end Run

def emittedBy (runner : PipelineRunner) (clock : Clock) (p : Publisher) (question : String) :
    List PublisherCall := (endState (run runner clock (some p) question) .start).emitted

def resultOf (runner : PipelineRunner) (clock : Clock) (publisher : Option Publisher)
    (question : String) : Except RunRaised QueryMindResponse :=
  match run runner clock publisher question .start with
  | .ok response _ => .ok response
  | .error e _ => .error e

end QueryMind.Orchestrator
