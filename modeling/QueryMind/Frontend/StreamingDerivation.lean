import QueryMind.Streaming.Models

namespace QueryMind.Frontend
open Lib Orchestrator Streaming
set_option autoImplicit true

/-- A stage and a duration as the event has them; none stands for `undefined`. -/
structure StageTiming where
  stage : Option PipelineStage
  latencyMs : Option Json

/-- No total stands for `NaN`. -/
structure PipelineStatistics where
  totalLatencyMs : Option Rat
  stageTimings : List StageTiming
  repairAttempted : Bool
  repairPerformed : Bool

/-- `QueryMindResponse` as the stream gives it; what is always null in it is left out. -/
structure StreamedResponse where
  originalQuestion : String
  businessAnswer : Option Json
  executionResult : Json
  statistics : PipelineStatistics
  status : Option Json
  error : Option Json

def payloadField (e : PipelineEvent) (name : String) : Option Json :=
  (Json.obj e.payload).child (.name name)

/-- `sum + latency`, which is a number only for a number. -/
def addLatency : Option Rat → Option Json → Option Rat
  | some sum, some (.num ms) => some (sum + ms)
  | _, _ => none

def stageTimings (events : List PipelineEvent) : List StageTiming :=
  (events.filter (fun e => e.eventType = .stageCompleted)).map
    (fun e => ⟨e.pipelineStage, payloadField e "duration_ms"⟩)

def deriveStatistics (events : List PipelineEvent) : PipelineStatistics :=
  let stageTimings := stageTimings events
  let totalLatencyMs :=
    stageTimings.foldl (fun sum timing => addLatency sum timing.latencyMs) (some 0)
  let repairAttempted := stageTimings.any (fun timing => timing.stage = some .sqlRepair)
  { totalLatencyMs, stageTimings, repairAttempted, repairPerformed := repairAttempted }

def executionResultOf (answer : Option Json) : Json :=
  ((answer.bind (fun a => a.child (.name "execution_result")))).getD .null

def buildResponseFromCompletedEvent (question : String) (events : List PipelineEvent)
    (completed : PipelineEvent) : StreamedResponse where
  originalQuestion := question
  businessAnswer := payloadField completed "business_answer"
  executionResult := executionResultOf (payloadField completed "business_answer")
  statistics := deriveStatistics events
  status := payloadField completed "status"
  error := payloadField completed "error"

def buildResponseFromFailedEvent (question : String) (events : List PipelineEvent)
    (failed : PipelineEvent) : StreamedResponse where
  originalQuestion := question
  businessAnswer := some .null
  executionResult := .null
  statistics := deriveStatistics events
  status := some (.str "failed")
  error := payloadField failed "error_message"

end QueryMind.Frontend
