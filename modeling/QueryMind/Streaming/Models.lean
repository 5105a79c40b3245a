import QueryMind.Lib.Json
import QueryMind.Orchestrator.Models

namespace QueryMind.Streaming
open Lib Orchestrator
set_option autoImplicit true

inductive PipelineEventType
  | pipelineStarted
  | stageStarted
  | stageCompleted
  | stageFailed
  | pipelineCompleted
  | pipelineFailed
  | heartbeat
  | clientDisconnected
  deriving DecidableEq, Repr

structure PipelineEvent where
  correlationId : String
  pipelineStage : Option PipelineStage
  eventType : PipelineEventType
  payload : List (String × Json)

def PipelineEvent.terminal (e : PipelineEvent) : Bool :=
  e.eventType = .pipelineCompleted || e.eventType = .pipelineFailed

def PipelineEvent.isHeartbeat (e : PipelineEvent) : Bool := e.eventType = .heartbeat

/-- An exception, as `type(error).__name__` and `str(error)` show it. -/
structure Raised where
  errorType : String
  errorMessage : String
  deriving DecidableEq, Repr

def Raised.payload (error : Raised) : List (String × Json) :=
  [("error_type", .str error.errorType), ("error_message", .str error.errorMessage)]

def PipelineStartedEvent.create (cid originalQuestion : String) : PipelineEvent :=
  ⟨cid, none, .pipelineStarted, [("original_question", .str originalQuestion)]⟩

def StageStartedEvent.create (cid : String) (stage : PipelineStage) : PipelineEvent :=
  ⟨cid, some stage, .stageStarted, []⟩

def StageCompletedEvent.create (cid : String) (stage : PipelineStage) (durationMs : Rat) :
    PipelineEvent :=
  ⟨cid, some stage, .stageCompleted, [("duration_ms", .num durationMs)]⟩

def StageFailedEvent.create (cid : String) (stage : PipelineStage) (durationMs : Rat)
    (error : Raised) : PipelineEvent :=
  ⟨cid, some stage, .stageFailed, ("duration_ms", .num durationMs) :: error.payload⟩

/-- The three fields of the response that the event reports; the answer comes dumped. -/
def PipelineCompletedEvent.create (cid : String) (status : PipelineStatus) (error : Option String)
    (businessAnswer : Option Json) : PipelineEvent :=
  ⟨cid, none, .pipelineCompleted,
    [("status", .str status.value), ("error", error.elim .null .str),
      ("business_answer", businessAnswer.getD .null)]⟩

def PipelineFailedEvent.create (cid : String) (error : Raised) : PipelineEvent :=
  ⟨cid, none, .pipelineFailed, error.payload⟩

def HeartbeatEvent.create (cid : String) (elapsedMs : Rat) : PipelineEvent :=
  ⟨cid, none, .heartbeat, [("elapsed_ms", .num elapsedMs)]⟩

/-- A call of the `StageEventPublisher` interface. -/
inductive StageCallback
  | pipelineStarted (originalQuestion : String)
  | stageStarted (stage : PipelineStage)
  | stageCompleted (stage : PipelineStage) (durationMs : Rat)
  | stageFailed (stage : PipelineStage) (durationMs : Rat) (error : Raised)
  | pipelineCompleted (status : PipelineStatus) (error : Option String)
      (businessAnswer : Option Json)
  | pipelineFailed (error : Raised)

structure PipelineEventEmitter where
  correlationId : String

def PipelineEventEmitter.event (emitter : PipelineEventEmitter) : StageCallback → PipelineEvent
  | .pipelineStarted q => PipelineStartedEvent.create emitter.correlationId q
  | .stageStarted stage => StageStartedEvent.create emitter.correlationId stage
  | .stageCompleted stage ms => StageCompletedEvent.create emitter.correlationId stage ms
  | .stageFailed stage ms e => StageFailedEvent.create emitter.correlationId stage ms e
  | .pipelineCompleted st e ans => PipelineCompletedEvent.create emitter.correlationId st e ans
  | .pipelineFailed e => PipelineFailedEvent.create emitter.correlationId e

def StageCallback.terminal : StageCallback → Bool
  | .pipelineCompleted .. | .pipelineFailed .. => true
  | _ => false

@[simp] theorem PipelineEventEmitter.event_correlationId (emitter : PipelineEventEmitter)
    (c : StageCallback) : (emitter.event c).correlationId = emitter.correlationId := by
  cases c <;> rfl

@[simp] theorem PipelineEventEmitter.event_terminal (emitter : PipelineEventEmitter)
    (c : StageCallback) : (emitter.event c).terminal = c.terminal := by
  cases c <;> rfl

@[simp] theorem PipelineEventEmitter.event_isHeartbeat (emitter : PipelineEventEmitter)
    (c : StageCallback) : (emitter.event c).isHeartbeat = false := by
  cases c <;> rfl

@[simp] theorem PipelineFailedEvent.create_terminal (cid : String) (error : Raised) :
    (PipelineFailedEvent.create cid error).terminal = true := rfl

theorem PipelineEvent.isHeartbeat_terminal {e : PipelineEvent} (h : e.isHeartbeat = true) :
    e.terminal = false := by
  have he : e.eventType = .heartbeat := of_decide_eq_true h
  simp [PipelineEvent.terminal, he]

theorem PipelineEvent.isHeartbeat_of_terminal {e : PipelineEvent} (h : e.terminal = true) :
    e.isHeartbeat = false := by
  cases hb : e.isHeartbeat with
  | false => rfl
  | true => rw [isHeartbeat_terminal hb] at h; cases h

end QueryMind.Streaming
