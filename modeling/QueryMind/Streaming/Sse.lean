import QueryMind.Streaming.Models
import Mathlib.Data.BitVec

namespace QueryMind.Streaming
open Lib Orchestrator
set_option autoImplicit true

def PipelineEventType.value : PipelineEventType → String
  | .pipelineStarted => "pipeline_started"
  | .stageStarted => "stage_started"
  | .stageCompleted => "stage_completed"
  | .stageFailed => "stage_failed"
  | .pipelineCompleted => "pipeline_completed"
  | .pipelineFailed => "pipeline_failed"
  | .heartbeat => "heartbeat"
  | .clientDisconnected => "client_disconnected"

/-- An event with what its constructor mints: the UUID of its id, and the time. -/
structure MintedEvent where
  uuid : BitVec 128
  timestamp : String
  event : PipelineEvent

def hex (uuid : BitVec 128) : String :=
  .ofList ((List.range 32).reverse.map fun i => Nat.digitChar (uuid.toNat / 16 ^ i % 16))

def MintedEvent.eventId (e : MintedEvent) : String := hex e.uuid

def MintedEvent.json (e : MintedEvent) : Json :=
  .obj [
    ("event_id", .str e.eventId),
    ("correlation_id", .str e.event.correlationId),
    ("timestamp", .str e.timestamp),
    ("pipeline_stage", e.event.pipelineStage.elim .null (fun stage => .str stage.value)),
    ("event_type", .str e.event.eventType.value),
    ("payload", .obj e.event.payload)]

theorem newline_toList : "\n".toList = ['\n'] := by decide

theorem blank_toList : "\n\n".toList = ['\n', '\n'] := by decide

section
variable (serializeEvent : MintedEvent → String)

def formatSseFrame (e : MintedEvent) : String :=
  "id: " ++ e.eventId ++ "\n" ++ "event: " ++ e.event.eventType.value ++ "\n" ++
    "data: " ++ serializeEvent e ++ "\n\n"

def idLine (e : MintedEvent) : List Char := "id: ".toList ++ e.eventId.toList

def eventLine (e : MintedEvent) : List Char := "event: ".toList ++ e.event.eventType.value.toList

def dataLine (e : MintedEvent) : List Char := "data: ".toList ++ (serializeEvent e).toList

def frameLines (e : MintedEvent) : List (List Char) :=
  [idLine e, eventLine e, dataLine serializeEvent e]

theorem frame_toList (a b c d e f : String) :
    (a ++ b ++ "\n" ++ c ++ d ++ "\n" ++ e ++ f ++ "\n\n").toList =
      ['\n'].intercalate [a.toList ++ b.toList, c.toList ++ d.toList, e.toList ++ f.toList] ++
        ['\n', '\n'] := by
  simp only [String.toList_append, newline_toList, blank_toList, List.intercalate_cons_cons,
    List.intercalate_singleton, List.append_assoc]

theorem formatSseFrame_toList (e : MintedEvent) : (formatSseFrame serializeEvent e).toList =
    ['\n'].intercalate (frameLines serializeEvent e) ++ ['\n', '\n'] :=
  frame_toList _ _ _ _ _ _

end

theorem digitChar_ne_newline : ∀ d < 16, Nat.digitChar d ≠ '\n' := by decide

theorem newline_notMem_idLine (e : MintedEvent) : '\n' ∉ idLine e := by
  intro h
  rcases List.mem_append.1 h with h | h
  · exact absurd h (by decide)
  · rw [MintedEvent.eventId, hex, String.toList_ofList] at h
    obtain ⟨i, _, hi⟩ := List.mem_map.1 h
    exact digitChar_ne_newline _ (Nat.mod_lt _ (by decide)) hi

theorem newline_notMem_value (t : PipelineEventType) : '\n' ∉ t.value.toList := by
  cases t <;> decide +kernel

theorem newline_notMem_eventLine (e : MintedEvent) : '\n' ∉ eventLine e := by
  intro h
  rcases List.mem_append.1 h with h | h
  · exact absurd h (by decide +kernel)
  · exact newline_notMem_value _ h

theorem frameLines_mem {serializeEvent : MintedEvent → String} {e : MintedEvent}
    (h : '\n' ∉ (serializeEvent e).toList) :
    ∀ line ∈ frameLines serializeEvent e, line ≠ [] ∧ '\n' ∉ line := by
  have hdata : '\n' ∉ dataLine serializeEvent e := by
    intro hm
    rcases List.mem_append.1 hm with hm | hm
    · exact absurd hm (by decide)
    · exact h hm
  intro line hline
  rcases List.mem_cons.1 hline with rfl | hline
  · exact ⟨List.append_ne_nil_of_left_ne_nil (by decide) _, newline_notMem_idLine e⟩
  rcases List.mem_cons.1 hline with rfl | hline
  · exact ⟨List.append_ne_nil_of_left_ne_nil (by decide) _, newline_notMem_eventLine e⟩
  rw [List.mem_singleton] at hline
  exact hline ▸ ⟨List.append_ne_nil_of_left_ne_nil (by decide) _, hdata⟩

end QueryMind.Streaming
