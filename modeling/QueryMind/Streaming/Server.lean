import QueryMind.Streaming.EventBus
import QueryMind.Streaming.Stream
import QueryMind.Lib.Transition

namespace QueryMind.Streaming
open Lib
set_option autoImplicit true

/-- A `POST /query/stream` call: the headers it carries and the ids minted for it. -/
structure StreamRequest where
  requestIdHeader : Option String
  correlationIdHeader : Option String
  mintedRequestId : String
  mintedCorrelationId : String

/-- The ids that `RequestContextMiddleware.dispatch` puts on the request state. -/
def StreamRequest.dispatch (r : StreamRequest) : String × String :=
  let requestId := r.requestIdHeader.getD r.mintedRequestId
  (requestId, r.correlationIdHeader.getD requestId)

/-- The id under which `stream_query` streams; an empty id counts as missing. -/
def StreamRequest.correlationId (r : StreamRequest) : String :=
  if r.dispatch.2 ≠ "" then r.dispatch.2
  else
    match r.correlationIdHeader with
    | none => r.mintedCorrelationId
    | some h => if h ≠ "" then h else r.mintedCorrelationId

/-- The process: its bus and the calls of `stream_pipeline_events`, numbered from zero. -/
structure Server where
  bus : EventBus
  streams : List Stream

def Server.initial (requests : List StreamRequest) : Server where
  bus := .empty
  streams := requests.mapIdx fun i r => Stream.create i r.correlationId

/-- What can happen next, each at any time: a step of a pipeline task, of a heartbeat task, of the
event loop or of a consumer. -/
inductive Action
  | publish (i : Nat) (call : StageCallback)
  | heartbeat (i : Nat) (elapsedMs : Rat)
  | finish (i : Nat) (o : Outcome)
  | run (i : Nat)
  | next (i : Nat)
  | close (i : Nat)
  | unsubscribe (i : Nat)

namespace Server

def publish (s : Server) (m : Message) : Server :=
  { s with streams := s.streams.mapIdx fun k st =>
      if k ∈ s.bus.queues m.event.correlationId then st.put m else st }

def setStream (s : Server) (i : Nat) (st : Stream) : Server :=
  { s with streams := s.streams.set i st }

/-- One step of one stream; none when it cannot happen now. -/
def stepStream (s : Server) (i : Nat) (st : Stream) : Action → Option Server
  | .publish _ call =>
    let e := (PipelineEventEmitter.mk st.correlationId).event call
    if st.running then some ((s.setStream i (st.record e)).publish ⟨i, e⟩) else none
  | .heartbeat _ elapsedMs =>
    if st.live then some (s.publish ⟨i, HeartbeatEvent.create st.correlationId elapsedMs⟩) else none
  | .finish _ o => if st.running then some (s.setStream i (st.finish o)) else none
  | .run _ => st.runNext.map (s.setStream i)
  | .next _ =>
    if st.phase = .created then
      some { bus := (s.bus.subscribe st.correlationId i).2
             streams := s.streams.set i st.beginWait }
    else st.next.map (s.setStream i)
  | .close _ => st.close.map (s.setStream i)
  | .unsubscribe _ =>
    if st.phase = .cleanup ∧ st.outcome.isSome then
      match s.bus.unsubscribe ⟨st.correlationId, i⟩ with
      | .ok bus => some { bus, streams := s.streams.set i st.endStream }
      -- the generator ends by raising
      | .error _ => some (s.setStream i st.endStream)
    else none

end Server

def Action.stream : Action → Nat
  | .publish i _ | .heartbeat i _ | .finish i _ | .run i | .next i | .close i | .unsubscribe i => i

def Server.step (s : Server) (a : Action) : Option Server :=
  s.streams[a.stream]?.bind fun st => s.stepStream a.stream st a

def Server.Step (s : Server) (a : Action) (t : Server) : Prop := s.step a = some t

end QueryMind.Streaming
