import QueryMind.Streaming.Models

namespace QueryMind.Streaming
set_option autoImplicit true

/-- How the task that runs `QueryMindEngine.ask` ended. -/
inductive Outcome
  | returned
  | raised (error : Raised)
  | cancelled
  deriving DecidableEq, Repr

def Outcome.isRaised : Outcome → Bool
  | .raised _ => true
  | _ => false

/-- An event, with the number of the run it belongs to. -/
structure Message where
  origin : Nat
  event : PipelineEvent

/-- The task around `subscription.queue.get()`; idle when there is none or its result is taken. -/
inductive GetTask
  | idle
  | new
  | waiting
  | woken
  | done (m : Message)

/-- What the event loop may have scheduled on behalf of one stream. -/
inductive Callback
  | getStep
  | getWakeup
  | onGet
  | onPipeline
  | driverWakeup
  deriving DecidableEq, Repr

/-- A scheduled callback and the turn of the driver's loop it was scheduled for. -/
structure Handle where
  callback : Callback
  round : Nat
  deriving DecidableEq, Repr

/-- Where `stream_pipeline_events` stands. -/
inductive Phase
  | created
  | waiting
  | yielded (last : Bool)
  | cleanup
  | ended
  deriving DecidableEq, Repr

/-- One call of `stream_pipeline_events`, the tasks it owns and its queue.
`published`, `items` and `closed` record what was published, what the consumer was given and
whether it left early. -/
structure Stream where
  run : Nat
  correlationId : String
  phase : Phase
  outcome : Option Outcome
  getTask : GetTask
  round : Nat
  waiterSet : Bool
  ready : List Handle
  queue : List Message
  published : List PipelineEvent
  items : List Message
  closed : Bool

namespace Stream

def create (run : Nat) (correlationId : String) : Stream :=
  { run, correlationId, phase := .created, outcome := none, getTask := .idle, round := 0,
    waiterSet := false, ready := [], queue := [], published := [], items := [], closed := false }

def live (s : Stream) : Bool := s.phase ≠ .created && s.phase ≠ .ended

def running (s : Stream) : Bool := s.live && s.outcome.isNone

/-- `put_nowait`, which wakes the task that waits for an event. -/
def put (s : Stream) (m : Message) : Stream :=
  match s.getTask with
  | .waiting =>
    { s with queue := s.queue ++ [m], getTask := .woken,
             ready := s.ready ++ [⟨.getWakeup, s.round⟩] }
  | _ => { s with queue := s.queue ++ [m] }

def record (s : Stream) (e : PipelineEvent) : Stream := { s with published := s.published ++ [e] }

/-- A turn of the loop: start a new get, then wait for it or for the pipeline task.
A done pipeline task has its callback scheduled at once, behind the first step of the get. -/
def beginWait (s : Stream) : Stream :=
  { s with phase := .waiting, getTask := .new, round := s.round + 1, waiterSet := false,
           ready := s.ready ++ ⟨.getStep, s.round + 1⟩ ::
             (if s.outcome.isSome then [⟨.onPipeline, s.round + 1⟩] else []) }

/-- `Queue.get` goes on: take the oldest event, or wait for one. -/
def takeEvent (s : Stream) : Stream :=
  match s.queue with
  | [] => { s with getTask := .waiting }
  | m :: queue =>
    { s with queue, getTask := .done m, ready := s.ready ++ [⟨.onGet, s.round⟩] }

/-- `_on_completion` of `asyncio.wait`: only the first of the two tasks sets the waiter. -/
def onCompletion (s : Stream) : Stream :=
  if s.waiterSet then s
  else { s with waiterSet := true, ready := s.ready ++ [⟨.driverWakeup, s.round⟩] }

/-- The `finally` block, up to the gathering of the tasks. -/
def leave (s : Stream) (closed : Bool) : Stream :=
  { s with phase := .cleanup, getTask := .idle, closed }

def deliver (s : Stream) (m : Message) (last : Bool) : Stream :=
  { s with getTask := .idle, items := s.items ++ [m], phase := .yielded last }

def resume (s : Stream) : Stream :=
  match s.getTask with
  | .done m => s.deliver m m.event.terminal
  | _ =>
    match s.outcome with
    | some (.raised error) =>
      s.deliver ⟨s.run, PipelineFailedEvent.create s.correlationId error⟩ true
    -- returned or cancelled; of a task that is not done, `exception()` would raise
    | _ => s.leave s.closed

def perform (s : Stream) (h : Handle) : Stream :=
  if h.round ≠ s.round ∨ s.phase ≠ .waiting then s
  else
    match h.callback, s.getTask with
    | .getStep, .new => s.takeEvent
    | .getWakeup, .woken => s.takeEvent
    | .onGet, _ => s.onCompletion
    | .onPipeline, _ => s.onCompletion
    | .driverWakeup, _ => s.resume
    | _, _ => s

def runNext (s : Stream) : Option Stream :=
  match s.ready with
  | [] => none
  | h :: ready => some ({ s with ready }.perform h)

def finish (s : Stream) (o : Outcome) : Stream :=
  { s with outcome := some o,
           ready := if s.phase = .waiting then s.ready ++ [⟨.onPipeline, s.round⟩] else s.ready }

def next (s : Stream) : Option Stream :=
  match s.phase with
  | .yielded true => some (s.leave s.closed)
  | .yielded false => some s.beginWait
  | _ => none

def close (s : Stream) : Option Stream :=
  match s.phase with
  | .waiting | .yielded _ => some (s.leave true)
  | _ => none

/-- The `finally` block is over: the tasks are gathered and the queue is unsubscribed. -/
def endStream (s : Stream) : Stream := { s with phase := .ended }

end Stream

end QueryMind.Streaming
