import QueryMind.Frontend.StreamedAnswer

namespace QueryMind.Frontend
open Lib Orchestrator Streaming
set_option autoImplicit true

inductive StageRowStatus
  | pending
  | running
  | completed
  | failed
  | skipped
  deriving DecidableEq, Repr

/-- A row of the timeline; no latency stands for `undefined`. -/
structure StageRow where
  stage : PipelineStage
  label : String
  status : StageRowStatus
  latencyMs : Option Json

def pipelineStages : List PipelineStage :=
  [.nlu, .schemaLinking, .businessKnowledge, .retrieval, .promptCompilation, .sqlGeneration, .llm,
    .sqlValidation, .sqlRepair, .sqlExecution, .resultFormatting]

def pipelineStageLabels : PipelineStage → String
  | .nlu => "NLU"
  | .schemaLinking => "Schema Linking"
  | .businessKnowledge => "Business Knowledge"
  | .retrieval => "Retrieval"
  | .promptCompilation => "Prompt Compilation"
  | .sqlGeneration => "SQL Generation"
  | .llm => "LLM"
  | .sqlValidation => "Validation"
  | .sqlRepair => "Repair"
  | .sqlExecution => "Execution"
  | .resultFormatting => "Formatting"

def findEvent (events : List PipelineEvent) (eventType : PipelineEventType)
    (stage : PipelineStage) : Option PipelineEvent :=
  events.find? fun event => event.eventType = eventType ∧ event.pipelineStage = some stage

def rowFromEvents (events : List PipelineEvent) (isTerminal : Bool) (stage : PipelineStage) :
    StageRow :=
  let row := StageRow.mk stage (pipelineStageLabels stage)
  match findEvent events .stageFailed stage with
  | some failed => row .failed (payloadField failed "duration_ms")
  | none =>
    match findEvent events .stageCompleted stage with
    | some completed => row .completed (payloadField completed "duration_ms")
    | none =>
      match findEvent events .stageStarted stage with
      | some _ => row .running (some .null)
      | none => row (if isTerminal then .skipped else .pending) (some .null)

def deriveStageRowsFromEvents (events : List PipelineEvent) (isTerminal : Bool) : List StageRow :=
  pipelineStages.map (rowFromEvents events isTerminal)

def rowFromTimings (timings : List Orchestrator.StageTiming) (stage : PipelineStage) : StageRow :=
  let row := StageRow.mk stage (pipelineStageLabels stage)
  match timings.find? fun timing => timing.stage = stage with
  | some timing => row .completed (some (.num timing.latencyMs))
  | none => row .skipped (some .null)

def deriveStageRowsFromTimings (timings : List Orchestrator.StageTiming) : List StageRow :=
  pipelineStages.map (rowFromTimings timings)

theorem findEvent_some (h : findEvent events eventType stage = some e) :
    e ∈ events ∧ e.eventType = eventType ∧ e.pipelineStage = some stage :=
  ⟨List.mem_of_find?_eq_some h, of_decide_eq_true (List.find?_some h :)⟩

theorem findEvent_none (h : findEvent events eventType stage = none) (he : e ∈ events)
    (ht : e.eventType = eventType) : e.pipelineStage ≠ some stage :=
  fun hs => List.find?_eq_none.1 h e he (decide_eq_true ⟨ht, hs⟩)

@[simp] theorem rowFromEvents_stage (events : List PipelineEvent) (isTerminal : Bool)
    (stage : PipelineStage) : (rowFromEvents events isTerminal stage).stage = stage := by
  rw [rowFromEvents]
  split
  · rfl
  · split
    · rfl
    · split <;> rfl

theorem rowFromEvents_running
    (h : (rowFromEvents events isTerminal stage).status = .running) :
    findEvent events .stageFailed stage = none ∧ findEvent events .stageCompleted stage = none ∧
      ∃ started, findEvent events .stageStarted stage = some started := by
  rw [rowFromEvents] at h
  split at h
  · cases h
  · rename_i hf
    split at h
    · cases h
    · rename_i hc
      split at h
      · rename_i started hs
        exact ⟨hf, hc, started, hs⟩
      · dsimp only at h
        split at h <;> cases h

def IsStageType (eventType : PipelineEventType) : Prop :=
  eventType = .stageStarted ∨ eventType = .stageCompleted ∨ eventType = .stageFailed

theorem rowFromEvents_congr {l m : List PipelineEvent}
    (h : ∀ eventType, IsStageType eventType →
      findEvent l eventType stage = findEvent m eventType stage) (isTerminal : Bool) :
    rowFromEvents l isTerminal stage = rowFromEvents m isTerminal stage := by
  rw [rowFromEvents, rowFromEvents, h .stageFailed (.inr (.inr rfl)),
    h .stageCompleted (.inr (.inl rfl)), h .stageStarted (.inl rfl)]

theorem rowFromEvents_heartbeats (es : List PipelineEvent) (isTerminal : Bool)
    (stage : PipelineStage) :
    rowFromEvents (es.filter fun e => !e.isHeartbeat) isTerminal stage =
      rowFromEvents es isTerminal stage := by
  apply rowFromEvents_congr
  intro eventType hk
  rw [findEvent, findEvent, List.find?_filter]
  congr 1
  funext e
  rw [PipelineEvent.isHeartbeat]
  apply decide_eq_decide.2
  rw [Bool.not_eq_true', decide_eq_false_iff_not]
  constructor
  · exact fun h => of_decide_eq_true h.2
  · refine fun h => ⟨fun hb => ?_, decide_eq_true h⟩
    rw [← h.1, hb] at hk
    rcases hk with hk | hk | hk <;> cases hk

def finished (cid : String) (timings : List Orchestrator.StageTiming) : List PipelineEvent :=
  timings.flatMap fun t =>
    [StageStartedEvent.create cid t.stage, StageCompletedEvent.create cid t.stage t.latencyMs]

theorem findEvent_append (l m : List PipelineEvent) (eventType : PipelineEventType)
    (stage : PipelineStage) :
    findEvent (l ++ m) eventType stage =
      (findEvent l eventType stage).or (findEvent m eventType stage) := List.find?_append

theorem finished_failed (cid : String) (timings : List Orchestrator.StageTiming)
    (stage : PipelineStage) : findEvent (finished cid timings) .stageFailed stage = none := by
  rw [findEvent, List.find?_eq_none]
  intro e he
  obtain ⟨t, -, he⟩ := List.mem_flatMap.1 he
  rcases List.mem_pair.1 he with rfl | rfl
  · intro h
    cases (of_decide_eq_true h).1
  · intro h
    cases (of_decide_eq_true h).1

theorem finished_cons (cid : String) (t : Orchestrator.StageTiming)
    (timings : List Orchestrator.StageTiming) :
    finished cid (t :: timings) =
      [StageStartedEvent.create cid t.stage, StageCompletedEvent.create cid t.stage t.latencyMs] ++
        finished cid timings := List.flatMap_cons

theorem findEvent_pair (cid : String) (t : Orchestrator.StageTiming) (stage : PipelineStage) :
    findEvent [StageStartedEvent.create cid t.stage,
        StageCompletedEvent.create cid t.stage t.latencyMs] .stageCompleted stage =
      (if t.stage = stage then some (StageCompletedEvent.create cid t.stage t.latencyMs)
        else none) ∧
    findEvent [StageStartedEvent.create cid t.stage,
        StageCompletedEvent.create cid t.stage t.latencyMs] .stageStarted stage =
      if t.stage = stage then some (StageStartedEvent.create cid t.stage) else none := by
  by_cases h : t.stage = stage
  · simp [findEvent, StageStartedEvent.create, StageCompletedEvent.create, h]
  · simp [findEvent, StageStartedEvent.create, StageCompletedEvent.create, h]

theorem finished_find (cid : String) (timings : List Orchestrator.StageTiming)
    (stage : PipelineStage) :
    findEvent (finished cid timings) .stageCompleted stage =
        (timings.find? fun t => t.stage = stage).map
          (fun t => StageCompletedEvent.create cid t.stage t.latencyMs) ∧
      findEvent (finished cid timings) .stageStarted stage =
        (timings.find? fun t => t.stage = stage).map
          (fun t => StageStartedEvent.create cid t.stage) := by
  induction timings with
  | nil => exact ⟨rfl, rfl⟩
  | cons t timings ih =>
    obtain ⟨hc, hs⟩ := findEvent_pair cid t stage
    rw [finished_cons, findEvent_append, findEvent_append, hc, hs, ih.1, ih.2]
    by_cases h : t.stage = stage
    · have hd : (t :: timings).find? (fun t => t.stage = stage) = some t := by
        rw [List.find?_cons, decide_eq_true h]
      rw [if_pos h, if_pos h, hd]
      exact ⟨rfl, rfl⟩
    · have hd : (t :: timings).find? (fun t => t.stage = stage) =
          timings.find? (fun t => t.stage = stage) := by
        rw [List.find?_cons, decide_eq_false h]
      rw [if_neg h, if_neg h, hd]
      exact ⟨rfl, rfl⟩

/-- The event right after the start of a stage ends that stage. -/
def Answered (events : List PipelineEvent) : Prop :=
  ∀ a e b stage, events = a ++ e :: b → e.eventType = .stageStarted →
    e.pipelineStage = some stage → ∃ e' b', b = e' :: b' ∧ e'.pipelineStage = some stage ∧
      (e'.eventType = .stageCompleted ∨ e'.eventType = .stageFailed)

theorem Answered.skip (h : Answered events) (hk : e.eventType ≠ .stageStarted) :
    Answered (e :: events) := by
  intro a e' b stage he ht hs
  cases a with
  | nil =>
    obtain ⟨rfl, -⟩ := List.cons.inj he
    exact absurd ht hk
  | cons f a => exact h a e' b stage (List.cons.inj he).2 ht hs

theorem Answered.pair (h : Answered events) (cid : String)
    (hs : e.pipelineStage = some stage)
    (ht : e.eventType = .stageCompleted ∨ e.eventType = .stageFailed) :
    Answered (StageStartedEvent.create cid stage :: e :: events) := by
  have hk : e.eventType ≠ .stageStarted := by
    intro hk
    rw [hk] at ht
    rcases ht with ht | ht <;> cases ht
  intro a e' b stage' he ht' hs'
  cases a with
  | nil =>
    obtain ⟨rfl, rfl⟩ := List.cons.inj he
    rw [← Option.some.inj hs']
    exact ⟨e, events, rfl, hs, ht⟩
  | cons f a => exact h.skip hk a e' b stage' (List.cons.inj he).2 ht' hs'

theorem answered_nil : Answered [] :=
  fun a e b _ he => absurd he.symm (List.append_ne_nil_of_right_ne_nil a (List.cons_ne_nil e b))

theorem answered_finished (cid : String) (timings : List Orchestrator.StageTiming)
    (h : Answered events) : Answered (finished cid timings ++ events) := by
  induction timings with
  | nil => exact h
  | cons t timings ih =>
    rw [finished_cons, List.append_assoc]
    exact ih.pair cid rfl (.inl rfl)

theorem Answered.running (h : Answered events) (hp : pre <+: events)
    (hr : (rowFromEvents pre isTerminal stage).status = .running) :
    ∃ e, pre.getLast? = some e ∧ e.eventType = .stageStarted ∧ e.pipelineStage = some stage := by
  obtain ⟨hf, hc, e, hs⟩ := rowFromEvents_running hr
  obtain ⟨he, ht, hstage⟩ := findEvent_some hs
  obtain ⟨a, b, rfl⟩ := List.append_of_mem he
  obtain ⟨rest, rfl⟩ := hp
  rw [List.append_assoc, List.cons_append] at h
  obtain ⟨e', b', hb, hstage', ht'⟩ := h a e (b ++ rest) stage rfl ht hstage
  cases b with
  | nil => exact ⟨e, List.getLast?_concat, ht, hstage⟩
  | cons f b =>
    rw [(List.cons.inj hb).1] at hf hc
    have hmem : e' ∈ a ++ e :: e' :: b :=
      List.mem_append_right a (List.mem_cons_of_mem e List.mem_cons_self)
    rcases ht' with ht' | ht'
    · exact absurd hstage' (findEvent_none hc hmem ht')
    · exact absurd hstage' (findEvent_none hf hmem ht')

section
variable {dump : ResultFormatter.BusinessAnswer → Except Raised Json} {question cid : String}

theorem finished_eq (emitted : List PublisherCall) (timings : List Orchestrator.StageTiming)
    (h : emitted = timings.flatMap stageEvents) :
    (callbacks dump emitted).map (PipelineEventEmitter.mk cid).event = finished cid timings := by
  induction timings generalizing emitted with
  | nil =>
    rw [h]
    rfl
  | cons t timings ih =>
    rw [h, List.flatMap_cons, finished_cons, ← ih _ rfl, callbacks, List.filterMap_append,
      List.map_append]
    rfl

theorem events_told (timings : List Orchestrator.StageTiming) (last : List PublisherCall) :
    (callbacks dump (told question timings ++ last)).map (PipelineEventEmitter.mk cid).event =
      PipelineStartedEvent.create cid question ::
        (finished cid timings ++
          (callbacks dump last).map (PipelineEventEmitter.mk cid).event) := by
  rw [told, ← @finished_eq dump cid _ timings rfl, callbacks, List.filterMap_append,
    List.map_append]
  rfl

theorem callback_of_quiet (h : Quiet (emitterPublisher dump) (emitted ++ [call])) :
    ∃ c, call.callback dump = .ok c := by
  have hn := (quiet_append.1 h).2
  rw [emitterPublisher] at hn
  cases hc : call.callback dump with
  | ok c => exact ⟨c, rfl⟩
  | error e =>
    rw [hc] at hn
    cases hn

theorem callback_completed {r : QueryMindResponse}
    (h : (PublisherCall.pipelineCompleted r).callback dump = .ok c) :
    ((PipelineEventEmitter.mk cid).event c).eventType = .pipelineCompleted := by
  rw [PublisherCall.callback] at h
  split at h
  · cases h
    rfl
  · rename_i answer _
    cases hd : dump answer with
    | ok json =>
      rw [hd] at h
      cases h
      rfl
    | error e =>
      rw [hd] at h
      cases h

theorem rowFromEvents_ends {last : PipelineEvent} (hl : last.terminal = true)
    (events : List PipelineEvent) (isTerminal : Bool) (stage : PipelineStage) :
    rowFromEvents (PipelineStartedEvent.create cid question :: (events ++ [last])) isTerminal
      stage = rowFromEvents events isTerminal stage := by
  have hone {e : PipelineEvent} (he : ¬ IsStageType e.eventType) (eventType : PipelineEventType)
      (hk : IsStageType eventType) : findEvent [e] eventType stage = none := by
    rw [findEvent, List.find?_singleton, if_neg]
    exact fun h => he ((of_decide_eq_true h).1.symm ▸ hk)
  have hlast : ¬ IsStageType last.eventType := by
    rcases (terminal_iff last).1 hl with he | he
    · rw [he]
      rintro (h | h | h) <;> cases h
    · rw [he]
      rintro (h | h | h) <;> cases h
  have hfirst : ¬ IsStageType (PipelineStartedEvent.create cid question).eventType := by
    rintro (h | h | h) <;> cases h
  apply rowFromEvents_congr
  intro eventType hk
  rw [← List.singleton_append, findEvent_append, findEvent_append, hone hfirst eventType hk,
    hone hlast eventType hk, Option.none_or, Option.or_none]

theorem row_finished (timings : List Orchestrator.StageTiming) (stage : PipelineStage) :
    rowFromEvents (finished cid timings) true stage = rowFromTimings timings stage := by
  obtain ⟨hc, hs⟩ := finished_find cid timings stage
  rw [rowFromEvents, finished_failed, hc, hs, rowFromTimings]
  cases timings.find? fun t => t.stage = stage <;> rfl

def rowAfterFailure (failed : PipelineStage) (ms : Rat)
    (timings : List Orchestrator.StageTiming) (stage : PipelineStage) : StageRow :=
  if stage = failed then ⟨stage, pipelineStageLabels stage, .failed, some (.num ms)⟩
  else rowFromTimings timings stage

theorem row_failed (timings : List Orchestrator.StageTiming) (failed stage : PipelineStage)
    (ms : Rat) (error : Raised) :
    rowFromEvents (finished cid timings ++
        [StageStartedEvent.create cid failed, StageFailedEvent.create cid failed ms error])
      true stage = rowAfterFailure failed ms timings stage := by
  rw [rowAfterFailure]
  by_cases h : stage = failed
  · have hf : findEvent (finished cid timings ++
        [StageStartedEvent.create cid failed, StageFailedEvent.create cid failed ms error])
        .stageFailed stage = some (StageFailedEvent.create cid failed ms error) := by
      rw [findEvent_append, finished_failed, Option.none_or, h]
      simp [findEvent, StageStartedEvent.create, StageFailedEvent.create]
    rw [if_pos h, rowFromEvents, hf]
    rfl
  · rw [if_neg h, ← @row_finished cid]
    apply rowFromEvents_congr
    intro eventType _
    have hnone : findEvent
        [StageStartedEvent.create cid failed, StageFailedEvent.create cid failed ms error]
        eventType stage = none := by
      have hne : ¬ failed = stage := fun he => h he.symm
      simp [findEvent, StageStartedEvent.create, StageFailedEvent.create, hne]
    rw [findEvent_append, hnone, Option.or_none]

/-- What the timeline shows of a run: after an answer the rows of its timings, after a failure the
failed stage besides. -/
def ShowsRun (result : Except RunRaised QueryMindResponse) (rows : List StageRow) : Prop :=
  match result with
  | .ok response => rows = deriveStageRowsFromTimings response.statistics.stageTimings
  | .error (.execution e) =>
    ∃ ms, rows = pipelineStages.map (rowAfterFailure e.stage ms e.stageTimings)
  | .error (.other _) => False

theorem streamedEvents_cases (runner : PipelineRunner) (clock : Clock)
    (hq : Quiet (emitterPublisher dump) (emittedBy runner clock (emitterPublisher dump) question)) :
    ∃ last events, last.terminal = true ∧ Answered (events ++ [last]) ∧
      streamedEvents dump runner clock question cid =
        PipelineStartedEvent.create cid question :: (events ++ [last]) ∧
      ShowsRun (resultOf runner clock (some (emitterPublisher dump)) question)
        (deriveStageRowsFromEvents events true) := by
  have hp := (protocol_iff runner clock (emitterPublisher dump) question).2 hq.raisesAtStarts
  have hend {last : PipelineEvent} (hl : last.terminal = true) : Answered [last] := by
    apply answered_nil.skip
    rcases (terminal_iff last).1 hl with he | he
    · rw [he]
      decide
    · rw [he]
      decide
  rw [streamedEvents]
  cases hr : resultOf runner clock (some (emitterPublisher dump)) question with
  | ok response =>
    rw [hr] at hp
    obtain ⟨hemitted, -⟩ := hp
    rw [hemitted] at hq
    obtain ⟨c, hc⟩ := callback_of_quiet hq
    have hcalls : callbacks dump [.pipelineCompleted response] = [c] := by
      rw [callbacks, List.filterMap_cons_some (b := c), List.filterMap_nil]
      rw [hc]
      rfl
    have hlast : ((PipelineEventEmitter.mk cid).event c).terminal = true :=
      (terminal_iff _).2 (.inl (callback_completed hc))
    refine ⟨_, finished cid response.statistics.stageTimings, hlast,
      answered_finished cid _ (hend hlast), ?_, ?_⟩
    · rw [hemitted, events_told, hcalls]
      rfl
    · exact List.map_congr_left fun stage _ => row_finished _ stage
  | error e =>
    rw [hr] at hp
    cases e with
    | other e => exact hp.elim
    | execution e =>
      obtain ⟨⟨ms, hemitted⟩, -⟩ := hp
      refine ⟨PipelineFailedEvent.create cid ⟨"PipelineExecutionError", e.message⟩,
        finished cid e.stageTimings ++ [StageStartedEvent.create cid e.stage,
          StageFailedEvent.create cid e.stage ms e.cause], rfl, ?_, ?_, ms, ?_⟩
      · rw [List.append_assoc]
        exact answered_finished cid _ ((hend rfl).pair cid rfl (.inr rfl))
      · rw [hemitted, events_told, List.append_assoc]
        rfl
      · exact List.map_congr_left fun stage _ => row_failed _ _ stage ms e.cause

/-- The timeline of a stream shows the rows of the run's own timings, and the failed stage where one
failed; on the way, no row runs but that of the stage whose start is the last event. -/
theorem timeline_shows (runner : PipelineRunner) (clock : Clock)
    (hq : Quiet (emitterPublisher dump) (emittedBy runner clock (emitterPublisher dump) question))
    (he : es.filter (fun e => !e.isHeartbeat) = streamedEvents dump runner clock question cid) :
    ShowsRun (resultOf runner clock (some (emitterPublisher dump)) question)
        (deriveStageRowsFromEvents es true) ∧
      ∀ pre, pre <+: es → ∀ isTerminal, ∀ row ∈ deriveStageRowsFromEvents pre isTerminal,
        row.status = .running → ∃ e, (pre.filter fun e => !e.isHeartbeat).getLast? = some e ∧
          e.eventType = .stageStarted ∧ e.pipelineStage = some row.stage := by
  obtain ⟨last, events, hl, hanswered, hstreamed, hshows⟩ :=
    streamedEvents_cases runner clock hq
  refine ⟨?_, ?_⟩
  · have hrows : deriveStageRowsFromEvents es true = deriveStageRowsFromEvents events true := by
      apply List.map_congr_left
      intro stage _
      rw [← rowFromEvents_heartbeats, he, hstreamed, rowFromEvents_ends hl]
    rw [hrows]
    exact hshows
  · intro pre hpre isTerminal row hrow hrunning
    obtain ⟨stage, -, rfl⟩ := List.mem_map.1 hrow
    have hprefix := hpre.filter fun e => !e.isHeartbeat
    rw [he, hstreamed] at hprefix
    rw [← rowFromEvents_heartbeats] at hrunning
    rw [rowFromEvents_stage]
    refine (hanswered.skip ?_).running hprefix hrunning
    intro h
    cases h

end

theorem quiet_emitter (h : ∀ call ∈ emitted, emitterPublisher dump [] call = none) :
    Quiet (emitterPublisher dump) emitted := by
  rintro call ⟨earlier, hp, hs⟩
  have hn : emitterPublisher dump earlier call = none :=
    h call (hp.subset (List.mem_append_right _ List.mem_cons_self))
  rw [hn] at hs
  cases hs

def unansweredRunner : PipelineRunner :=
  { avatarRunner with generate := fun _ => .error ⟨"LLMTimeoutError", "timed out"⟩ }

/-- The stream of its run, with a heartbeat while the model is asked. -/
def unansweredEvents : List PipelineEvent :=
  let es := streamedEvents dumpRaises unansweredRunner stoppedClock "avatars" "c-1"
  es.take 12 ++ HeartbeatEvent.create "c-1" 15000 :: es.drop 12

theorem unansweredEvents_filter : unansweredEvents.filter (fun e => !e.isHeartbeat) =
    streamedEvents dumpRaises unansweredRunner stoppedClock "avatars" "c-1" := by
  rw [unansweredEvents, List.filter_append, List.filter_cons_of_neg Bool.false_ne_true,
    ← List.filter_append, List.take_append_drop]
  exact streamedEvents_filter ..

theorem timeline_shows_unanswered :
    (∃ ms timings, deriveStageRowsFromEvents unansweredEvents true =
      pipelineStages.map (rowAfterFailure .sqlGeneration ms timings)) ∧
    ∀ row ∈ deriveStageRowsFromEvents (unansweredEvents.take 13) false,
      row.status = .running → row.stage = .sqlGeneration := by
  have hq : Quiet (emitterPublisher dumpRaises)
      (emittedBy unansweredRunner stoppedClock (emitterPublisher dumpRaises) "avatars") :=
    quiet_emitter (by decide)
  obtain ⟨hshows, hruns⟩ :=
    timeline_shows unansweredRunner stoppedClock hq unansweredEvents_filter
  constructor
  · obtain ⟨ms, hrows⟩ := hshows
    exact ⟨ms, _, hrows⟩
  · intro row hrow hrunning
    obtain ⟨e, hlast, -, hstage⟩ := hruns _ (List.take_prefix 13 _) false row hrow hrunning
    cases hlast
    exact (Option.some.inj hstage).symm

end QueryMind.Frontend
