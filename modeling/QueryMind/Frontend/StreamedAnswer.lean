import QueryMind.Frontend.UseStreaming
import QueryMind.Orchestrator.Progress

namespace QueryMind.Frontend
open Lib Orchestrator ResultFormatter Streaming
set_option autoImplicit true

section Streamed
variable (dump : BusinessAnswer → Except Raised Json)

/-- The calls whose event could be built, and was published. -/
def callbacks (emitted : List PublisherCall) : List StageCallback :=
  emitted.filterMap (fun call => (call.callback dump).toOption)

def streamedEvents (runner : PipelineRunner) (clock : Clock) (question cid : String) :
    List PipelineEvent :=
  (callbacks dump (emittedBy runner clock (emitterPublisher dump) question)).map
    (PipelineEventEmitter.mk cid).event

def dumpAnswer : Option BusinessAnswer → Except Raised Json
  | none => .ok .null
  | some answer => dump answer

/-- The answer that the stream leads to is the one that `ask` returns. -/
structure Agree (r : QueryMindResponse) (d : StreamedResponse) : Prop where
  status : d.status = some (.str r.status.value)
  error : d.error = some (r.error.elim .null .str)
  businessAnswer : ∃ json, dumpAnswer dump r.businessAnswer = .ok json ∧
    d.businessAnswer = some json
  stageTimings : d.statistics.stageTimings =
    r.statistics.stageTimings.map (fun t => ⟨some t.stage, some (.num t.latencyMs)⟩)
  repairAttempted : d.statistics.repairAttempted = r.statistics.repairAttempted
  repairPerformed : d.statistics.repairPerformed = r.statistics.repairPerformed

/-- No stage raises, the answer has a JSON form, and a repair, if there was one, has repaired. -/
structure Smooth (p : Progress) : Prop where
  settled : p.Settled
  dumped : ∃ json, dumpAnswer dump p.answer = .ok json
  repaired : ∀ r, p.repaired = some r → r.status = .repaired

end Streamed

def completedTiming : StageCallback → Option Orchestrator.StageTiming
  | .stageCompleted stage ms => some ⟨stage, ms⟩
  | _ => none

/-- Calls that do not end a run, with the timings they tell of. -/
structure Ongoing (calls : List StageCallback) (ts : List Orchestrator.StageTiming) : Prop where
  unended : ∀ c ∈ calls, c.terminal = false
  timings : calls.filterMap completedTiming = ts

theorem Ongoing.snoc (h : Ongoing calls ts) (hc : c.terminal = false) :
    Ongoing (calls ++ [c]) (ts ++ (completedTiming c).toList) := by
  constructor
  · intro d hd
    rcases List.mem_append.1 hd with hd | hd
    · exact h.unended d hd
    · rw [List.mem_singleton.1 hd]
      exact hc
  · rw [List.filterMap_append, h.timings]
    cases hct : completedTiming c with
    | none => rw [List.filterMap_cons_none hct, List.filterMap_nil, Option.toList_none]
    | some t => rw [List.filterMap_cons_some hct, List.filterMap_nil, Option.toList_some]

section Tracked
variable {dump : BusinessAnswer → Except Raised Json} {clock : Clock}

def Tracked (dump : BusinessAnswer → Except Raised Json) (s : Locals) : Prop :=
  Ongoing (callbacks dump s.emitted) s.stageTimings

/-- The last event of a run is told, after the timings of the stages before it. -/
def ToldLast (dump : BusinessAnswer → Except Raised Json) (last : StageCallback)
    (ts : List Orchestrator.StageTiming) (s : Locals) : Prop :=
  ∃ front, callbacks dump s.emitted = front ++ [last] ∧ Ongoing front ts

theorem callbacks_append (emitted : List PublisherCall) (h : call.callback dump = .ok c) :
    callbacks dump (emitted ++ [call]) = callbacks dump emitted ++ [c] := by
  rw [callbacks, List.filterMap_append, List.filterMap_cons_some (b := c), List.filterMap_nil]
  · rfl
  · rw [h]
    rfl

theorem notify_callback {P Q : Locals → Prop} {E : Raised → Locals → Prop}
    (h : call.callback dump = .ok c)
    (hp : ∀ s, P s → Q { s with emitted := s.emitted ++ [call] }) :
    Spec P (notify (some (emitterPublisher dump)) call) (fun _ => Q) E := by
  intro s hs
  have hn : emitterPublisher dump s.emitted call = none := by
    rw [emitterPublisher, h]
  rw [notify_some, hn]
  exact hp s hs

theorem silent_tracked {work : EStateM Raised Locals α} (h : Silent work) :
    Spec (Tracked dump) work (fun _ => Tracked dump) (fun _ => Tracked dump) := by
  intro s hs
  obtain ⟨he, ht, _⟩ := h s
  rw [endState] at he ht
  cases hr : work s with
  | ok a s' =>
    rw [hr] at he ht
    show Ongoing _ _
    rw [he, ht]
    exact hs
  | error e s' =>
    rw [hr] at he ht
    show Ongoing _ _
    rw [he, ht]
    exact hs

theorem timed_tracked {work : EStateM Raised Locals α} (h : Silent work) :
    Spec (Tracked dump) (timed clock (some (emitterPublisher dump)) stage work)
      (fun _ => Tracked dump) (fun _ => Tracked dump) := by
  apply Spec.bind (Q := fun _ => Tracked dump)
  · exact Spec.modify (fun _ hs => hs)
  intro _
  apply Spec.bind (Q := fun _ => Tracked dump)
  · apply notify_callback rfl
    intro s hs
    show Ongoing _ _
    rw [callbacks_append s.emitted rfl]
    rw [← List.append_nil s.stageTimings]
    exact hs.snoc (c := .stageStarted stage) rfl
  intro _
  apply Spec.bind (silent_tracked h)
  intro a
  apply Spec.bind (Q := fun _ s => ∃ ts, Ongoing (callbacks dump s.emitted) ts ∧
    s.stageTimings = ts ++ [⟨stage, clock.completed stage⟩])
  · exact Spec.modify (fun _ hs => ⟨_, hs, rfl⟩)
  intro _
  apply Spec.bind (Q := fun _ => Tracked dump)
  · apply notify_callback rfl
    intro s hs
    obtain ⟨ts, hs, ht⟩ := hs
    show Ongoing _ _
    rw [callbacks_append s.emitted rfl, ht]
    exact hs.snoc (c := .stageCompleted stage (clock.completed stage)) rfl
  intro _
  exact Spec.pure (fun _ hs => hs)

variable {runner : PipelineRunner} {question : String}

theorem tellLlm_tracked (latencyMs : Rat) :
    Spec (Tracked dump) (tellLlm (some (emitterPublisher dump)) latencyMs)
      (fun _ => Tracked dump) (fun _ => Tracked dump) := by
  apply Spec.bind (Q := fun _ s => ∃ ts, Ongoing (callbacks dump s.emitted) ts ∧
    s.stageTimings = ts ++ [⟨.llm, latencyMs⟩])
  · exact Spec.modify (fun _ hs => ⟨_, hs, rfl⟩)
  intro _
  apply Spec.bind (Q := fun _ s => ∃ ts, Ongoing (callbacks dump s.emitted) ts ∧
    s.stageTimings = ts ++ [⟨.llm, latencyMs⟩])
  · apply notify_callback rfl
    intro s hs
    obtain ⟨ts, hs, ht⟩ := hs
    refine ⟨ts, ?_, ht⟩
    rw [callbacks_append s.emitted rfl, ← List.append_nil ts]
    exact hs.snoc (c := .stageStarted .llm) rfl
  intro _
  apply notify_callback rfl
  intro s hs
  obtain ⟨ts, hs, ht⟩ := hs
  show Ongoing _ _
  rw [callbacks_append s.emitted rfl, ht]
  exact hs.snoc (c := .stageCompleted .llm latencyMs) rfl

theorem validateAndRepair_tracked (bundle : Prompt.RetrievedKnowledgeBundle)
    (gs : Sql.GeneratedSQL) :
    Spec (Tracked dump)
      (validateAndRepair runner clock (some (emitterPublisher dump)) bundle gs)
      (fun _ => Tracked dump) (fun _ => Tracked dump) := by
  apply Spec.bind (timed_tracked (validateSql_silent gs))
  intro v
  apply Spec.bind (Q := fun _ => Tracked dump)
  · exact Spec.modify (fun _ hs => hs)
  intro _
  split
  · exact Spec.pure (fun _ hs => hs)
  · apply Spec.bind (timed_tracked (repairSql_silent gs v bundle))
    intro result
    apply Spec.bind (Q := fun _ => Tracked dump)
    · exact Spec.modify (fun _ hs => hs)
    intro _
    exact Spec.pure (fun _ hs => hs)

theorem generateAndValidate_tracked :
    Spec (Tracked dump)
      (generateAndValidate runner clock (some (emitterPublisher dump)) question)
      (fun _ => Tracked dump) (fun _ => Tracked dump) := by
  apply Spec.bind (timed_tracked (fromExcept_silent _))
  intro queryContext
  apply Spec.bind (timed_tracked (fromExcept_silent _))
  intro linkedContext
  apply Spec.bind (timed_tracked (fromExcept_silent _))
  intro _
  apply Spec.bind (timed_tracked (fromExcept_silent _))
  intro bundle
  apply Spec.bind (timed_tracked (fromExcept_silent _))
  intro compiledPrompt
  apply Spec.bind (timed_tracked (generateSql_silent _))
  intro generated
  apply Spec.bind (tellLlm_tracked _)
  intro _
  exact validateAndRepair_tracked _ _

def ReportsResponse (dump : BusinessAnswer → Except Raised Json) (r : QueryMindResponse)
    (c : StageCallback) : Prop :=
  (PublisherCall.pipelineCompleted r).callback dump = .ok c

theorem notify_response (r : QueryMindResponse) :
    Spec (fun s => s.stageTimings = r.statistics.stageTimings ∧ Tracked dump s)
      (notify (some (emitterPublisher dump)) (.pipelineCompleted r))
      (fun _ s => ∃ c, ReportsResponse dump r c ∧ ToldLast dump c r.statistics.stageTimings s)
      (fun _ => Tracked dump) := by
  intro s ⟨ht, hs⟩
  rw [notify_some, emitterPublisher]
  cases hc : (PublisherCall.pipelineCompleted r).callback dump with
  | ok c => exact ⟨c, hc, _, callbacks_append s.emitted hc, ht ▸ hs⟩
  | error e =>
    show Ongoing (callbacks dump (s.emitted ++ _)) _
    rw [callbacks, List.filterMap_append, List.filterMap_cons_none (by rw [hc]; rfl)]
    rw [List.filterMap_nil, List.append_nil]
    exact hs

theorem finish_tracked (answer : Option BusinessAnswer) (status : PipelineStatus)
    (error : Option String) :
    Spec (Tracked dump)
      (finish clock (some (emitterPublisher dump)) question answer status error)
      (fun r s => ∃ c, ReportsResponse dump r c ∧ ToldLast dump c r.statistics.stageTimings s)
      (fun _ => Tracked dump) := by
  apply Spec.bind (Q := fun (s' : Locals) s => s.stageTimings = s'.stageTimings ∧ Tracked dump s)
  · exact Spec.get (fun _ hs => ⟨rfl, hs⟩)
  intro s'
  apply Spec.bind (notify_response (s'.response question clock answer status error))
  intro _
  exact Spec.pure (fun _ hs => hs)

theorem executeAndFormat_tracked (o : GenerationOutcome) :
    Spec (Tracked dump)
      (executeAndFormat runner clock (some (emitterPublisher dump)) question o)
      (fun r s => ∃ c, ReportsResponse dump r c ∧ ToldLast dump c r.statistics.stageTimings s)
      (fun _ => Tracked dump) := by
  apply Spec.bind (timed_tracked (executeSql_silent _ _))
  intro e
  split
  · exact finish_tracked _ _ _
  · apply Spec.bind (timed_tracked (fromExcept_silent _))
    intro answer
    exact finish_tracked _ _ _

def ToldFailure (dump : BusinessAnswer → Except Raised Json) (e : RunRaised) (s : Locals) : Prop :=
  ∃ w, e = .execution w ∧
    ToldLast dump (.pipelineFailed ⟨"PipelineExecutionError", w.message⟩) w.stageTimings s

theorem guarded_tracked {body : EStateM Raised Locals α}
    (hb : Spec P body Q (fun _ => Tracked dump)) :
    Spec P (guarded clock (some (emitterPublisher dump)) body) Q (ToldFailure dump) := by
  intro s hs
  have hb := hb s hs
  rw [guarded]
  cases hr : body s with
  | ok a s' =>
    rw [hr] at hb
    exact hb
  | error exc s' =>
    rw [hr] at hb
    refine ⟨s'.wrapped exc, rfl, _, callbacks_append _ rfl, ?_⟩
    rw [callbacks_append s'.emitted rfl]
    show Ongoing _ s'.stageTimings
    rw [← List.append_nil s'.stageTimings]
    exact hb.snoc (c := .stageFailed s'.currentStage (clock.failed s'.currentStage) exc) rfl

variable (dump clock runner question) in
theorem run_tracked :
    Spec (fun s => s = Locals.start) (run runner clock (some (emitterPublisher dump)) question)
      (fun r s => ∃ c, ReportsResponse dump r c ∧ ToldLast dump c r.statistics.stageTimings s)
      (ToldFailure dump) := by
  apply Spec.bind (Q := fun _ => Tracked dump)
  · intro s hs
    cases hs
    exact ⟨fun c hc => by
      cases List.mem_singleton.1 hc
      rfl, rfl⟩
  intro _
  apply Spec.bind (guarded_tracked generateAndValidate_tracked)
  intro o
  apply Spec.bind (Q := fun _ => Tracked dump)
  · exact Spec.modify (fun _ hs => hs)
  intro _
  exact guarded_tracked (executeAndFormat_tracked o)

end Tracked

def shown (t : Orchestrator.StageTiming) : StageTiming := ⟨some t.stage, some (.num t.latencyMs)⟩

theorem stageTimings_event (emitter : PipelineEventEmitter) (calls : List StageCallback) :
    stageTimings (calls.map emitter.event) = (calls.filterMap completedTiming).map shown := by
  induction calls with
  | nil => rfl
  | cons c calls ih => cases c <;> first | exact ih | exact congrArg (shown ⟨_, _⟩ :: ·) ih

theorem stageTimings_heartbeats (es : List PipelineEvent) :
    stageTimings (es.filter (fun e => !e.isHeartbeat)) = stageTimings es := by
  rw [stageTimings, List.filter_filter]
  congr 2
  funext e
  rw [PipelineEvent.isHeartbeat]
  cases e.eventType <;> rfl

section Store
variable {clock : Nat → String} {question : String}

theorem events_handleAll (s : QueryStore) (es : List PipelineEvent) :
    (handleAll clock question s (es.map .onEvent)).events = s.events ++ es := by
  induction es generalizing s with
  | nil => exact (List.append_nil _).symm
  | cons e es ih =>
    have he : (handle clock question s (.onEvent e)).events = s.events ++ [e] := by
      simp only [handle]
      split <;> rfl
    show (handleAll clock question (handle clock question s (.onEvent e)) _).events = _
    rw [ih, he, List.append_assoc, List.singleton_append]

def builtFrom (question : String) (events : List PipelineEvent) (e : PipelineEvent) :
    StreamedResponse :=
  if e.eventType = .pipelineCompleted then buildResponseFromCompletedEvent question events e
  else buildResponseFromFailedEvent question events e

theorem handle_terminal (s : QueryStore) {e : PipelineEvent} (h : e.terminal = true) :
    (handle clock question s (.onEvent e)).response =
      some (builtFrom question (s.events ++ [e]) e) := by
  simp only [handle, builtFrom]
  rcases (terminal_iff e).1 h with he | he
  · rw [he]
    rfl
  · rw [he]
    rfl

theorem unended_of_filter {es kept : List PipelineEvent}
    (h : es.filter (fun e => !e.isHeartbeat) = kept) (hk : ∀ e ∈ kept, e.terminal = false) :
    ∀ e ∈ es, e.terminal = false := by
  intro e he
  cases hb : e.isHeartbeat with
  | true => exact PipelineEvent.isHeartbeat_terminal hb
  | false =>
    apply hk e
    rw [← h]
    exact List.mem_filter.2 ⟨he, by rw [hb]; rfl⟩

theorem onEvent_goesOn (clock : Nat → String) (question : String) (s : QueryStore)
    {es : List PipelineEvent} (h : ∀ e ∈ es, e.terminal = false) :
    GoesOn s (handleAll clock question s (es.map .onEvent)) := by
  apply handleAll_goesOn
  intro c hc
  obtain ⟨e, he, rfl⟩ := List.mem_map.1 hc
  exact h e he

variable (clock) in
theorem response_of_stream {es : List PipelineEvent} {emitter : PipelineEventEmitter}
    (s : QueryStore) (hf : ∀ c ∈ front, c.terminal = false) (hl : last.terminal = true)
    (he : es.filter (fun e => !e.isHeartbeat) = (front ++ [last]).map emitter.event) :
    ∃ events, stageTimings events = (front.filterMap completedTiming).map shown ∧
      (handleAll clock question (start s question) (es.map .onEvent)).response =
        some (builtFrom question events (emitter.event last)) := by
  rw [List.map_append, List.filter_eq_append_iff] at he
  obtain ⟨pre, rest, rfl, hpre, hrest⟩ := he
  obtain ⟨beats, post, rfl, hbeats, _, hpost⟩ := List.filter_eq_cons_iff.1 hrest
  have hbeats : beats.filter (fun e => !e.isHeartbeat) = [] := List.filter_eq_nil_iff.2 hbeats
  have hfront : (pre ++ beats).filter (fun e => !e.isHeartbeat) = front.map emitter.event := by
    rw [List.filter_append, hpre, hbeats, List.append_nil]
  have hunended : ∀ e ∈ pre ++ beats, e.terminal = false := by
    apply unended_of_filter hfront
    intro e he
    obtain ⟨c, hc, rfl⟩ := List.mem_map.1 he
    rw [emitter.event_terminal]
    exact hf c hc
  have hpost : ∀ e ∈ post, e.terminal = false := by
    apply unended_of_filter hpost
    intro e he
    cases he
  refine ⟨pre ++ beats ++ [emitter.event last], ?_, ?_⟩
  · have hcompleted : completedTiming last = none := by
      cases last with
      | stageCompleted stage ms => cases hl
      | _ => rfl
    have hk : (pre ++ beats ++ [emitter.event last]).filter (fun e => !e.isHeartbeat) =
        (front ++ [last]).map emitter.event := by
      rw [List.filter_append, hfront, List.map_append, List.filter_cons_of_pos, List.filter_nil]
      · rfl
      · rw [emitter.event_isHeartbeat]
        rfl
    rw [← stageTimings_heartbeats, hk, stageTimings_event, List.filterMap_append,
      List.filterMap_cons_none hcompleted, List.filterMap_nil, List.append_nil]
  · have hsplit : (pre ++ (beats ++ emitter.event last :: post)).map HandlerCall.onEvent =
        (pre ++ beats).map .onEvent ++ (.onEvent (emitter.event last) :: post.map .onEvent) := by
      rw [← List.append_assoc, List.map_append, List.map_cons]
    rw [hsplit, handleAll_append]
    have hgo := onEvent_goesOn clock question
      (handle clock question (handleAll clock question (start s question)
        ((pre ++ beats).map .onEvent)) (.onEvent (emitter.event last))) hpost
    refine hgo.response.trans ?_
    rw [handle_terminal, events_handleAll]
    · rfl
    · rw [emitter.event_terminal]
      exact hl

end Store

theorem emitter_discreet (dump : BusinessAnswer → Except Raised Json) :
    Discreet (some (emitterPublisher dump)) := by
  intro p hp emitted call hc
  cases hp
  cases call with
  | pipelineCompleted r => exact absurd rfl (hc r)
  | _ => rfl

theorem reportsResponse_inv {dump : BusinessAnswer → Except Raised Json}
    (h : ReportsResponse dump r c) : ∃ answer, c = .pipelineCompleted r.status r.error answer ∧
      dumpAnswer dump r.businessAnswer = .ok (answer.getD .null) := by
  rw [ReportsResponse, PublisherCall.callback] at h
  cases ha : r.businessAnswer with
  | none =>
    rw [ha] at h
    exact ⟨none, (Except.ok.inj h).symm, rfl⟩
  | some answer =>
    rw [ha] at h
    cases hd : dump answer with
    | error e =>
      simp only [hd, Except.map] at h
      cases h
    | ok json =>
      simp only [hd, Except.map] at h
      exact ⟨some json, (Except.ok.inj h).symm, hd⟩

theorem not_refuses {dump : BusinessAnswer → Except Raised Json}
    (h : dumpAnswer dump r.businessAnswer = .ok json) :
    ¬ Refuses (some (emitterPublisher dump)) r := by
  intro ⟨p, emitted, hp, hs⟩
  cases hp
  simp only [emitterPublisher, PublisherCall.callback] at hs
  cases ha : r.businessAnswer with
  | none =>
    rw [ha] at hs
    cases hs
  | some answer =>
    rw [ha] at h hs
    have hd : dump answer = .ok json := h
    simp only [hd, Except.map] at hs
    cases hs

theorem append_ne {p q r t : String} (h : p ≠ "") : p ++ q ++ r ++ t ≠ t := by
  intro he
  have hp := String.append_eq_empty_iff.1 (String.append_eq_right_iff.1 he)
  exact h (String.append_eq_empty_iff.1 hp.1).1

theorem wrapping_nonempty : "Pipeline failed at stage '" ≠ "" := by decide

theorem message_ne (w : PipelineExecutionError) : w.message ≠ w.cause.errorMessage :=
  append_ne (q := w.stage.value) (r := "': ") (t := w.cause.errorMessage) wrapping_nonempty

section Agree
variable {dump : BusinessAnswer → Except Raised Json} {runner : PipelineRunner}
  {question : String} {r : QueryMindResponse} {events : List PipelineEvent}
  {ts : List Orchestrator.StageTiming}

theorem builtFrom_completed (question : String) (events : List PipelineEvent)
    (emitter : PipelineEventEmitter) (hr : ReportsResponse dump r c) :
    (builtFrom question events (emitter.event c)).status = some (.str r.status.value) ∧
      (builtFrom question events (emitter.event c)).error = some (r.error.elim .null .str) ∧
      ∃ json, dumpAnswer dump r.businessAnswer = .ok json ∧
        (builtFrom question events (emitter.event c)).businessAnswer = some json := by
  obtain ⟨answer, rfl, hd⟩ := reportsResponse_inv hr
  exact ⟨rfl, rfl, _, hd, rfl⟩

theorem builtFrom_statistics (question : String) (events : List PipelineEvent)
    (e : PipelineEvent) :
    (builtFrom question events e).statistics = deriveStatistics events := by
  rw [builtFrom]
  split <;> rfl

theorem derived_repair (h : stageTimings events = ts.map shown) :
    (deriveStatistics events).repairAttempted =
      decide (.sqlRepair ∈ ts.map Orchestrator.StageTiming.stage) := by
  show (stageTimings events).any _ = _
  rw [h, List.any_map]
  apply Bool.eq_iff_iff.2
  simp only [List.any_eq_true, decide_eq_true_eq, List.mem_map, Function.comp_apply, shown,
    Option.some.injEq]

theorem repair_in_account (p : Progress) :
    .sqlRepair ∈ p.account.stages ↔ p.repaired.isSome = true := by
  rw [Progress.account, List.mem_filter]
  exact and_iff_right (by decide)

/-- Of a run that returned, the stream's answer agrees when every repair has repaired. -/
theorem agree_of_responded (hr : Responded (runner.progress question) r)
    (hc : ReportsResponse dump r c) (emitter : PipelineEventEmitter)
    (ht : stageTimings events = r.statistics.stageTimings.map shown) :
    Agree dump r (builtFrom question events (emitter.event c)) ↔
      ∀ x, (runner.progress question).repaired = some x → x.status = .repaired := by
  obtain ⟨hst, herr, hans⟩ := builtFrom_completed question events emitter hc
  have hstats := builtFrom_statistics question events (emitter.event c)
  have hderived : (builtFrom question events (emitter.event c)).statistics.repairAttempted =
      (runner.progress question).repaired.isSome := by
    rw [hstats, derived_repair ht]
    apply Bool.eq_iff_iff.2
    rw [decide_eq_true_iff, ← repair_in_account, ← hr.account]
    rfl
  have hran : r.statistics.repairAttempted = (runner.progress question).repaired.isSome := by
    obtain ⟨e, he, _⟩ := hr.settled
    have hx : (runner.progress question).executed.isSome = true := by
      rw [he]
      rfl
    have ha : r.statistics.repairAttempted = (runner.progress question).repairRun :=
      congrArg Account.repairAttempted hr.account
    exact ha.trans (repairRun_eq (Option.isSome_of_isSome_bind hx))
  have hperformed : r.statistics.repairPerformed =
      (runner.progress question).repaired.any (fun x => x.status = .repaired) :=
    congrArg Account.repairPerformed hr.account
  constructor
  · intro h x hx
    have hp := h.repairPerformed
    rw [hstats] at hderived hp
    rw [show (deriveStatistics events).repairPerformed = (deriveStatistics events).repairAttempted
      from rfl, hderived, hperformed, hx, Option.isSome_some, Option.any_some] at hp
    exact of_decide_eq_true hp.symm
  · intro h
    have hall : (runner.progress question).repaired.isSome =
        (runner.progress question).repaired.any (fun x => x.status = .repaired) := by
      cases hx : (runner.progress question).repaired with
      | none => rfl
      | some x => exact (decide_eq_true (h x hx)).symm
    exact {
      status := hst
      error := herr
      businessAnswer := hans
      stageTimings := by
        rw [hstats]
        exact ht
      repairAttempted := hderived.trans hran.symm
      repairPerformed := by
        rw [hperformed, ← hall, ← hderived, hstats]
        rfl }

end Agree

theorem streamedEvents_filter (dump : BusinessAnswer → Except Raised Json)
    (runner : PipelineRunner) (clock : Clock) (question cid : String) :
    (streamedEvents dump runner clock question cid).filter (fun e => !e.isHeartbeat) =
      streamedEvents dump runner clock question cid := by
  apply List.filter_eq_self.2
  intro e he
  obtain ⟨c, _, rfl⟩ := List.mem_map.1 he
  rw [PipelineEventEmitter.event_isHeartbeat]
  rfl

/-- A question, with what its run asks of and the times it measures. -/
structure Asking where
  runner : PipelineRunner
  clock : Clock
  question : String

section Asking
variable (dump : BusinessAnswer → Except Raised Json)

def Asking.answer (a : Asking) : QueryMindResponse :=
  ask a.runner a.clock (some (emitterPublisher dump)) a.question

def Asking.progress (a : Asking) : Progress := a.runner.progress a.question

def Asking.made (a : Asking) : List StageCallback :=
  callbacks dump (emittedBy a.runner a.clock (emitterPublisher dump) a.question)

/-- The last call that a run makes reports its answer, or its failure. -/
structure Asking.Told (a : Asking) (front : List StageCallback) (last : StageCallback) : Prop where
  made : a.made dump = front ++ [last]
  ongoing : ∀ c ∈ front, c.terminal = false
  ends : last.terminal = true
  agrees : ∀ (emitter : PipelineEventEmitter) events,
    stageTimings events = (front.filterMap completedTiming).map shown →
      (Agree dump (a.answer dump) (builtFrom a.question events (emitter.event last)) ↔
        Smooth dump a.progress)

theorem Asking.refused_disagrees (a : Asking) {w : PipelineExecutionError} {s : Locals}
    (hr : run a.runner a.clock (some (emitterPublisher dump)) a.question Locals.start =
      .error (.execution w) s) (emitter : PipelineEventEmitter) (events : List PipelineEvent) :
    ¬Agree dump (a.answer dump) (builtFrom a.question events
      (emitter.event (.pipelineFailed ⟨"PipelineExecutionError", w.message⟩))) := by
  intro hagree
  have hanswer : (a.answer dump).error = some w.cause.errorMessage := by
    rw [answer, ask, resultOf, hr]
  have he := hagree.error
  rw [hanswer] at he
  exact message_ne w (Json.str.inj (Option.some.inj he))

theorem Asking.halted_rough (a : Asking)
    (h : Halted (some (emitterPublisher dump)) a.progress account) : ¬Smooth dump a.progress := by
  intro hsmooth
  rcases h.why with ⟨_, hn⟩ | ⟨x, hx, href⟩
  · exact hn hsmooth.settled
  · obtain ⟨json, hd⟩ := hsmooth.dumped
    rw [← hx] at hd
    exact not_refuses hd href

theorem Asking.told (a : Asking) : ∃ front last, a.Told dump front last := by
  have htold := run_tracked dump a.clock a.runner a.question Locals.start rfl
  have hrun := run_progress a.runner a.clock a.question (emitter_discreet dump) Locals.start rfl
  cases hr : run a.runner a.clock (some (emitterPublisher dump)) a.question Locals.start with
  | ok r s =>
    rw [hr] at htold hrun
    obtain ⟨c, hc, front, hcalls, hon⟩ := htold
    refine ⟨front, c, ?_, hon.unended, ?_, fun emitter events ht => ?_⟩
    · rw [made, emittedBy, endState, hr]
      exact hcalls
    · obtain ⟨_, rfl, _⟩ := reportsResponse_inv hc
      rfl
    · rw [hon.timings] at ht
      have hanswer : a.answer dump = r := by rw [answer, ask, resultOf, hr]
      rw [hanswer, agree_of_responded hrun hc emitter ht]
      constructor
      · intro hrep
        obtain ⟨_, _, hd⟩ := reportsResponse_inv hc
        exact ⟨hrun.settled, ⟨_, hrun.answer ▸ hd⟩, hrep⟩
      · exact fun hsmooth => hsmooth.repaired
  | error e s =>
    rw [hr] at htold hrun
    obtain ⟨w, rfl, front, hcalls, hon⟩ := htold
    obtain ⟨_, hw, hhalt⟩ := hrun
    cases hw
    refine ⟨front, .pipelineFailed ⟨"PipelineExecutionError", w.message⟩, ?_, hon.unended, rfl,
      fun emitter events _ => ?_⟩
    · rw [made, emittedBy, endState, hr]
      exact hcalls
    · exact iff_of_false (a.refused_disagrees dump hr emitter events) (a.halted_rough dump hhalt)

/-- Of all events of a run the client builds the response that the last one reports. -/
theorem Asking.Told.shown {a : Asking} {front : List StageCallback} {last : StageCallback}
    (h : a.Told dump front last) (tick : Nat → String) (store : QueryStore)
    {es : List PipelineEvent} (hes : es.filter (fun e => !e.isHeartbeat) =
      streamedEvents dump a.runner a.clock a.question cid) :
    ∃ d, (handleAll tick a.question (start store a.question) (es.map .onEvent)).response = some d ∧
      (Agree dump (a.answer dump) d ↔ Smooth dump a.progress) := by
  have hall : es.filter (fun e => !e.isHeartbeat) =
      (front ++ [last]).map (PipelineEventEmitter.mk cid).event := by
    rw [hes, streamedEvents]
    exact congrArg _ h.made
  obtain ⟨events, ht, hr⟩ := response_of_stream tick store h.ongoing h.ends hall
  exact ⟨_, hr, h.agrees _ events ht⟩

end Asking

/-- What a stream leads to is what `ask` returns for the same run, if and only if no stage raises,
the answer has a JSON form and no repair fails. -/
theorem streamed_agrees (tick : Nat → String) (store : QueryStore) (runner : PipelineRunner)
    (clock : Clock) (dump : BusinessAnswer → Except Raised Json) (question cid : String)
    (events : List PipelineEvent) (h : events.filter (fun e => !e.isHeartbeat) =
      streamedEvents dump runner clock question cid) :
    ∃ d, (handleAll tick question (start store question) (events.map .onEvent)).response = some d ∧
      (Agree dump (ask runner clock (some (emitterPublisher dump)) question) d ↔
        Smooth dump (runner.progress question)) := by
  obtain ⟨front, last, htold⟩ := Asking.told dump ⟨runner, clock, question⟩
  exact htold.shown dump tick store h

theorem streamed_agrees_avatars :
    ∃ d, (handleAll (fun _ => "2025-01-01T00:00:00.000Z") "avatars" (start .initial "avatars")
        ((streamedEvents dumpRaises avatarRunner stoppedClock "avatars" "c-1").map
          .onEvent)).response = some d ∧
      (Agree dumpRaises
          (ask avatarRunner stoppedClock (some (emitterPublisher dumpRaises)) "avatars") d ↔
        Smooth dumpRaises (avatarRunner.progress "avatars")) :=
  streamed_agrees _ _ _ _ _ _ _ _ (streamedEvents_filter ..)

def notUnderstood : Raised := ⟨"NLUError", "The question could not be understood."⟩

def puzzledRunner : PipelineRunner := { avatarRunner with parse := fun _ => .error notUnderstood }

/-- The stream shows the text of the wrapped exception, and `ask` that of its cause. -/
theorem streamed_error_wrapped : ¬ ∀ d,
    (handleAll (fun _ => "2025-01-01T00:00:00.000Z") "??" (start .initial "??")
      ((streamedEvents dumpRaises puzzledRunner stoppedClock "??" "c-1").map
        .onEvent)).response = some d →
    Agree dumpRaises
      (ask puzzledRunner stoppedClock (some (emitterPublisher dumpRaises)) "??") d := by
  intro h
  have he := (h _ rfl).error
  exact message_ne (Locals.start.wrapped notUnderstood) (Json.str.inj (Option.some.inj he))

end QueryMind.Frontend
