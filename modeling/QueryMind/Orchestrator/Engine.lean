import QueryMind.Orchestrator.Events

namespace QueryMind.Orchestrator
open Lib Execution Prompt Repair ResultFormatter Sql Streaming
set_option autoImplicit true

/-- `QueryMindEngine.ask`: whatever `run` raises becomes a response. -/
def ask (runner : PipelineRunner) (clock : Clock) (publisher : Option Publisher)
    (question : String) : QueryMindResponse :=
  match resultOf runner clock publisher question with
  | .ok response => response
  | .error (.execution e) =>
    { originalQuestion := question
      businessAnswer := none
      generatedSql := e.generatedSql
      validationResult := e.validationResult
      repairResult := e.repairResult
      executionResult := e.executionResult
      statistics := {
        totalLatencyMs := clock.total
        stageTimings := e.stageTimings
        repairAttempted := e.repairAttempted
        repairPerformed := e.repairPerformed }
      status := .failed
      error := some e.cause.errorMessage }
  | .error (.other e) =>
    { originalQuestion := question
      businessAnswer := none
      generatedSql := none
      validationResult := none
      repairResult := none
      executionResult := none
      statistics := {
        totalLatencyMs := clock.total
        stageTimings := []
        repairAttempted := false
        repairPerformed := false }
      status := .failed
      error := some e.errorMessage }

def zeroClock : Clock := ⟨fun _ => 0, fun _ => 0, 0⟩

/-- Without what the clock has measured; the time of the model is reported, not measured. -/
def StageTiming.untimed (t : StageTiming) : StageTiming :=
  if t.stage = .llm then t else { t with latencyMs := 0 }

def QueryMindResponse.untimed (r : QueryMindResponse) : QueryMindResponse :=
  { r with
    statistics := {
      r.statistics with
      totalLatencyMs := 0
      stageTimings := r.statistics.stageTimings.map StageTiming.untimed } }

def PipelineExecutionError.untimed (e : PipelineExecutionError) : PipelineExecutionError :=
  { e with stageTimings := e.stageTimings.map StageTiming.untimed }

def RunRaised.untimed : RunRaised → RunRaised
  | .execution e => .execution e.untimed
  | .other e => .other e

/-- The local variables without the measured times and without the calls. -/
def Locals.untimed (s : Locals) : Locals :=
  { s with stageTimings := s.stageTimings.map StageTiming.untimed, emitted := [] }

/-- No call of the publisher raised, if there is one. -/
def Undisturbed (publisher : Option Publisher) (s : Locals) : Prop :=
  ∀ p, publisher = some p → Quiet p s.emitted

section Simulation
variable {publisher : Option Publisher} {runner : PipelineRunner} {clock : Clock}

theorem notify_simulates (call : PublisherCall) :
    Simulates (Undisturbed publisher) Locals.untimed id id (notify publisher call)
      (notify none call) := by
  intro s hs
  cases publisher with
  | none => exact ⟨hs, rfl⟩
  | some p =>
    rw [endState, notify_some] at hs
    rw [notify_some]
    cases hp : p s.emitted call with
    | none =>
      rw [hp] at hs
      refine ⟨?_, rfl⟩
      rintro _ ⟨⟩
      exact (quiet_append.1 (hs p rfl)).1
    | some error =>
      rw [hp] at hs
      have hq := (quiet_append.1 (hs p rfl)).2
      rw [hp] at hq
      cases hq

theorem addTiming_simulates (hl : stage ≠ .llm) :
    Simulates (Undisturbed publisher) Locals.untimed id id
      (modify (addTiming stage (clock.completed stage)) : EStateM Raised Locals PUnit)
      (modify (addTiming stage (zeroClock.completed stage)) : EStateM Raised Locals PUnit) := by
  apply Simulates.modify
  · intro s hs
    exact hs
  · intro s
    simp only [Locals.untimed, addTiming, List.map_append, List.map_singleton, StageTiming.untimed,
      if_neg hl]
    rfl

theorem timed_simulates {work work' : EStateM Raised Locals α} (hl : stage ≠ .llm)
    (hw : Simulates (Undisturbed publisher) Locals.untimed id id work work') :
    Simulates (Undisturbed publisher) Locals.untimed id id (timed clock publisher stage work)
      (timed zeroClock none stage work') := by
  apply Simulates.bind
  · exact Simulates.modify (fun _ h => h) (fun _ => rfl)
  intro _
  apply Simulates.bind (notify_simulates _)
  intro _
  apply Simulates.bind hw
  intro a
  apply Simulates.bind (addTiming_simulates hl)
  intro _
  apply Simulates.bind (notify_simulates _)
  intro _
  exact Simulates.pure a

theorem kept_simulates (x : Except Raised α) {keep : α → Locals → Locals}
    (hk : ∀ a s, (keep a s).emitted = s.emitted)
    (hu : ∀ a s, (keep a s).untimed = keep a s.untimed) :
    Simulates (Undisturbed publisher) Locals.untimed id id (kept x keep) (kept x keep) := by
  apply Simulates.bind (Simulates.fromExcept x)
  intro a
  apply Simulates.bind
  · apply Simulates.modify _ (hu a)
    intro s hs p hp
    rw [← hk a s]
    exact hs p hp
  intro _
  exact Simulates.pure a

theorem tellLlm_simulates (latencyMs : Rat) :
    Simulates (Undisturbed publisher) Locals.untimed id id (tellLlm publisher latencyMs)
      (tellLlm none latencyMs) := by
  apply Simulates.bind
  · apply Simulates.modify
    · intro s hs
      exact hs
    · intro s
      simp only [Locals.untimed, addTiming, List.map_append, List.map_singleton,
        StageTiming.untimed, if_true]
  intro _
  apply Simulates.bind (notify_simulates _)
  intro _
  exact notify_simulates _

theorem generateSql_simulates (prompt : CompiledPrompt) :
    Simulates (Undisturbed publisher) Locals.untimed id id (generateSql runner prompt)
      (generateSql runner prompt) :=
  kept_simulates _ (fun _ _ => rfl) (fun _ _ => rfl)

theorem validateSql_simulates (gs : GeneratedSQL) :
    Simulates (Undisturbed publisher) Locals.untimed id id (validateSql runner gs)
      (validateSql runner gs) :=
  kept_simulates _ (fun _ _ => rfl) (fun _ _ => rfl)

theorem repairSql_simulates (gs : GeneratedSQL) (v : SQLValidationResult)
    (bundle : RetrievedKnowledgeBundle) :
    Simulates (Undisturbed publisher) Locals.untimed id id (repairSql runner gs v bundle)
      (repairSql runner gs v bundle) :=
  kept_simulates _ (fun _ _ => rfl) (fun _ _ => rfl)

theorem executeSql_simulates (gs : GeneratedSQL) (v : SQLValidationResult) :
    Simulates (Undisturbed publisher) Locals.untimed id id (executeSql runner gs v)
      (executeSql runner gs v) := by
  apply Simulates.bind
  · exact Simulates.modify (fun _ h => h) (fun _ => rfl)
  intro _
  exact kept_simulates _ (fun _ _ => rfl) (fun _ _ => rfl)

theorem validateAndRepair_simulates (bundle : RetrievedKnowledgeBundle) (gs : GeneratedSQL) :
    Simulates (Undisturbed publisher) Locals.untimed id id
      (validateAndRepair runner clock publisher bundle gs)
      (validateAndRepair runner zeroClock none bundle gs) := by
  apply Simulates.bind (timed_simulates (by decide) (validateSql_simulates gs))
  intro v
  apply Simulates.bind
  · exact Simulates.modify (fun _ h => h) (fun _ => rfl)
  intro _
  dsimp only [id]
  split
  · exact Simulates.pure _
  · apply Simulates.bind (timed_simulates (by decide) (repairSql_simulates gs v bundle))
    intro result
    apply Simulates.bind
    · exact Simulates.modify (fun _ h => h) (fun _ => rfl)
    intro _
    exact Simulates.pure _

theorem generateAndValidate_simulates (question : String) :
    Simulates (Undisturbed publisher) Locals.untimed id id
      (generateAndValidate runner clock publisher question)
      (generateAndValidate runner zeroClock none question) := by
  apply Simulates.bind (timed_simulates (by decide) (Simulates.fromExcept _))
  intro queryContext
  apply Simulates.bind (timed_simulates (by decide) (Simulates.fromExcept _))
  intro linkedContext
  apply Simulates.bind (timed_simulates (by decide) (Simulates.fromExcept _))
  intro _
  apply Simulates.bind (timed_simulates (by decide) (Simulates.fromExcept _))
  intro bundle
  apply Simulates.bind (timed_simulates (by decide) (Simulates.fromExcept _))
  intro compiledPrompt
  apply Simulates.bind (timed_simulates (by decide) (generateSql_simulates _))
  intro generated
  apply Simulates.bind (tellLlm_simulates _)
  intro _
  exact validateAndRepair_simulates _ _

theorem finish_simulates (question : String) (answer : Option BusinessAnswer)
    (status : PipelineStatus) (error : Option String) :
    Simulates (Undisturbed publisher) Locals.untimed id QueryMindResponse.untimed
      (finish clock publisher question answer status error)
      (finish zeroClock none question answer status error) := by
  apply Simulates.bind Simulates.get
  intro s
  apply Simulates.bind
  · exact notify_simulates _
  intro _
  exact Simulates.pure _

theorem executeAndFormat_simulates (question : String) (outcome : GenerationOutcome) :
    Simulates (Undisturbed publisher) Locals.untimed id QueryMindResponse.untimed
      (executeAndFormat runner clock publisher question outcome)
      (executeAndFormat runner zeroClock none question outcome) := by
  apply Simulates.bind (timed_simulates (by decide) (executeSql_simulates _ _))
  intro executionResult
  dsimp only [id]
  split
  · exact finish_simulates _ _ _ _
  · apply Simulates.bind (timed_simulates (by decide) (Simulates.fromExcept _))
    intro answer
    exact finish_simulates _ _ _ _

theorem tellFailure_simulates (publisher : Option Publisher) (clock : Clock) (exc : Raised)
    (wrapped : PipelineExecutionError) :
    Simulates (Undisturbed publisher) Locals.untimed id id (tellFailure clock publisher exc wrapped)
      (tellFailure zeroClock none exc wrapped.untimed) := by
  apply Simulates.bind
  · exact notify_simulates _
  intro _
  exact notify_simulates _

theorem guarded_simulates {body body' : EStateM Raised Locals α} {g : α → α}
    (h : Simulates (Undisturbed publisher) Locals.untimed id g body body') :
    Simulates (Undisturbed publisher) Locals.untimed RunRaised.untimed g
      (guarded clock publisher body) (guarded zeroClock none body') := by
  intro s hs
  have hb := h s
  simp only [endState, guarded] at hs hb ⊢
  cases hr : body s with
  | ok a s' =>
    simp only [hr] at hs hb ⊢
    obtain ⟨hR, he⟩ := hb hs
    rw [← he]
    exact ⟨hR, rfl⟩
  | error exc s' =>
    simp only [hr, onException] at hs hb ⊢
    have ht := tellFailure_simulates publisher clock exc (s'.wrapped exc) s'
    simp only [endState] at ht
    cases hf : tellFailure clock publisher exc (s'.wrapped exc) s' with
    | ok _ s'' =>
      simp only [hf] at hs ht ⊢
      obtain ⟨hR', he'⟩ := ht hs
      obtain ⟨hR, he⟩ := hb hR'
      have hstate : s''.untimed = s'.untimed := by injection he'
      rw [← he]
      refine ⟨hR, ?_⟩
      show EStateM.Result.error (RunRaised.execution (s'.wrapped exc).untimed) s''.untimed =
        .error (.execution (s'.untimed.wrapped exc)) s'.untimed
      rw [hstate]
      rfl
    | error e s'' =>
      simp only [hf] at hs ht ⊢
      obtain ⟨hR', he'⟩ := ht hs
      cases he'

theorem unguarded_simulates {body body' : EStateM Raised Locals α}
    (h : Simulates (Undisturbed publisher) Locals.untimed id id body body') :
    Simulates (Undisturbed publisher) Locals.untimed RunRaised.untimed id (unguarded body)
      (unguarded body') := by
  intro s hs
  have hb := h s
  simp only [endState, unguarded] at hs hb ⊢
  cases hr : body s with
  | ok a s' =>
    simp only [hr] at hs hb ⊢
    obtain ⟨hR, he⟩ := hb hs
    rw [← he]
    exact ⟨hR, rfl⟩
  | error exc s' =>
    simp only [hr] at hs hb ⊢
    obtain ⟨hR, he⟩ := hb hs
    rw [← he]
    exact ⟨hR, rfl⟩

/-- Undisturbed, a run does what it does when nobody listens and no time passes. -/
theorem run_simulates (question : String) :
    Simulates (Undisturbed publisher) Locals.untimed RunRaised.untimed QueryMindResponse.untimed
      (run runner clock publisher question) (run runner zeroClock none question) := by
  apply Simulates.bind (unguarded_simulates (notify_simulates _))
  intro _
  apply Simulates.bind (guarded_simulates (generateAndValidate_simulates question))
  intro outcome
  apply Simulates.bind
  · exact Simulates.modify (fun _ h => h) (fun _ => rfl)
  intro _
  exact guarded_simulates (executeAndFormat_simulates question outcome)

end Simulation

theorem ask_untimed {publisher : Option Publisher} (clock : Clock)
    (h : Undisturbed publisher (endState (run runner clock publisher question) .start)) :
    (ask runner clock publisher question).untimed = ask runner zeroClock none question := by
  obtain ⟨-, he⟩ := run_simulates question Locals.start h
  have hstart : Locals.start.untimed = Locals.start := rfl
  rw [hstart] at he
  simp only [ask, resultOf]
  rw [← he]
  cases run runner clock publisher question Locals.start with
  | ok response s => rfl
  | error e s =>
    cases e with
    | execution e => rfl
    | other e => rfl

theorem quiet_of_success (h : (ask runner clock (some p) question).status = .success) :
    Quiet p (emittedBy runner clock p question) := by
  have hr := run_spec runner clock p question Locals.start rfl
  simp only [ask, resultOf] at h
  simp only [emittedBy, endState]
  cases hrun : run runner clock (some p) question Locals.start with
  | ok response s =>
    rw [hrun] at hr
    exact hr.1
  | error e s =>
    rw [hrun] at h
    cases e <;> cases h

/-- A publisher that does not raise changes nothing in the answer; and one that raises in the course
of a question that would be answered turns the answer into a failure. -/
theorem publishing_transparent (runner : PipelineRunner) (clock clock' : Clock) (p : Publisher)
    (question : String) :
    (Quiet p (emittedBy runner clock p question) →
      (ask runner clock (some p) question).untimed = (ask runner clock' none question).untimed) ∧
    ((ask runner clock' none question).status = .success →
      ((ask runner clock (some p) question).untimed =
          (ask runner clock' none question).untimed ↔
        Quiet p (emittedBy runner clock p question))) := by
  have hsame : Quiet p (emittedBy runner clock p question) →
      (ask runner clock (some p) question).untimed =
        (ask runner clock' none question).untimed := by
    intro hq
    rw [ask_untimed clock, ask_untimed clock']
    · rintro _ ⟨⟩
    · rintro _ ⟨⟩
      exact hq
  refine ⟨hsame, ?_⟩
  intro hs
  refine ⟨?_, hsame⟩
  intro he
  apply quiet_of_success
  have hstatus := congrArg QueryMindResponse.status he
  exact hstatus.trans hs

/-- The answer is there and is not returned, because its event cannot be built. -/
theorem publishing_disturbs :
    (ask avatarRunner stoppedClock none "avatars").status = .success ∧
      (ask avatarRunner stoppedClock (some (emitterPublisher dumpRaises)) "avatars").untimed ≠
        (ask avatarRunner stoppedClock none "avatars").untimed := by
  refine ⟨rfl, ?_⟩
  intro h
  have hs : PipelineStatus.failed = .success := congrArg QueryMindResponse.status h
  cases hs

end QueryMind.Orchestrator
