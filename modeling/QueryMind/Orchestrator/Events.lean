import QueryMind.Orchestrator.Pipeline
import QueryMind.Prompt.Question
import QueryMind.Repair.Prompt

namespace QueryMind.Orchestrator
open Lib Execution Prompt Repair ResultFormatter Sql Streaming
set_option autoImplicit true

def generationStages (repair : Bool) : List PipelineStage :=
  [.nlu, .schemaLinking, .businessKnowledge, .retrieval, .promptCompilation, .sqlGeneration, .llm,
    .sqlValidation] ++ if repair then [.sqlRepair] else []

def stageOrder (repair : Bool) : List PipelineStage :=
  generationStages repair ++ [.sqlExecution, .resultFormatting]

/-- The verdict on the text generated for a question, where it comes to one. -/
def PipelineRunner.verdict (runner : PipelineRunner) (question : String) :
    Except Raised SQLValidationResult := do
  let queryContext ← runner.parse question
  let linkedContext ← runner.link queryContext
  runner.load
  let bundle ← runner.retrieve linkedContext
  let compiledPrompt ← runner.compile bundle runner.dialect
  let generated ← runner.generate compiledPrompt
  runner.validate generated.toGeneratedSQL

def PipelineRunner.needsRepair (runner : PipelineRunner) (question : String) : Bool :=
  match runner.verdict question with
  | .ok v => !v.isValid
  | .error _ => false

def stageEvents (t : StageTiming) : List PublisherCall :=
  [.stageStarted t.stage, .stageCompleted t.stage t.latencyMs]

def told (question : String) (timings : List StageTiming) : List PublisherCall :=
  .pipelineStarted question :: timings.flatMap stageEvents

/-- A call of a run in which the publisher raised. -/
def RaisesIn (publisher : Publisher) (emitted : List PublisherCall) (call : PublisherCall) : Prop :=
  ∃ earlier, earlier ++ [call] <+: emitted ∧ (publisher earlier call).isSome = true

/-- No call of a run raised. -/
def Quiet (publisher : Publisher) (emitted : List PublisherCall) : Prop :=
  ∀ call, ¬ RaisesIn publisher emitted call

def Announces (call : PublisherCall) : Prop := ∃ stage, stage ≠ .llm ∧ call = .stageStarted stage

/-- The publisher raises only when it is told of a stage yet to be run. -/
def RaisesAtStarts (publisher : Publisher) (emitted : List PublisherCall) : Prop :=
  ∀ call, RaisesIn publisher emitted call → Announces call

theorem raisesIn_append {p : Publisher} : RaisesIn p (emitted ++ [call]) c ↔
    RaisesIn p emitted c ∨ (p emitted call).isSome = true ∧ c = call := by
  constructor
  · rintro ⟨earlier, hp, hs⟩
    rcases List.prefix_concat_iff.1 hp with he | hp
    · obtain ⟨rfl, hc⟩ := List.append_inj' he rfl
      cases hc
      exact .inr ⟨hs, rfl⟩
    · exact .inl ⟨earlier, hp, hs⟩
  · rintro (⟨earlier, hp, hs⟩ | ⟨hs, rfl⟩)
    · exact ⟨earlier, hp.trans (List.prefix_append _ _), hs⟩
    · exact ⟨emitted, List.prefix_rfl, hs⟩

theorem quiet_nil : Quiet p [] := by
  rintro call ⟨earlier, hp, _⟩
  exact List.append_ne_nil_of_right_ne_nil _ (List.cons_ne_nil _ _) (List.prefix_nil.1 hp)

theorem quiet_append {p : Publisher} :
    Quiet p (emitted ++ [call]) ↔ Quiet p emitted ∧ p emitted call = none := by
  simp only [Quiet, raisesIn_append, not_or, forall_and, not_and]
  apply and_congr_right
  intro _
  constructor
  · intro h
    exact Option.not_isSome_iff_eq_none.1 (fun hs => h call hs rfl)
  · intro h c hs
    rw [h] at hs
    cases hs

theorem raisesAtStarts_append {p : Publisher} : RaisesAtStarts p (emitted ++ [call]) ↔
    RaisesAtStarts p emitted ∧ ((p emitted call).isSome = true → Announces call) := by
  simp only [RaisesAtStarts, raisesIn_append]
  constructor
  · intro h
    exact ⟨fun c hc => h c (.inl hc), fun hs => h call (.inr ⟨hs, rfl⟩)⟩
  · rintro ⟨h, hs⟩ c (hc | ⟨hc, rfl⟩)
    · exact h c hc
    · exact hs hc

theorem Quiet.raisesAtStarts (h : Quiet p emitted) : RaisesAtStarts p emitted :=
  fun call hc => absurd hc (h call)

theorem told_append (question : String) (timings : List StageTiming) (t : StageTiming) :
    told question (timings ++ [t]) = told question timings ++ stageEvents t := by
  rw [told, told, List.flatMap_append, List.flatMap_singleton, List.cons_append]

theorem completed_told (question : String) :
    (∃ ms, .stageCompleted stage ms ∈ told question timings) ↔
      stage ∈ timings.map StageTiming.stage := by
  simp only [told, List.mem_cons, reduceCtorEq, false_or, List.mem_flatMap, stageEvents,
    List.not_mem_nil, or_false, PublisherCall.stageCompleted.injEq, List.mem_map]
  constructor
  · rintro ⟨ms, t, ht, rfl, -⟩
    exact ⟨t, ht, rfl⟩
  · rintro ⟨t, ht, rfl⟩
    exact ⟨_, t, ht, rfl, rfl⟩

theorem failed_notMem_told : .stageFailed stage ms error ∉ told question timings := by
  simp only [told, List.mem_cons, reduceCtorEq, List.mem_flatMap, stageEvents,
    List.not_mem_nil, or_false, and_false, exists_false, not_false_eq_true]

section Protocol
variable {p : Publisher} {question : String} {order stages : List PipelineStage}
  {runner : PipelineRunner} {clock : Clock}

theorem notify_some (call : PublisherCall) (s : Locals) :
    notify (some p) call s =
      match p s.emitted call with
      | none => .ok () { s with emitted := s.emitted ++ [call] }
      | some error => .error error { s with emitted := s.emitted ++ [call] } := rfl

theorem notify_spec {R T : Locals → Prop} {call : PublisherCall}
    (h : ∀ s, R s → T { s with emitted := s.emitted ++ [call] }) :
    Spec (fun s => Quiet p s.emitted ∧ R s) (notify (some p) call)
      (fun _ s => Quiet p s.emitted ∧ T s)
      (fun _ s => (RaisesAtStarts p s.emitted ↔ Announces call) ∧ T s) := by
  rintro s ⟨hq, hs⟩
  rw [notify_some]
  cases hr : p s.emitted call with
  | none => exact ⟨quiet_append.2 ⟨hq, hr⟩, h s hs⟩
  | some error =>
    refine ⟨?_, h s hs⟩
    rw [raisesAtStarts_append, hr]
    exact ⟨fun ha => ha.2 rfl, fun ha => ⟨hq.raisesAtStarts, fun _ => ha⟩⟩

/-- The stages are over and told; the current one is among them. -/
structure Reached (p : Publisher) (question : String) (stages : List PipelineStage) (s : Locals) :
    Prop where
  quiet : Quiet p s.emitted
  told_eq : s.emitted = told question s.stageTimings
  finished : s.stageTimings.map StageTiming.stage = stages
  current : stages ≠ [] → s.currentStage ∈ stages

/-- After some stages the current one was started, and told. -/
def Running (question : String) (stages : List PipelineStage) (stage : PipelineStage) (s : Locals) :
    Prop :=
  s.emitted = told question s.stageTimings ++ [.stageStarted stage] ∧
    s.stageTimings.map StageTiming.stage = stages ∧ s.currentStage = stage

/-- Where an exception left a `try` block: in the stage whose turn it was, or in a call that raised
when the current stage was told to be over. -/
def Failing (p : Publisher) (question : String) (order : List PipelineStage) (s : Locals) : Prop :=
  RaisesAtStarts p s.emitted ∧
      s.emitted = told question s.stageTimings ++ [.stageStarted s.currentStage] ∧
      s.stageTimings.map StageTiming.stage ++ [s.currentStage] <+: order ∨
    ¬ RaisesAtStarts p s.emitted ∧ ∃ ms, .stageCompleted s.currentStage ms ∈ s.emitted

theorem Running.failing (hs : RaisesAtStarts p s.emitted) (h : Running question stages stage s)
    (hp : stages ++ [stage] <+: order) : Failing p question order s := by
  obtain ⟨he, hm, hc⟩ := h
  refine .inl ⟨hs, ?_, ?_⟩
  · rw [hc]
    exact he
  · rw [hm, hc]
    exact hp

def Silent (work : EStateM Raised Locals α) : Prop :=
  ∀ s, (endState work s).emitted = s.emitted ∧ (endState work s).stageTimings = s.stageTimings ∧
    (endState work s).currentStage = s.currentStage

def Yields (work : EStateM Raised Locals α) (W : α → Prop) : Prop :=
  ∀ s, match work s with
    | .ok a _ => W a
    | .error _ _ => True

theorem Silent.spec {work : EStateM Raised Locals α} (h : Silent work) (hw : Yields work W) :
    Spec (fun s => Quiet p s.emitted ∧ Running question stages stage s) work
      (fun a s => W a ∧ Quiet p s.emitted ∧ Running question stages stage s)
      (fun _ s => Quiet p s.emitted ∧ Running question stages stage s) := by
  intro s hs
  obtain ⟨he, ht, hc⟩ := h s
  have hy := hw s
  rw [endState] at he ht hc
  rw [Running, ← he, ← ht, ← hc] at hs
  cases hr : work s with
  | ok a s' =>
    rw [hr] at hs hy
    exact ⟨hy, hs⟩
  | error e s' =>
    rw [hr] at hs
    exact hs

theorem timed_spec {work : EStateM Raised Locals α} (hs : Silent work) (hw : Yields work W)
    (hp : stages ++ [stage] <+: order) (hl : stage ≠ .llm) :
    Spec (Reached p question stages) (timed clock (some p) stage work)
      (fun a s => W a ∧ Reached p question (stages ++ [stage]) s)
      (fun _ s => Failing p question order s) := by
  let Announced (s : Locals) : Prop := s.emitted = told question s.stageTimings ∧
    s.stageTimings.map StageTiming.stage = stages ∧ s.currentStage = stage
  let Timed (rest : List PublisherCall) (s : Locals) : Prop :=
    s.emitted ++ rest = told question s.stageTimings ∧
      s.stageTimings.map StageTiming.stage = stages ++ [stage] ∧ s.currentStage = stage
  let completed : PublisherCall := .stageCompleted stage (clock.completed stage)
  have hannounce : Spec (fun s => Quiet p s.emitted ∧ Announced s)
      (notify (some p) (.stageStarted stage))
      (fun _ s => Quiet p s.emitted ∧ Running question stages stage s)
      (fun _ s => Failing p question order s) := by
    apply (notify_spec (R := Announced) (T := Running question stages stage) _).imp
      (fun _ h => h) (fun _ _ h => h)
    · intro _ s h
      exact h.2.failing (h.1.2 ⟨stage, hl, rfl⟩) hp
    · intro s ⟨he, hm, hc⟩
      exact ⟨congrArg (· ++ _) he, hm, hc⟩
  have hfinish : Spec (fun s => Quiet p s.emitted ∧ Timed [completed] s)
      (notify (some p) completed) (fun _ => Reached p question (stages ++ [stage]))
      (fun _ s => Failing p question order s) := by
    have hmem (s : Locals) (h : Timed [] s) : s.currentStage ∈ stages ++ [stage] := by
      rw [h.2.2]
      exact List.mem_append_right _ (List.mem_singleton_self _)
    apply (notify_spec (R := Timed [completed]) (T := Timed []) _).imp (fun _ h => h)
    · intro _ s h
      exact ⟨h.1, (List.append_nil _).symm.trans h.2.1, h.2.2.1, fun _ => hmem s h.2⟩
    · intro _ s h
      refine .inr ⟨fun hr => ?_, ?_⟩
      · obtain ⟨_, _, he⟩ := h.1.1 hr
        simp only [completed, reduceCtorEq] at he
      · rw [(List.append_nil _).symm.trans h.2.1, completed_told, h.2.2.1]
        exact hmem s h.2
    · intro s ⟨he, hm⟩
      refine ⟨?_, hm⟩
      rw [List.append_nil]
      exact he
  apply Spec.bind (Q := fun _ s => Quiet p s.emitted ∧ Announced s)
  · apply Spec.modify
    intro s h
    exact ⟨h.quiet, h.told_eq, h.finished, rfl⟩
  intro _
  apply Spec.bind hannounce
  intro _
  apply Spec.bind ((hs.spec hw).imp (fun _ h => h) (fun _ _ h => h)
    (fun _ _ h => h.2.failing h.1.raisesAtStarts hp))
  intro a
  apply Spec.given
  intro ha
  apply Spec.bind (Q := fun _ s => Quiet p s.emitted ∧ Timed [completed] s)
  · apply Spec.modify
    intro s ⟨hq, he, hm, hc⟩
    refine ⟨hq, ?_, ?_, hc⟩
    · show s.emitted ++ _ = told question (s.stageTimings ++ [_])
      rw [told_append, he, List.append_assoc]
      rfl
    · show (s.stageTimings ++ [_]).map StageTiming.stage = _
      rw [List.map_append, hm, List.map_singleton]
  intro _
  apply Spec.bind hfinish
  intro _
  apply Spec.pure
  intro s h
  exact ⟨ha, h⟩

theorem fromExcept_silent (x : Except Raised α) : Silent (fromExcept x) := by
  intro s
  cases x <;> exact ⟨rfl, rfl, rfl⟩

theorem fromExcept_yields (x : Except Raised α) : Yields (fromExcept x) (fun a => x = .ok a) := by
  intro s
  cases x with
  | ok a => rfl
  | error e => trivial

theorem kept_silent {keep : α → Locals → Locals} (x : Except Raised α)
    (h : ∀ a s, (keep a s).emitted = s.emitted ∧ (keep a s).stageTimings = s.stageTimings ∧
      (keep a s).currentStage = s.currentStage) : Silent (kept x keep) := by
  intro s
  cases x with
  | ok a => exact h a s
  | error e => exact ⟨rfl, rfl, rfl⟩

theorem kept_yields (x : Except Raised α) (keep : α → Locals → Locals) :
    Yields (kept x keep) (fun a => x = .ok a) := by
  intro s
  cases x with
  | ok a => rfl
  | error e => trivial

theorem generateSql_silent (prompt : CompiledPrompt) : Silent (generateSql runner prompt) :=
  kept_silent _ (fun _ _ => ⟨rfl, rfl, rfl⟩)

theorem validateSql_silent (gs : GeneratedSQL) : Silent (validateSql runner gs) :=
  kept_silent _ (fun _ _ => ⟨rfl, rfl, rfl⟩)

theorem repairSql_silent (gs : GeneratedSQL) (v : SQLValidationResult)
    (bundle : RetrievedKnowledgeBundle) : Silent (repairSql runner gs v bundle) :=
  kept_silent _ (fun _ _ => ⟨rfl, rfl, rfl⟩)

theorem executeSql_silent (gs : GeneratedSQL) (v : SQLValidationResult) :
    Silent (executeSql runner gs v) := by
  intro s
  exact @kept_silent _ (fun r s => { s with executionResult := some r }) (runner.execute gs v).1
    (fun _ _ => ⟨rfl, rfl, rfl⟩) { s with handed := s.handed ++ (runner.execute gs v).2 }

theorem executeSql_yields (gs : GeneratedSQL) (v : SQLValidationResult) :
    Yields (executeSql runner gs v) (fun r => (runner.execute gs v).1 = .ok r) := by
  intro s
  exact kept_yields (runner.execute gs v).1 (fun r s => { s with executionResult := some r })
    { s with handed := s.handed ++ (runner.execute gs v).2 }

theorem tellLlm_spec (latencyMs : Rat) (hn : stages ≠ []) :
    Spec (Reached p question stages) (tellLlm (some p) latencyMs)
      (fun _ => Reached p question (stages ++ [.llm])) (fun _ s => Failing p question order s) := by
  let Timed (rest : List PublisherCall) (s : Locals) : Prop :=
    s.emitted ++ rest = told question s.stageTimings ∧
      s.stageTimings.map StageTiming.stage = stages ++ [.llm] ∧
      (∃ ms, .stageCompleted s.currentStage ms ∈ s.emitted) ∧ s.currentStage ∈ stages
  have hstep (call : PublisherCall) (rest : List PublisherCall) (s : Locals)
      (h : Timed (call :: rest) s) : Timed rest { s with emitted := s.emitted ++ [call] } := by
    obtain ⟨he, hm, ⟨ms, hc⟩, hs⟩ := h
    refine ⟨?_, hm, ⟨ms, List.mem_append_left _ hc⟩, hs⟩
    rw [List.append_assoc]
    exact he
  apply Spec.bind (Q := fun _ s => Quiet p s.emitted ∧
    Timed [.stageStarted .llm, .stageCompleted .llm latencyMs] s)
  · apply Spec.modify
    intro s h
    have hs := h.current hn
    have hc := hs
    rw [← h.finished, ← completed_told question, ← h.told_eq] at hc
    refine ⟨h.quiet, ?_, ?_, hc, hs⟩
    · show s.emitted ++ _ = told question (s.stageTimings ++ [_])
      rw [told_append, h.told_eq]
      rfl
    · show (s.stageTimings ++ [_]).map StageTiming.stage = _
      rw [List.map_append, h.finished, List.map_singleton]
  intro _
  apply Spec.bind (Q := fun _ s => Quiet p s.emitted ∧ Timed [.stageCompleted .llm latencyMs] s)
  · apply (notify_spec (hstep _ [.stageCompleted .llm latencyMs])).imp (fun _ h => h)
      (fun _ _ h => h)
    intro _ s h
    refine .inr ⟨fun hr => ?_, h.2.2.2.1⟩
    obtain ⟨stage, hl, he⟩ := h.1.1 hr
    cases he
    exact hl rfl
  intro _
  apply (notify_spec (hstep _ [])).imp (fun _ h => h)
  · intro _ s ⟨hq, he, hm, _, hs⟩
    rw [List.append_nil] at he
    exact ⟨hq, he, hm, fun _ => List.mem_append_left _ hs⟩
  · intro _ s h
    refine .inr ⟨fun hr => ?_, h.2.2.2.1⟩
    obtain ⟨stage, _, he⟩ := h.1.1 hr
    cases he

theorem validateAndRepair_spec {bundle : RetrievedKnowledgeBundle} {gs : GeneratedSQL}
    (hv : ∀ v, runner.validate gs = .ok v → runner.verdict question = .ok v) :
    Spec (Reached p question [.nlu, .schemaLinking, .businessKnowledge, .retrieval,
        .promptCompilation, .sqlGeneration, .llm])
      (validateAndRepair runner clock (some p) bundle gs)
      (fun _ => Reached p question (generationStages (runner.needsRepair question)))
      (fun _ s => Failing p question (stageOrder (runner.needsRepair question)) s) := by
  apply Spec.bind
  · exact timed_spec (validateSql_silent gs) (kept_yields _ _) ⟨_, rfl⟩ (by decide)
  intro v
  apply Spec.given
  intro hok
  have hn : runner.needsRepair question = !v.isValid := by
    rw [PipelineRunner.needsRepair, hv v hok]
  rw [hn]
  apply Spec.bind (Q := fun _ => Reached p question (generationStages false))
  · apply Spec.modify
    intro s h
    exact ⟨h.quiet, h.told_eq, h.finished, h.current⟩
  intro _
  cases hvalid : v.isValid with
  | true =>
    rw [if_pos rfl]
    apply Spec.pure
    intro s h
    exact h
  | false =>
    rw [if_neg Bool.false_ne_true]
    apply Spec.bind
    · exact timed_spec (repairSql_silent gs v bundle) (kept_yields _ _) ⟨_, rfl⟩ (by decide)
    intro result
    apply Spec.given
    intro _
    apply Spec.bind (Q := fun _ => Reached p question (generationStages true))
    · apply Spec.modify
      intro s h
      exact ⟨h.quiet, h.told_eq, h.finished, h.current⟩
    intro _
    apply Spec.pure
    intro s h
    exact h

theorem generateAndValidate_spec :
    Spec (Reached p question []) (generateAndValidate runner clock (some p) question)
      (fun _ => Reached p question (generationStages (runner.needsRepair question)))
      (fun _ s => Failing p question (stageOrder (runner.needsRepair question)) s) := by
  apply Spec.bind (timed_spec (fromExcept_silent _) (fromExcept_yields _) ⟨_, rfl⟩ (by decide))
  intro queryContext
  apply Spec.given
  intro hparse
  apply Spec.bind (timed_spec (fromExcept_silent _) (fromExcept_yields _) ⟨_, rfl⟩ (by decide))
  intro linkedContext
  apply Spec.given
  intro hlink
  apply Spec.bind (timed_spec (fromExcept_silent _) (fromExcept_yields _) ⟨_, rfl⟩ (by decide))
  intro _
  apply Spec.given
  intro hload
  apply Spec.bind (timed_spec (fromExcept_silent _) (fromExcept_yields _) ⟨_, rfl⟩ (by decide))
  intro bundle
  apply Spec.given
  intro hretrieve
  apply Spec.bind (timed_spec (fromExcept_silent _) (fromExcept_yields _) ⟨_, rfl⟩ (by decide))
  intro compiledPrompt
  apply Spec.given
  intro hcompile
  apply Spec.bind (timed_spec (generateSql_silent _) (kept_yields _ _) ⟨_, rfl⟩ (by decide))
  intro generated
  apply Spec.given
  intro hgenerate
  apply Spec.bind (tellLlm_spec _ (by decide))
  intro _
  apply validateAndRepair_spec
  intro v hv
  rw [PipelineRunner.verdict, hparse, ← hv]
  simp only [bind, Except.bind, hlink, hload, hretrieve, hcompile, hgenerate]

/-- What a run tells and what it answers fit together. -/
def Protocol (order : List PipelineStage) (question : String) (emitted : List PublisherCall) :
    Except RunRaised QueryMindResponse → Prop
  | .ok response =>
    emitted = told question response.statistics.stageTimings ++ [.pipelineCompleted response] ∧
      (response.statistics.stageTimings.map StageTiming.stage = order ∨
        response.statistics.stageTimings.map StageTiming.stage ++ [.resultFormatting] = order)
  | .error (.execution e) =>
    (∃ durationMs, emitted = told question e.stageTimings ++
      [.stageStarted e.stage, .stageFailed e.stage durationMs e.cause, .pipelineFailed e]) ∧
      e.stageTimings.map StageTiming.stage ++ [e.stage] <+: order
  | .error (.other _) => False

theorem stageOrder_nodup (repair : Bool) : (stageOrder repair).Nodup := by
  cases repair <;> decide

theorem Protocol.exclusive (h : Protocol (stageOrder repair) question emitted result)
    (hf : .stageFailed stage ms error ∈ emitted) : .stageCompleted stage ms' ∉ emitted := by
  intro hc
  cases result with
  | ok response =>
    rw [h.1, List.mem_append, List.mem_singleton] at hf
    rcases hf with hf | hf
    · exact failed_notMem_told hf
    · cases hf
  | error e =>
    cases e with
    | other e => exact h
    | execution e =>
      obtain ⟨⟨durationMs, he⟩, hp⟩ := h
      rw [he] at hf hc
      simp only [List.mem_append, List.mem_cons, List.not_mem_nil, or_false, reduceCtorEq, false_or,
        PublisherCall.stageFailed.injEq] at hf hc
      rcases hf with hf | ⟨rfl, -⟩
      · exact failed_notMem_told hf
      · have hn := (List.nodup_append.1 ((stageOrder_nodup repair).sublist hp.sublist)).2.2
        exact hn _ ((completed_told _).1 ⟨_, hc⟩) _ List.mem_cons_self rfl

theorem finish_spec (hn : stages ≠ []) :
    Spec (Reached p question stages) (finish clock (some p) question answer status error)
      (fun response s => Quiet p s.emitted ∧
        s.emitted =
            told question response.statistics.stageTimings ++ [.pipelineCompleted response] ∧
        response.statistics.stageTimings.map StageTiming.stage = stages)
      (fun _ s => Failing p question order s) := by
  apply Spec.bind (Q := fun s₀ s => s = s₀ ∧ Reached p question stages s₀)
  · apply Spec.get
    intro s h
    exact ⟨rfl, h⟩
  intro s₀
  let response := s₀.response question clock answer status error
  apply Spec.bind (Q := fun _ s => Quiet p s.emitted ∧
    s.emitted = told question s₀.stageTimings ++ [.pipelineCompleted response] ∧
      s₀.stageTimings.map StageTiming.stage = stages)
  · apply (notify_spec (R := fun s => s = s₀ ∧ Reached p question stages s₀) (T := fun s =>
      s.emitted = told question s₀.stageTimings ++ [.pipelineCompleted response] ∧
        Reached p question stages s₀ ∧ s.currentStage = s₀.currentStage) _).imp
    · intro s ⟨he, h⟩
      rw [he]
      exact ⟨h.quiet, rfl, h⟩
    · intro _ s ⟨hq, he, h, _⟩
      exact ⟨hq, he, h.finished⟩
    · intro _ s ⟨hr, he, h, hc⟩
      refine .inr ⟨fun ht => ?_, ?_⟩
      · obtain ⟨_, _, hcall⟩ := hr.1 ht
        cases hcall
      · have hmem := h.current hn
        rw [← h.finished, ← completed_told question] at hmem
        obtain ⟨ms, hmem⟩ := hmem
        rw [he, hc]
        exact ⟨ms, List.mem_append_left _ hmem⟩
    · intro s ⟨he, h⟩
      rw [he]
      exact ⟨congrArg (· ++ _) h.told_eq, h, rfl⟩
  intro _
  apply Spec.pure
  intro s h
  exact h

theorem executeAndFormat_spec {outcome : GenerationOutcome} :
    Spec (Reached p question (generationStages repair))
      (executeAndFormat runner clock (some p) question outcome)
      (fun response s => Quiet p s.emitted ∧
        Protocol (stageOrder repair) question s.emitted (.ok response))
      (fun _ s => Failing p question (stageOrder repair) s) := by
  have hexec : generationStages repair ++ [.sqlExecution] <+: stageOrder repair :=
    (List.prefix_append_right_inj _).2 ⟨_, rfl⟩
  have hformat : generationStages repair ++ [.sqlExecution] ++ [.resultFormatting] <+:
      stageOrder repair := by
    rw [List.append_assoc]
    exact List.prefix_rfl
  apply Spec.bind (timed_spec (executeSql_silent _ _) (executeSql_yields _ _) hexec (by decide))
  intro executionResult
  apply Spec.given
  intro _
  split
  · apply (finish_spec (by simp)).imp (fun _ h => h) _ (fun _ _ h => h)
    intro response s ⟨hq, he, hm⟩
    refine ⟨hq, he, .inr ?_⟩
    rw [hm, List.append_assoc]
    rfl
  · apply Spec.bind (timed_spec (fromExcept_silent _) (fromExcept_yields _) hformat (by decide))
    intro businessAnswer
    apply Spec.given
    intro _
    apply (finish_spec (by simp)).imp (fun _ h => h) _ (fun _ _ h => h)
    intro response s ⟨hq, he, hm⟩
    refine ⟨hq, he, .inl ?_⟩
    rw [hm, List.append_assoc]
    rfl

theorem not_announces {call : PublisherCall} (h : ∀ stage, call ≠ .stageStarted stage) :
    ¬ Announces call := by
  rintro ⟨stage, _, he⟩
  exact h stage he

theorem tellFailure_spec (clock : Clock) (exc : Raised)
    (hs : Failing p question (stageOrder repair) s) :
    match tellFailure clock (some p) exc (s.wrapped exc) s with
    | .ok _ s' => Protocol (stageOrder repair) question s'.emitted
        (.error (.execution (s.wrapped exc))) ↔ RaisesAtStarts p s'.emitted
    | .error _ s' => ¬ RaisesAtStarts p s'.emitted := by
  let failed : PublisherCall := .stageFailed s.currentStage (clock.failed s.currentStage) exc
  have hfailed : ¬ Announces (.stageFailed s.currentStage (clock.failed s.currentStage) exc) :=
    not_announces fun _ h => by cases h
  have hall : ¬ Announces (.pipelineFailed (s.wrapped exc)) := not_announces fun _ h => by cases h
  show match (notify (some p) failed >>= fun _ =>
      notify (some p) (.pipelineFailed (s.wrapped exc))) s with
    | .ok _ s' => Protocol (stageOrder repair) question s'.emitted
        (.error (.execution (s.wrapped exc))) ↔ RaisesAtStarts p s'.emitted
    | .error _ s' => ¬ RaisesAtStarts p s'.emitted
  simp only [bind, EStateM.bind, notify_some]
  cases hf : p s.emitted failed with
  | some error =>
    intro hr
    exact hfailed ((raisesAtStarts_append.1 hr).2 (by rw [hf]; rfl))
  | none =>
    dsimp only
    cases hp : p (s.emitted ++ [failed]) (.pipelineFailed (s.wrapped exc)) with
    | some error =>
      intro hr
      exact hall ((raisesAtStarts_append.1 hr).2 (by rw [hp]; rfl))
    | none =>
      simp only [raisesAtStarts_append, hf, hp, Option.isSome_none, Bool.false_eq_true,
        false_implies, and_true]
      rcases hs with ⟨hr, he, horder⟩ | ⟨hr, ms, hc⟩
      · refine iff_of_true ⟨⟨clock.failed s.currentStage, ?_⟩, horder⟩ hr
        rw [he, List.append_assoc, List.append_assoc]
        rfl
      · apply iff_of_false _ hr
        intro h
        apply h.exclusive (List.mem_append_left _ (List.mem_append_right _ List.mem_cons_self))
        exact List.mem_append_left _ (List.mem_append_left _ hc)

theorem guarded_spec {body : EStateM Raised Locals α}
    (h : Spec P body Q (fun _ s => Failing p question (stageOrder repair) s)) :
    Spec P (guarded clock (some p) body) Q
      (fun e s => Protocol (stageOrder repair) question s.emitted (.error e) ↔
        RaisesAtStarts p s.emitted) := by
  intro s hs
  have hb := h s hs
  rw [guarded]
  cases hr : body s with
  | ok a s' =>
    rw [hr] at hb
    exact hb
  | error exc s' =>
    rw [hr] at hb
    have ht := tellFailure_spec clock exc hb
    dsimp only
    rw [onException]
    cases hf : tellFailure clock (some p) exc (s'.wrapped exc) s' with
    | ok _ s'' =>
      rw [hf] at ht
      exact ht
    | error e s'' =>
      rw [hf] at ht
      exact iff_of_false id ht

theorem unguarded_spec {body : EStateM Raised Locals α}
    (h : Spec P body Q (fun _ s => ¬ RaisesAtStarts p s.emitted)) :
    Spec P (unguarded body) Q
      (fun e s => Protocol (stageOrder repair) question s.emitted (.error e) ↔
        RaisesAtStarts p s.emitted) := by
  intro s hs
  have hb := h s hs
  rw [unguarded]
  cases hr : body s with
  | ok a s' =>
    rw [hr] at hb
    exact hb
  | error e s' =>
    rw [hr] at hb
    exact iff_of_false id hb

theorem run_spec (runner : PipelineRunner) (clock : Clock) (p : Publisher) (question : String) :
    Spec (fun s => s = Locals.start) (run runner clock (some p) question)
      (fun response s => Quiet p s.emitted ∧
        Protocol (stageOrder (runner.needsRepair question)) question s.emitted (.ok response))
      (fun e s =>
        Protocol (stageOrder (runner.needsRepair question)) question s.emitted (.error e) ↔
          RaisesAtStarts p s.emitted) := by
  apply Spec.bind (Q := fun _ => Reached p question [])
  · apply unguarded_spec
    apply (notify_spec (R := fun s => s = Locals.start) (T := fun s =>
      s.emitted = told question s.stageTimings ∧ s.stageTimings.map StageTiming.stage = []) _).imp
    · intro s h
      rw [h]
      exact ⟨quiet_nil, rfl⟩
    · intro _ s ⟨hq, he, hm⟩
      exact ⟨hq, he, hm, fun h => absurd rfl h⟩
    · intro _ s h hr
      obtain ⟨_, _, he⟩ := h.1.1 hr
      cases he
    · intro s h
      rw [h]
      exact ⟨rfl, rfl⟩
  intro _
  apply Spec.bind (guarded_spec generateAndValidate_spec)
  intro outcome
  apply Spec.bind
    (Q := fun _ => Reached p question (generationStages (runner.needsRepair question)))
  · apply Spec.modify
    intro s h
    exact ⟨h.quiet, h.told_eq, h.finished, h.current⟩
  intro _
  exact guarded_spec executeAndFormat_spec

end Protocol

/-- The events of a run follow its stages and the timings of its answer, when the publisher raises
at most in the announcement of a stage, and only then. -/
theorem protocol_iff (runner : PipelineRunner) (clock : Clock) (p : Publisher) (question : String) :
    Protocol (stageOrder (runner.needsRepair question)) question
        (emittedBy runner clock p question) (resultOf runner clock (some p) question) ↔
      RaisesAtStarts p (emittedBy runner clock p question) := by
  have hr := run_spec runner clock p question Locals.start rfl
  simp only [emittedBy, resultOf, endState]
  cases hrun : run runner clock (some p) question Locals.start with
  | ok response s =>
    rw [hrun] at hr
    exact iff_of_true hr.2 hr.1.raisesAtStarts
  | error e s =>
    rw [hrun] at hr
    exact hr

theorem stage_protocol (runner : PipelineRunner) (clock : Clock) (p : Publisher)
    (question : String) :
    (Protocol (stageOrder (runner.needsRepair question)) question
        (emittedBy runner clock p question) (resultOf runner clock (some p) question) ∧
      ∀ stage ms error ms', .stageFailed stage ms error ∈ emittedBy runner clock p question →
        .stageCompleted stage ms' ∉ emittedBy runner clock p question) ↔
      RaisesAtStarts p (emittedBy runner clock p question) := by
  rw [← protocol_iff, and_iff_left_iff_imp]
  intro h stage ms error ms' hf
  exact h.exclusive hf

/-- A call as the shipped emitter takes it; dumping the answer may raise. -/
def PublisherCall.callback (dump : BusinessAnswer → Except Raised Json) :
    PublisherCall → Except Raised StageCallback
  | .pipelineStarted question => .ok (.pipelineStarted question)
  | .stageStarted stage => .ok (.stageStarted stage)
  | .stageCompleted stage ms => .ok (.stageCompleted stage ms)
  | .stageFailed stage ms error => .ok (.stageFailed stage ms error)
  | .pipelineCompleted response =>
    match response.businessAnswer with
    | none => .ok (.pipelineCompleted response.status response.error none)
    | some answer =>
      (dump answer).map (fun json => .pipelineCompleted response.status response.error (some json))
  | .pipelineFailed e => .ok (.pipelineFailed ⟨"PipelineExecutionError", e.message⟩)

/-- The shipped emitter raises what building an event raises. -/
def emitterPublisher (dump : BusinessAnswer → Except Raised Json) : Publisher := fun _ call =>
  match call.callback dump with
  | .ok _ => none
  | .error e => some e

/-- `SELECT avatar FROM customers LIMIT 1`: one column of bytes. -/
def avatarSql : SQLGeneration where
  sql := "SELECT avatar FROM customers LIMIT 1;"
  dialect := .postgresql
  sql_nonempty := by decide
  llmMetrics := {
    provider := .groq, model := "llama-3.3-70b-versatile", latencyMs := 412, retryCount := 0
    tokenUsage := { promptTokens := 1204, completionTokens := 18 }, finishReason := .complete }

def avatarColumn : QueryColumn := resultColumn "avatar" (some 17)

def avatarBytes : Value := .other "bytes" "b'\\xff'"

def avatarExecution : SQLExecutionResult where
  status := .success
  executedSql := avatarSql.sql
  queryResult := some { columns := [avatarColumn], rows := [⟨[avatarBytes]⟩], rowCount := 1 }
  statistics := {
    rowsReturned := 1, columnsReturned := 1, databaseName := "querymind", dialect := .postgresql }
  executionError := none

def avatarAnswer : BusinessAnswer where
  answerType := .scalar
  summary := {
    title := "Returned 1 row.", description := "The query returned 1 row and 1 column."
    rowCount := 1, columnCount := 1, containsNumeric := false, containsDates := false }
  formattedTable := {
    columns := [avatarColumn]
    rows := [⟨[{ originalValue := avatarBytes, formattedValue := "b'\\xff'",
                 detectedType := "bytes" }]⟩] }
  statistics := { rowsProcessed := 1, columnsProcessed := 1, valuesFormatted := 1 }
  executionResult := avatarExecution

def avatarRunner : PipelineRunner where
  parse := fun _ => .ok (asksFor "avatar").linkedQueryContext.queryContext
  link := fun _ => .ok (asksFor "avatar").linkedQueryContext
  load := .ok ()
  retrieve := fun _ => .ok (asksFor "avatar")
  compile := fun b dialect => .ok (assemble defaultPromptTemplate defaultBudget b dialect)
  generate := fun _ => .ok avatarSql
  validate := fun gs => .ok ⟨gs, true, [], []⟩
  repair := fun _ _ _ => .error ⟨"LLMTimeoutError", "timed out"⟩
  execute := fun gs _ => (.ok avatarExecution, [gs.sql])
  format := fun _ => .ok avatarAnswer
  dialect := .postgresql

def stoppedClock : Clock := ⟨fun _ => 1, fun _ => 1, 1⟩

def dumpRaises (_ : BusinessAnswer) : Except Raised Json :=
  .error ⟨"PydanticSerializationError", "invalid utf-8 sequence of 1 bytes from index 0"⟩

/-- The formatting stage is told to be over and then to have failed. -/
theorem stage_told_twice :
    ¬ (Protocol (stageOrder (avatarRunner.needsRepair "avatars")) "avatars"
        (emittedBy avatarRunner stoppedClock (emitterPublisher dumpRaises) "avatars")
        (resultOf avatarRunner stoppedClock (some (emitterPublisher dumpRaises)) "avatars") ∧
      ∀ stage ms error ms', .stageFailed stage ms error ∈
          emittedBy avatarRunner stoppedClock (emitterPublisher dumpRaises) "avatars" →
        .stageCompleted stage ms' ∉
          emittedBy avatarRunner stoppedClock (emitterPublisher dumpRaises) "avatars") := by
  rintro ⟨-, h⟩
  have hc : (emittedBy avatarRunner stoppedClock (emitterPublisher dumpRaises) "avatars")[20]? =
      some (.stageCompleted .resultFormatting 1) := rfl
  have hf : (emittedBy avatarRunner stoppedClock (emitterPublisher dumpRaises) "avatars")[22]? =
      some (.stageFailed .resultFormatting 1 ⟨"PydanticSerializationError",
        "invalid utf-8 sequence of 1 bytes from index 0"⟩) := rfl
  exact h _ _ _ _ (List.mem_of_getElem? hf) (List.mem_of_getElem? hc)

end QueryMind.Orchestrator
