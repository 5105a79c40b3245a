import QueryMind.Orchestrator.Engine
import QueryMind.Repair.Engine
import QueryMind.Sql.Validation

namespace QueryMind.Orchestrator
open Lib Execution Nlu Prompt Repair ResultFormatter SchemaLinker Sql Streaming
set_option autoImplicit true

/-- What the stages return for a question when each is given what those before it returned. -/
structure Progress where
  queryContext : Option QueryContext
  linkedContext : Option LinkedQueryContext
  loaded : Option Unit
  bundle : Option RetrievedKnowledgeBundle
  compiledPrompt : Option CompiledPrompt
  generated : Option SQLGeneration
  verdict : Option SQLValidationResult
  repaired : Option SQLRepairResult
  executed : Option SQLExecutionResult
  answer : Option BusinessAnswer

namespace Progress

def returned (p : Progress) : PipelineStage → Bool
  | .nlu => p.queryContext.isSome
  | .schemaLinking => p.linkedContext.isSome
  | .businessKnowledge => p.loaded.isSome
  | .retrieval => p.bundle.isSome
  | .promptCompilation => p.compiledPrompt.isSome
  | .sqlGeneration | .llm => p.generated.isSome
  | .sqlValidation => p.verdict.isSome
  | .sqlRepair => p.repaired.isSome
  | .sqlExecution => p.executed.isSome
  | .resultFormatting => p.answer.isSome

def repairRun (p : Progress) : Bool := p.verdict.any (fun v => !v.isValid)

/-- The text to be run with its verdict: of the repair, where there was one. -/
def outcome (p : Progress) : Option GenerationOutcome :=
  p.verdict.bind fun v =>
    if v.isValid then p.generated.map (fun g => ⟨g.toGeneratedSQL, v⟩)
    else p.repaired.map (fun r => ⟨r.finalSql, r.finalValidationResult⟩)

end Progress

namespace Progress

def continued (p : Progress) (executed : Option SQLExecutionResult)
    (answer : Option BusinessAnswer) : Progress := { p with executed, answer }

def Settled (p : Progress) : Prop :=
  ∃ e, p.executed = some e ∧ (e.status = .success → p.answer.isSome = true)

end Progress

section Progress
variable (runner : PipelineRunner) (question : String)

def PipelineRunner.generation : Progress :=
  let queryContext := (runner.parse question).toOption
  let linkedContext := queryContext.bind fun c => (runner.link c).toOption
  let loaded := linkedContext.bind fun _ => runner.load.toOption
  let bundle := loaded.bind fun _ => linkedContext.bind fun c => (runner.retrieve c).toOption
  let compiledPrompt := bundle.bind fun b => (runner.compile b runner.dialect).toOption
  let generated := compiledPrompt.bind fun c => (runner.generate c).toOption
  let verdict := generated.bind fun g => (runner.validate g.toGeneratedSQL).toOption
  let repaired := generated.bind fun g => verdict.bind fun v => bundle.bind fun b =>
    if v.isValid then none else (runner.repair g.toGeneratedSQL v b).toOption
  { queryContext, linkedContext, loaded, bundle, compiledPrompt, generated, verdict, repaired
    executed := none, answer := none }

def PipelineRunner.progress : Progress :=
  let p := runner.generation question
  let executed := p.outcome.bind fun o =>
    (runner.execute o.finalGeneratedSql o.finalValidationResult).1.toOption
  let answer := executed.bind fun e =>
    if e.status = .success then (runner.format e).toOption else none
  p.continued executed answer

end Progress

/-- What a run has to show. -/
structure Account where
  stages : List PipelineStage
  generatedSql : Option GeneratedSQL
  validationResult : Option SQLValidationResult
  repairResult : Option SQLRepairResult
  executionResult : Option SQLExecutionResult
  repairAttempted : Bool
  repairPerformed : Bool

def Progress.account (p : Progress) : Account where
  stages := (stageOrder true).filter p.returned
  generatedSql := (p.repaired.map SQLRepairResult.finalSql).or
    (p.generated.map SQLGeneration.toGeneratedSQL)
  validationResult := (p.repaired.map SQLRepairResult.finalValidationResult).or p.verdict
  repairResult := p.repaired
  executionResult := p.executed
  repairAttempted := p.repairRun
  repairPerformed := p.repaired.any (fun r => r.status = .repaired)

def Locals.account (s : Locals) : Account where
  stages := s.stageTimings.map StageTiming.stage
  generatedSql := s.generatedSql
  validationResult := s.validationResult
  repairResult := s.repairResult
  executionResult := s.executionResult
  repairAttempted := s.repairAttempted
  repairPerformed := s.repairPerformed

def QueryMindResponse.account (r : QueryMindResponse) : Account where
  stages := r.statistics.stageTimings.map StageTiming.stage
  generatedSql := r.generatedSql
  validationResult := r.validationResult
  repairResult := r.repairResult
  executionResult := r.executionResult
  repairAttempted := r.statistics.repairAttempted
  repairPerformed := r.statistics.repairPerformed

def PipelineExecutionError.account (e : PipelineExecutionError) : Account where
  stages := e.stageTimings.map StageTiming.stage
  generatedSql := e.generatedSql
  validationResult := e.validationResult
  repairResult := e.repairResult
  executionResult := e.executionResult
  repairAttempted := e.repairAttempted
  repairPerformed := e.repairPerformed

def Account.add (a : Account) (stage : PipelineStage) : Account :=
  { a with stages := a.stages ++ [stage] }

/-- The publisher raises at most when it is told that the run is over. -/
def Discreet (publisher : Option Publisher) : Prop :=
  ∀ p, publisher = some p → ∀ emitted call, (∀ r, call ≠ .pipelineCompleted r) →
    p emitted call = none

@[simp] theorem toOption_ok (a : α) : (Except.ok a : Except ε α).toOption = some a := rfl

@[simp] theorem toOption_error (e : ε) : (Except.error e : Except ε α).toOption = none := rfl

section Account
variable {runner : PipelineRunner} {clock : Clock} {publisher : Option Publisher}
  {question : String} {a b : Account}

theorem notify_account (h : Discreet publisher) {call : PublisherCall}
    (hc : ∀ r, call ≠ .pipelineCompleted r) {E : Raised → Locals → Prop} :
    Spec (fun s => s.account = a) (notify publisher call) (fun _ s => s.account = a) E := by
  intro s hs
  cases publisher with
  | none => exact hs
  | some p =>
    rw [notify_some, h p rfl _ _ hc]
    exact hs

theorem timed_bind (h : Discreet publisher) {work : EStateM Raised Locals α} {W : α → Prop}
    {b : α → Account} {f : α → EStateM Raised Locals β} {Q : β → Locals → Prop}
    {E : Raised → Locals → Prop}
    (hw : Spec (fun s => s.account = a) work (fun v s => W v ∧ s.account = b v) E)
    (hf : ∀ v, W v → Spec (fun s => s.account = (b v).add stage) (f v) Q E) :
    Spec (fun s => s.account = a) (timed clock publisher stage work >>= f) Q E := by
  apply Spec.bind (Q := fun v s => W v ∧ s.account = (b v).add stage)
  · apply Spec.bind (Q := fun _ s => s.account = a)
    · exact Spec.modify (fun _ hs => hs)
    intro _
    apply Spec.bind (notify_account h (fun _ he => by cases he))
    intro _
    apply Spec.bind hw
    intro v
    apply Spec.given
    intro hv
    apply Spec.bind (Q := fun _ s => s.account = (b v).add stage)
    · apply Spec.modify
      intro s hs
      rw [← hs]
      simp only [Locals.account, addTiming, Account.add, List.map_append, List.map_singleton]
    intro _
    apply Spec.bind (notify_account h (fun _ he => by cases he))
    intro _
    exact Spec.pure (fun _ hs => ⟨hv, hs⟩)
  · intro v
    apply Spec.given
    exact hf v

theorem kept_account {x : Except Raised α} {keep : α → Locals → Locals}
    {g : α → Account → Account} {E : Raised → Locals → Prop}
    (hk : ∀ v s, (keep v s).account = g v s.account)
    (he : ∀ e, x = .error e → ∀ s, s.account = a → E e s) :
    Spec (fun s => s.account = a) (kept x keep) (fun v s => x = .ok v ∧ s.account = g v a) E := by
  apply Spec.bind (Q := fun v s => x = .ok v ∧ s.account = a)
  · exact Spec.fromExcept (fun _ hv _ hs => ⟨hv, hs⟩) he
  intro v
  apply Spec.given
  intro hv
  apply Spec.bind (Q := fun _ s => s.account = g v a)
  · exact Spec.modify (fun s hs => (hk v s).trans (congrArg (g v) hs))
  intro _
  exact Spec.pure (fun _ hs => ⟨hv, hs⟩)

theorem stage_bind (h : Discreet publisher) {x : Except Raised α}
    {f : α → EStateM Raised Locals β} {Q : β → Locals → Prop} {E : Raised → Locals → Prop}
    (he : ∀ e, x = .error e → ∀ s, s.account = a → E e s)
    (hf : ∀ v, x = .ok v → Spec (fun s => s.account = a.add stage) (f v) Q E) :
    Spec (fun s => s.account = a) (timed clock publisher stage (fromExcept x) >>= f) Q E :=
  timed_bind h (b := fun _ => a) (Spec.fromExcept (fun _ hv _ hs => ⟨hv, hs⟩) he) hf

theorem kept_bind (h : Discreet publisher) {x : Except Raised α} {keep : α → Locals → Locals}
    {f : α → EStateM Raised Locals β} {Q : β → Locals → Prop} {E : Raised → Locals → Prop}
    (g : α → Account → Account) (hk : ∀ v s, (keep v s).account = g v s.account)
    (he : ∀ e, x = .error e → ∀ s, s.account = a → E e s)
    (hf : ∀ v, x = .ok v → Spec (fun s => s.account = (g v a).add stage) (f v) Q E) :
    Spec (fun s => s.account = a) (timed clock publisher stage (kept x keep) >>= f) Q E :=
  timed_bind h (kept_account hk he) hf

theorem modify_bind {f : Locals → Locals} {x : EStateM Raised Locals β} {Q : β → Locals → Prop}
    {E : Raised → Locals → Prop} (g : Account → Account) (hk : ∀ s, (f s).account = g s.account)
    (hx : Spec (fun s => s.account = g a) x Q E) :
    Spec (fun s => s.account = a) ((modify f : EStateM Raised Locals PUnit) >>= fun _ => x)
      Q E := by
  apply Spec.bind (Q := fun _ s => s.account = g a)
  · exact Spec.modify (fun s hs => (hk s).trans (congrArg g hs))
  intro _
  exact hx

theorem tellLlm_account (h : Discreet publisher) (latencyMs : Rat) {E : Raised → Locals → Prop} :
    Spec (fun s => s.account = a) (tellLlm publisher latencyMs)
      (fun _ s => s.account = a.add .llm) E := by
  apply Spec.bind (Q := fun _ s => s.account = a.add .llm)
  · apply Spec.modify
    intro s hs
    rw [← hs]
    simp only [Locals.account, addTiming, Account.add, List.map_append, List.map_singleton]
  intro _
  apply Spec.bind (notify_account h (fun _ he => by cases he))
  intro _
  exact notify_account h (fun _ he => by cases he)

theorem enter_account (o : GenerationOutcome) (s : Locals) : (s.enter o).account =
    { s.account with
      generatedSql := some o.finalGeneratedSql
      validationResult := some o.finalValidationResult } := rfl

theorem generateAndValidate_account (h : Discreet publisher) :
    Spec (fun s => s.account = Locals.start.account)
      (generateAndValidate runner clock publisher question)
      (fun o s => (runner.generation question).outcome = some o ∧
        (s.enter o).account = (runner.generation question).account)
      (fun _ s => (runner.generation question).outcome = none ∧
        s.account = (runner.generation question).account) := by
  rw [PipelineRunner.generation]
  apply stage_bind h
  · intro e he s hs
    rw [hs, he]
    exact ⟨rfl, rfl⟩
  intro queryContext hparse
  simp only [hparse, toOption_ok, Option.bind_some]
  apply stage_bind h
  · intro e he s hs
    rw [hs, he]
    exact ⟨rfl, rfl⟩
  intro linkedContext hlink
  simp only [hlink, toOption_ok, Option.bind_some]
  apply stage_bind h
  · intro e he s hs
    rw [hs, he]
    exact ⟨rfl, rfl⟩
  intro _ hload
  simp only [hload, toOption_ok, Option.bind_some]
  apply stage_bind h
  · intro e he s hs
    rw [hs, he]
    exact ⟨rfl, rfl⟩
  intro bundle hretrieve
  simp only [hretrieve, toOption_ok, Option.bind_some]
  apply stage_bind h
  · intro e he s hs
    rw [hs, he]
    exact ⟨rfl, rfl⟩
  intro compiledPrompt hcompile
  simp only [hcompile, toOption_ok, Option.bind_some]
  apply kept_bind h (fun g a => { a with generatedSql := some g.toGeneratedSQL })
  · exact fun _ _ => rfl
  · intro e he s hs
    rw [hs, he]
    exact ⟨rfl, rfl⟩
  intro generated hgenerate
  simp only [hgenerate, toOption_ok, Option.bind_some]
  apply Spec.bind (tellLlm_account h _)
  intro _
  apply kept_bind h (fun v a => { a with validationResult := some v })
  · exact fun _ _ => rfl
  · intro e he s hs
    rw [hs, he]
    exact ⟨rfl, rfl⟩
  intro verdict hvalidate
  simp only [hvalidate, toOption_ok, Option.bind_some]
  apply modify_bind (fun a => { a with repairAttempted := !verdict.isValid })
  · exact fun _ => rfl
  cases hvalid : verdict.isValid with
  | true =>
    apply Spec.pure
    intro s hs
    rw [enter_account, hs]
    simp only [Progress.outcome, Progress.account, Progress.repairRun, Option.any_some,
      Option.bind_some, hvalid, if_true]
    exact ⟨rfl, rfl⟩
  | false =>
    simp only [Progress.outcome, Progress.account, Progress.repairRun, Option.any_some,
      Option.bind_some, hvalid, Bool.false_eq_true, if_false]
    apply kept_bind h (fun r a => { a with repairResult := some r })
    · exact fun _ _ => rfl
    · intro e he s hs
      rw [hs, he]
      exact ⟨rfl, rfl⟩
    intro repairResult hrepair
    apply modify_bind (fun a => { a with repairPerformed := repairResult.status = .repaired })
    · exact fun _ => rfl
    apply Spec.pure
    intro s hs
    rw [enter_account, hs, hrepair]
    exact ⟨rfl, rfl⟩

def Refuses (publisher : Option Publisher) (r : QueryMindResponse) : Prop :=
  ∃ p emitted, publisher = some p ∧ (p emitted (.pipelineCompleted r)).isSome = true

theorem notify_completed (r : QueryMindResponse) :
    Spec (fun s => s.account = a) (notify publisher (.pipelineCompleted r))
      (fun _ s => s.account = a) (fun _ s => Refuses publisher r ∧ s.account = a) := by
  intro s hs
  cases publisher with
  | none => exact hs
  | some p =>
    rw [notify_some]
    cases hp : p s.emitted (.pipelineCompleted r) with
    | none => exact hs
    | some e => exact ⟨⟨p, s.emitted, rfl, by rw [hp]; rfl⟩, hs⟩

theorem finish_account (answer : Option BusinessAnswer) (status : PipelineStatus)
    (error : Option String) :
    Spec (fun s => s.account = a) (finish clock publisher question answer status error)
      (fun r s => (r.account = a ∧ r.businessAnswer = answer ∧ r.status = status) ∧ s.account = a)
      (fun _ s => (∃ r, r.businessAnswer = answer ∧ Refuses publisher r) ∧ s.account = a) := by
  apply Spec.bind (Q := fun (s' : Locals) s => s'.account = a ∧ s.account = a)
  · exact Spec.get (fun _ hs => ⟨hs, hs⟩)
  intro s
  apply Spec.given
  intro hs
  apply Spec.bind ((notify_completed _).imp (fun _ h => h) (fun _ _ h => h)
    (fun _ _ h => ⟨⟨_, rfl, h.1⟩, h.2⟩))
  intro _
  exact Spec.pure (fun _ h => ⟨⟨hs, rfl, rfl⟩, h⟩)

theorem account_continued (p : Progress) (e : Option SQLExecutionResult)
    (answer : Option BusinessAnswer) (hp : p.executed = none) (hq : p.answer = none) :
    (p.continued e answer).account =
      { p.account with
        stages := p.account.stages ++ (if e.isSome then [.sqlExecution] else []) ++
          if answer.isSome then [.resultFormatting] else []
        executionResult := e } := by
  have hs : (generationStages true).filter (p.continued e answer).returned =
      (generationStages true).filter p.returned := by
    apply List.filter_congr
    intro stage hm
    cases stage with
    | sqlExecution => exact absurd hm (by decide)
    | resultFormatting => exact absurd hm (by decide)
    | _ => rfl
  have hlast : [.sqlExecution, .resultFormatting].filter
      (p.continued e answer).returned =
        (if e.isSome then [.sqlExecution] else []) ++
          if answer.isSome then [.resultFormatting] else [] := by
    cases e <;> cases answer <;> rfl
  have hnone : [.sqlExecution, .resultFormatting].filter p.returned = [] := by
    simp [Progress.returned, hp, hq]
  simp only [Progress.account, stageOrder, List.filter_append, hs, hlast, hnone, List.append_nil,
    List.append_assoc]
  rfl

theorem account_stopped (p : Progress) (hp : p.executed = none) (hq : p.answer = none) :
    (p.continued none none).account = p.account := by
  cases p
  cases hp
  cases hq
  rfl

theorem account_executed (p : Progress) (e : SQLExecutionResult) (hp : p.executed = none)
    (hq : p.answer = none) : (p.continued (some e) none).account =
      Account.add { p.account with executionResult := some e } .sqlExecution := by
  rw [account_continued p _ _ hp hq]
  exact congrArg (fun l => { p.account with stages := l, executionResult := some e })
    (List.append_nil _)

theorem account_answered (p : Progress) (e : SQLExecutionResult) (answer : BusinessAnswer)
    (hp : p.executed = none) (hq : p.answer = none) :
    (p.continued (some e) (some answer)).account =
      Account.add (Account.add { p.account with executionResult := some e } .sqlExecution)
        .resultFormatting := by
  rw [account_continued p _ _ hp hq]
  rfl

/-- What a run shows when it is left by an exception, and why it may be. -/
structure Halted (publisher : Option Publisher) (p : Progress) (a : Account) : Prop where
  account : a = p.account
  why : p.answer = none ∧ ¬ p.Settled ∨ ∃ r, r.businessAnswer = p.answer ∧ Refuses publisher r

structure Responded (p : Progress) (r : QueryMindResponse) : Prop where
  account : r.account = p.account
  settled : p.Settled
  answer : r.businessAnswer = p.answer
  status : r.status = .success ↔ p.answer.isSome = true

theorem executeSql_account (gs : GeneratedSQL) (v : SQLValidationResult)
    {E : Raised → Locals → Prop}
    (he : ∀ e, (runner.execute gs v).1 = .error e → ∀ s, s.account = a → E e s) :
    Spec (fun s => s.account = a) (executeSql runner gs v)
      (fun r s => (runner.execute gs v).1 = .ok r ∧
        s.account = { a with executionResult := some r }) E := by
  apply modify_bind id
  · exact fun _ => rfl
  exact kept_account (g := fun r a => { a with executionResult := some r }) (fun _ _ => rfl) he

theorem executeAndFormat_account (h : Discreet publisher) {o : GenerationOutcome}
    (ho : (runner.generation question).outcome = some o) :
    Spec (fun s => s.account = (runner.generation question).account)
      (executeAndFormat runner clock publisher question o)
      (fun r _ => Responded (runner.progress question) r)
      (fun _ s => Halted publisher (runner.progress question) s.account) := by
  simp only [PipelineRunner.progress, ho, Option.bind_some]
  apply timed_bind h (executeSql_account _ _ _)
  · intro e he
    simp only [he, toOption_ok, Option.bind_some]
    by_cases hs : e.status = .success
    · simp only [hs, ne_eq, not_true_eq_false, if_false, if_true]
      apply stage_bind h
      · intro exc hx s hacc
        simp only [hx, toOption_error]
        refine ⟨hacc.trans (account_executed _ e rfl rfl).symm, .inl ⟨rfl, ?_⟩⟩
        intro ⟨e', he', ha⟩
        cases he'
        cases ha hs
      intro answer hformat
      simp only [hformat, toOption_ok]
      apply (finish_account _ _ _).imp (fun _ h => h)
      · intro r s hr
        obtain ⟨hacc, ha, hst⟩ := hr.1
        have hacc := hacc.trans (account_answered _ e answer rfl rfl).symm
        exact ⟨hacc, ⟨e, rfl, fun _ => rfl⟩, ha, iff_of_true hst rfl⟩
      · intro exc s hr
        exact ⟨hr.2.trans (account_answered _ e answer rfl rfl).symm, .inr hr.1⟩
    · simp only [ne_eq, hs, not_false_eq_true, if_true, if_false]
      apply (finish_account _ _ _).imp (fun _ h => h)
      · intro r s hr
        obtain ⟨hacc, ha, hst⟩ := hr.1
        have hacc := hacc.trans (account_executed _ e rfl rfl).symm
        refine ⟨hacc, ⟨e, rfl, fun he => absurd he hs⟩, ha, ?_⟩
        rw [hst]
        exact iff_of_false (fun h => by cases h) (fun h => by cases h)
      · intro exc s hr
        exact ⟨hr.2.trans (account_executed _ e rfl rfl).symm, .inr hr.1⟩
  · intro e he s hs
    simp only [he, toOption_error, Option.bind_none]
    refine ⟨hs.trans (account_stopped _ rfl rfl).symm, .inl ⟨rfl, ?_⟩⟩
    intro ⟨e, he, _⟩
    cases he

theorem guarded_account (h : Discreet publisher) {body : EStateM Raised Locals α}
    {p : Progress} (hb : Spec P body Q (fun _ s => Halted publisher p s.account)) :
    Spec P (guarded clock publisher body) Q
      (fun e _ => ∃ w, e = .execution w ∧ Halted publisher p w.account) := by
  intro s hs
  have hb := hb s hs
  rw [guarded]
  cases hr : body s with
  | ok a s' =>
    rw [hr] at hb
    exact hb
  | error exc s' =>
    rw [hr] at hb
    have ht : Spec (fun s => s.account = s'.account)
        (tellFailure clock publisher exc (s'.wrapped exc)) (fun _ s => s.account = s'.account)
        (fun _ _ => False) := by
      apply Spec.bind (notify_account h (fun _ he => by cases he))
      intro _
      exact notify_account h (fun _ he => by cases he)
    have ht := ht s' rfl
    dsimp only
    rw [onException]
    cases hf : tellFailure clock publisher exc (s'.wrapped exc) s' with
    | ok _ s'' => exact ⟨_, rfl, hb⟩
    | error e s'' =>
      rw [hf] at ht
      exact ht.elim

variable (runner clock question) in
/-- A run that only its last event can disturb returns its response or wraps an exception. -/
theorem run_progress (h : Discreet publisher) :
    Spec (fun s => s = Locals.start) (run runner clock publisher question)
      (fun r _ => Responded (runner.progress question) r)
      (fun e _ => ∃ w, e = .execution w ∧
        Halted publisher (runner.progress question) w.account) := by
  apply Spec.bind (Q := fun _ s => s.account = Locals.start.account)
  · intro s hs
    have hn : Spec (fun s => s.account = Locals.start.account)
        (notify publisher (.pipelineStarted question))
        (fun _ s => s.account = Locals.start.account) (fun _ _ => False) :=
      notify_account h (fun _ he => by cases he)
    have hn := hn s (congrArg Locals.account hs)
    rw [unguarded]
    cases hr : notify publisher (.pipelineStarted question) s with
    | ok _ s' =>
      rw [hr] at hn
      exact hn
    | error e s' =>
      rw [hr] at hn
      exact hn.elim
  intro _
  apply Spec.bind (guarded_account h (generateAndValidate_account h |>.imp (fun _ hs => hs)
    (fun _ _ hq => hq) _))
  · intro o
    apply Spec.given
    intro ho
    apply Spec.bind (Q := fun _ s => s.account = (runner.generation question).account)
    · exact Spec.modify (fun _ hs => hs)
    intro _
    exact guarded_account h (executeAndFormat_account h ho)
  · intro _ s hs
    simp only [PipelineRunner.progress, hs.1, Option.bind_none]
    refine ⟨hs.2.trans (account_stopped _ rfl rfl).symm, .inl ⟨rfl, ?_⟩⟩
    intro hw
    obtain ⟨e, he, _⟩ := hw
    cases he

end Account

/-- A verdict names the text it is about, also after a repair. -/
structure PipelineRunner.Labels (runner : PipelineRunner) : Prop where
  validate : ∀ gs v, runner.validate gs = .ok v → v.generatedSql = gs
  repair : ∀ gs v bundle r, v.generatedSql = gs → runner.repair gs v bundle = .ok r →
    r.finalValidationResult.generatedSql = r.finalSql

theorem validate_labels (repr : String → String) (engine : SQLValidationEngine)
    (h : engine.validate repr gs = .ok report) : report.generatedSql = gs := by
  simp only [SQLValidationEngine.validate] at h
  split at h
  · cases h
    rfl
  · cases h
  · split at h
    · cases h
    · cases h
      rfl

theorem repair_labels {engine : SQLRepairEngine ε}
    (hv : ∀ n gs v, engine.validate n gs = .ok v → v.generatedSql = gs)
    (h : v.generatedSql = gs) (hr : (engine.repair gs v b).result = .ok r) :
    r.finalValidationResult.generatedSql = r.finalSql := by
  have hend := ((repair_ended engine gs v b).2 r hr).1.chained
  by_cases hn : r.history = []
  · have hs : r.finalSql = gs := hend.untouched hn
    have hf : r.finalValidationResult = v := by
      have hf := hend.verdict
      simp only [hn, List.getLast?_nil, Option.map_none, Option.getD_none] at hf
      exact hf
    rw [hs, hf]
    exact h
  · obtain ⟨n, hj⟩ := hend.judged hn
    exact hv n _ _ hj

/-- Statements are validated, and repaired, by the engines of these packages. -/
def PipelineRunner.Shipped (runner : PipelineRunner) : Prop :=
  ∃ (repr : String → String) (validator : SQLValidationEngine) (repairer : SQLRepairEngine Raised),
    (∀ gs v, runner.validate gs = .ok v →
      ∃ report, validator.validate repr gs = .ok report ∧ v = report.toSQLValidationResult) ∧
    (runner.repair = fun gs v b => (repairer.repair gs v b).result) ∧
    ∀ n gs v, repairer.validate n gs = .ok v →
      ∃ report, validator.validate repr gs = .ok report ∧ v = report.toSQLValidationResult

theorem PipelineRunner.Shipped.labels {runner : PipelineRunner} (h : runner.Shipped) :
    runner.Labels := by
  obtain ⟨repr, validator, repairer, hv, hr, hj⟩ := h
  constructor
  · intro gs v h
    obtain ⟨report, hreport, rfl⟩ := hv gs v h
    exact validate_labels repr validator hreport
  · intro gs v bundle r h hrep
    rw [hr] at hrep
    apply repair_labels _ h hrep
    intro n gs v hn
    obtain ⟨report, hreport, rfl⟩ := hj n gs v hn
    exact validate_labels repr validator hreport

section Progress
variable {runner : PipelineRunner} {question : String}

theorem generation_verdict (h : (runner.generation question).verdict = some v) :
    ∃ g, (runner.generation question).generated = some g ∧
      runner.validate g.toGeneratedSQL = .ok v := by
  obtain ⟨g, hg, hv⟩ := Option.bind_eq_some_iff.1 h
  exact ⟨g, hg, toOption_eq_some.1 hv⟩

theorem generation_returned (h : (runner.generation question).verdict.isSome = true) :
    ∀ stage ∈ generationStages false, (runner.generation question).returned stage = true := by
  have hgenerated : (runner.generation question).generated.isSome = true :=
    Option.isSome_of_isSome_bind h
  have hcompiled : (runner.generation question).compiledPrompt.isSome = true :=
    Option.isSome_of_isSome_bind hgenerated
  have hbundle : (runner.generation question).bundle.isSome = true :=
    Option.isSome_of_isSome_bind hcompiled
  have hloaded : (runner.generation question).loaded.isSome = true :=
    Option.isSome_of_isSome_bind hbundle
  have hlinked : (runner.generation question).linkedContext.isSome = true :=
    Option.isSome_of_isSome_bind hloaded
  have hparsed : (runner.generation question).queryContext.isSome = true :=
    Option.isSome_of_isSome_bind hlinked
  intro stage hs
  cases stage with
  | nlu => exact hparsed
  | schemaLinking => exact hlinked
  | businessKnowledge => exact hloaded
  | retrieval => exact hbundle
  | promptCompilation => exact hcompiled
  | sqlGeneration => exact hgenerated
  | llm => exact hgenerated
  | sqlValidation => exact h
  | sqlRepair => exact absurd hs (by decide)
  | sqlExecution => exact absurd hs (by decide)
  | resultFormatting => exact absurd hs (by decide)

theorem outcome_repaired {p : Progress} (h : p.outcome.isSome = true) (hr : p.repairRun = true) :
    p.repaired.isSome = true := by
  rw [Progress.outcome] at h
  rw [Progress.repairRun] at hr
  cases hv : p.verdict with
  | none =>
    rw [hv] at hr
    cases hr
  | some v =>
    rw [hv, Option.any_some, Bool.not_eq_true'] at hr
    simp only [hv, Option.bind_some, hr, Bool.false_eq_true, if_false, Option.isSome_map] at h
    exact h

theorem answer_iff : (runner.progress question).answer.isSome = true ↔
    (∀ stage ∈ stageOrder (runner.progress question).repairRun,
        (runner.progress question).returned stage = true) ∧
      ∃ e, (runner.progress question).executed = some e ∧ e.status = .success := by
  constructor
  · intro h
    have he : (runner.progress question).executed.isSome = true := Option.isSome_of_isSome_bind h
    have ho : (runner.generation question).outcome.isSome = true :=
      Option.isSome_of_isSome_bind he
    have hv : (runner.generation question).verdict.isSome = true := Option.isSome_of_isSome_bind ho
    have hgen := generation_returned hv
    constructor
    · intro stage hs
      cases stage with
      | nlu => exact hgen .nlu (by decide)
      | schemaLinking => exact hgen .schemaLinking (by decide)
      | businessKnowledge => exact hgen .businessKnowledge (by decide)
      | retrieval => exact hgen .retrieval (by decide)
      | promptCompilation => exact hgen .promptCompilation (by decide)
      | llm => exact hgen .llm (by decide)
      | sqlGeneration => exact hgen .sqlGeneration (by decide)
      | sqlValidation => exact hgen .sqlValidation (by decide)
      | sqlRepair =>
        apply outcome_repaired ho
        cases hr : (runner.generation question).repairRun with
        | true => rfl
        | false =>
          have hr : (runner.progress question).repairRun = false := hr
          rw [hr] at hs
          exact absurd hs (by decide)
      | sqlExecution => exact he
      | resultFormatting => exact h
    · obtain ⟨e, he⟩ := Option.isSome_iff_exists.1 he
      refine ⟨e, he, ?_⟩
      by_contra hn
      have ha : (runner.progress question).answer = none := by
        show (runner.progress question).executed.bind _ = none
        rw [he, Option.bind_some, if_neg hn]
      rw [ha] at h
      cases h
  · intro h
    apply h.1 .resultFormatting
    exact List.mem_append_right _ (List.mem_cons_of_mem _ (List.mem_singleton_self _))

theorem generation_repaired (h : (runner.generation question).repaired = some r) :
    ∃ (g : SQLGeneration) (v : SQLValidationResult) (b : RetrievedKnowledgeBundle),
      (runner.generation question).verdict = some v ∧ v.isValid = false ∧
      runner.validate g.toGeneratedSQL = .ok v ∧
      runner.repair g.toGeneratedSQL v b = .ok r := by
  obtain ⟨g, hg, h⟩ := Option.bind_eq_some_iff.1 h
  obtain ⟨v, hv, h⟩ := Option.bind_eq_some_iff.1 h
  obtain ⟨b, _, h⟩ := Option.bind_eq_some_iff.1 h
  obtain ⟨g', hg', hv'⟩ := generation_verdict hv
  cases hg.symm.trans hg'
  split at h
  · cases h
  · rename_i hvalid
    exact ⟨g, v, b, hv, Bool.not_eq_true _ ▸ hvalid, hv', toOption_eq_some.1 h⟩

theorem repairRun_eq (h : (runner.generation question).outcome.isSome = true) :
    (runner.generation question).repairRun = (runner.generation question).repaired.isSome := by
  cases hr : (runner.generation question).repairRun with
  | true => exact (outcome_repaired h hr).symm
  | false =>
    cases hx : (runner.generation question).repaired with
    | none => rfl
    | some x =>
      obtain ⟨g, v, b, hv, hvalid, _⟩ := generation_repaired hx
      rw [Progress.repairRun, hv, Option.any_some, hvalid] at hr
      cases hr

/-- A text and a verdict that belong together. -/
inductive Belong (runner : PipelineRunner) (p : Progress) :
    GeneratedSQL → SQLValidationResult → Prop
  | generated : p.repaired = none → runner.validate gs = .ok v → Belong runner p gs v
  | repaired : p.repaired = some r → Belong runner p r.finalSql r.finalValidationResult

theorem Belong.label (h : Belong runner (runner.progress question) gs v)
    (hl : runner.Labels) : v.generatedSql = gs := by
  cases h with
  | generated _ hv => exact hl.validate gs v hv
  | repaired hr =>
    obtain ⟨g, v', b, _, _, hv, hrep⟩ := generation_repaired hr
    exact hl.repair _ v' b _ (hl.validate _ _ hv) hrep

theorem account_belong (hg : (runner.progress question).account.generatedSql = some gs)
    (hv : (runner.progress question).account.validationResult = some v) :
    Belong runner (runner.progress question) gs v := by
  simp only [Progress.account] at hg hv
  cases hr : (runner.progress question).repaired with
  | none =>
    rw [hr, Option.map_none, Option.none_or] at hg hv
    obtain ⟨g, hgen, hval⟩ := generation_verdict hv
    have hgen : (runner.progress question).generated = some g := hgen
    rw [hgen, Option.map_some] at hg
    cases hg
    exact .generated hr hval
  | some r =>
    rw [hr, Option.map_some, Option.some_or] at hg hv
    cases hg
    cases hv
    exact .repaired hr

/-- An answer that says of the stages of its question what they did. -/
structure Faithful (runner : PipelineRunner) (p : Progress) (r : QueryMindResponse) : Prop where
  success : r.status = .success ↔ (∀ stage ∈ stageOrder p.repairRun, p.returned stage = true) ∧
    ∃ e, p.executed = some e ∧ e.status = .success
  account : r.account = p.account
  answer : r.businessAnswer = p.answer
  belong : ∀ gs v, r.generatedSql = some gs → r.validationResult = some v → Belong runner p gs v
  label : runner.Labels → ∀ gs v, r.generatedSql = some gs → r.validationResult = some v →
    v.generatedSql = gs
  shipped : runner.Shipped → ∀ gs v, r.generatedSql = some gs → r.validationResult = some v →
    v.generatedSql = gs

end Progress

/-- Whatever the stages return or raise, the answer reports how far they came. -/
theorem ask_faithful (runner : PipelineRunner) (clock : Clock) (question : String) :
    Faithful runner (runner.progress question) (ask runner clock none question) := by
  have hd : Discreet none := fun _ h => by cases h
  have hrun := run_progress runner clock question hd Locals.start rfl
  have h : (ask runner clock none question).account = (runner.progress question).account ∧
      (ask runner clock none question).businessAnswer = (runner.progress question).answer ∧
      ((ask runner clock none question).status = .success ↔
        (runner.progress question).answer.isSome = true) := by
    rw [ask, resultOf]
    cases hr : run runner clock none question Locals.start with
    | ok r s =>
      rw [hr] at hrun
      exact ⟨hrun.account, hrun.answer, hrun.status⟩
    | error e s =>
      rw [hr] at hrun
      obtain ⟨w, rfl, hacc, hwhy⟩ := hrun
      rcases hwhy with ⟨ha, _⟩ | ⟨_, _, _, _, hp, _⟩
      · refine ⟨hacc, ha.symm, ?_⟩
        rw [ha]
        exact iff_of_false (fun h => by cases h) (fun h => by cases h)
      · cases hp
  obtain ⟨hacc, hans, hst⟩ := h
  have hb : ∀ gs v, (ask runner clock none question).generatedSql = some gs →
      (ask runner clock none question).validationResult = some v →
      Belong runner (runner.progress question) gs v := by
    intro gs v hg hv
    apply account_belong
    · rw [← hacc]
      exact hg
    · rw [← hacc]
      exact hv
  exact {
    success := hst.trans answer_iff
    account := hacc
    answer := hans
    belong := hb
    label := fun hl gs v hg hv => (hb gs v hg hv).label hl
    shipped := fun hs gs v hg hv => (hb gs v hg hv).label hs.labels }

end QueryMind.Orchestrator
