import QueryMind.Orchestrator.Pipeline

namespace QueryMind.Orchestrator
open Lib Execution Prompt Repair ResultFormatter Sql Streaming
set_option autoImplicit true

/-- The text a run goes on to execute, and its verdict: as generated, or as repair left it. -/
inductive Decided (runner : PipelineRunner) : GenerationOutcome → Prop
  | generated : runner.generate prompt = .ok g → runner.validate g.toGeneratedSQL = .ok v →
      v.isValid = true → Decided runner ⟨g.toGeneratedSQL, v⟩
  | repaired : runner.generate prompt = .ok g → runner.validate g.toGeneratedSQL = .ok v →
      v.isValid = false → runner.repair g.toGeneratedSQL v bundle = .ok r →
      Decided runner ⟨r.finalSql, r.finalValidationResult⟩

def HandedFor (runner : PipelineRunner) (text : String) : Prop :=
  ∃ outcome, Decided runner outcome ∧
    text ∈ (runner.execute outcome.finalGeneratedSql outcome.finalValidationResult).2

def AllDecided (runner : PipelineRunner) (s : Locals) : Prop :=
  ∀ text ∈ s.handed, HandedFor runner text

/-- Nothing is handed on that was not decided on, and what is returned satisfies a condition. -/
def Careful (runner : PipelineRunner) (x : EStateM ε Locals α) (A : α → Prop) : Prop :=
  Spec (AllDecided runner) x (fun a s => A a ∧ AllDecided runner s)
    (fun _ s => AllDecided runner s)

section Careful
variable {runner : PipelineRunner} {clock : Clock} {publisher : Option Publisher}

theorem Careful.pure {a : α} (h : A a) : Careful runner (pure a : EStateM ε Locals α) A :=
  fun _ hs => ⟨h, hs⟩

theorem Careful.bind {x : EStateM ε Locals α} {f : α → EStateM ε Locals β}
    (hx : Careful runner x A) (hf : ∀ a, A a → Careful runner (f a) B) :
    Careful runner (x >>= f) B := by
  apply Spec.bind hx
  intro a
  apply Spec.given
  exact hf a

theorem Careful.modify {f : Locals → Locals} (h : ∀ s, (f s).handed = s.handed) :
    Careful runner (modify f : EStateM ε Locals PUnit) (fun _ => True) := by
  apply Spec.modify
  intro s hs
  refine ⟨trivial, ?_⟩
  rw [AllDecided, h]
  exact hs

theorem Careful.forget {x : EStateM ε Locals α} (h : Careful runner x A) :
    Careful runner x (fun _ => True) :=
  Spec.imp h (fun _ hs => hs) (fun _ _ hs => ⟨trivial, hs.2⟩) (fun _ _ hs => hs)

theorem fromExcept_careful (x : Except Raised α) :
    Careful runner (fromExcept x) (fun a => x = .ok a) :=
  Spec.fromExcept (fun _ hx _ hs => ⟨hx, hs⟩) (fun _ _ _ hs => hs)

theorem kept_careful {keep : α → Locals → Locals} (x : Except Raised α)
    (h : ∀ a s, (keep a s).handed = s.handed) :
    Careful runner (kept x keep) (fun a => x = .ok a) := by
  apply Careful.bind (fromExcept_careful x)
  intro a ha
  apply Careful.bind (Careful.modify (h a))
  intro _ _
  exact Careful.pure ha

theorem notify_careful (call : PublisherCall) :
    Careful runner (notify publisher call) (fun _ => True) := by
  intro s hs
  cases publisher with
  | none => exact ⟨trivial, hs⟩
  | some publish =>
    simp only [notify]
    cases publish s.emitted call with
    | none => exact ⟨trivial, hs⟩
    | some error => exact hs

theorem timed_careful {work : EStateM Raised Locals α} (hw : Careful runner work A) :
    Careful runner (timed clock publisher stage work) A := by
  apply Careful.bind
  · exact Careful.modify (fun _ => rfl)
  intro _ _
  apply Careful.bind (notify_careful _)
  intro _ _
  apply Careful.bind hw
  intro a ha
  apply Careful.bind
  · exact Careful.modify (fun _ => rfl)
  intro _ _
  apply Careful.bind (notify_careful _)
  intro _ _
  exact Careful.pure ha

theorem tellLlm_careful (latencyMs : Rat) :
    Careful runner (tellLlm publisher latencyMs) (fun _ => True) := by
  apply Careful.bind
  · exact Careful.modify (fun _ => rfl)
  intro _ _
  apply Careful.bind (notify_careful _)
  intro _ _
  exact notify_careful _

theorem generateSql_careful (prompt : CompiledPrompt) :
    Careful runner (generateSql runner prompt) (fun g => runner.generate prompt = .ok g) :=
  kept_careful _ (fun _ _ => rfl)

theorem validateSql_careful (gs : GeneratedSQL) :
    Careful runner (validateSql runner gs) (fun v => runner.validate gs = .ok v) :=
  kept_careful _ (fun _ _ => rfl)

theorem repairSql_careful (gs : GeneratedSQL) (v : SQLValidationResult)
    (bundle : RetrievedKnowledgeBundle) :
    Careful runner (repairSql runner gs v bundle) (fun r => runner.repair gs v bundle = .ok r) :=
  kept_careful _ (fun _ _ => rfl)

theorem validateAndRepair_careful {g : SQLGeneration}
    (hg : runner.generate prompt = .ok g) :
    Careful runner (validateAndRepair runner clock publisher bundle g.toGeneratedSQL)
      (Decided runner) := by
  apply Careful.bind (timed_careful (validateSql_careful _))
  intro v hv
  apply Careful.bind
  · exact Careful.modify (fun _ => rfl)
  intro _ _
  cases hvalid : v.isValid with
  | true =>
    rw [if_pos rfl]
    exact Careful.pure (.generated hg hv hvalid)
  | false =>
    rw [if_neg Bool.false_ne_true]
    apply Careful.bind (timed_careful (repairSql_careful _ _ _))
    intro r hr
    apply Careful.bind
    · exact Careful.modify (fun _ => rfl)
    intro _ _
    exact Careful.pure (.repaired hg hv hvalid hr)

theorem generateAndValidate_careful :
    Careful runner (generateAndValidate runner clock publisher question) (Decided runner) := by
  apply Careful.bind (timed_careful (fromExcept_careful _))
  intro queryContext _
  apply Careful.bind (timed_careful (fromExcept_careful _))
  intro linkedContext _
  apply Careful.bind (timed_careful (fromExcept_careful _))
  intro _ _
  apply Careful.bind (timed_careful (fromExcept_careful _))
  intro bundle _
  apply Careful.bind (timed_careful (fromExcept_careful _))
  intro compiledPrompt _
  apply Careful.bind (timed_careful (generateSql_careful _))
  intro generated hg
  apply Careful.bind (tellLlm_careful _)
  intro _ _
  exact validateAndRepair_careful hg

theorem executeSql_careful (ho : Decided runner outcome) :
    Careful runner (executeSql runner outcome.finalGeneratedSql outcome.finalValidationResult)
      (fun _ => True) := by
  apply Careful.bind (A := fun _ => True)
  · apply Spec.modify
    intro s hs
    refine ⟨trivial, ?_⟩
    intro text ht
    rcases List.mem_append.1 ht with ht | ht
    · exact hs text ht
    · exact ⟨outcome, ho, ht⟩
  intro _ _
  apply Careful.forget
  exact kept_careful _ (fun _ _ => rfl)

theorem finish_careful (businessAnswer : Option BusinessAnswer) :
    Careful runner (finish clock publisher question businessAnswer status error)
      (fun _ => True) := by
  apply Careful.bind (A := fun _ => True)
  · apply Spec.get
    intro s hs
    exact ⟨trivial, hs⟩
  intro _ _
  apply Careful.bind (notify_careful _)
  intro _ _
  exact Careful.pure trivial

theorem executeAndFormat_careful (ho : Decided runner outcome) :
    Careful runner (executeAndFormat runner clock publisher question outcome)
      (fun _ => True) := by
  apply Careful.bind (timed_careful (executeSql_careful ho))
  intro executionResult _
  split
  · exact finish_careful _
  · apply Careful.bind (timed_careful (fromExcept_careful _))
    intro businessAnswer _
    exact finish_careful _

theorem onException_careful (exc : Raised) :
    Careful runner (onException clock publisher exc : EStateM RunRaised Locals α) A := by
  intro s hs
  have ht : Careful runner (tellFailure clock publisher exc (s.wrapped exc)) (fun _ => True) := by
    apply Careful.bind (notify_careful _)
    intro _ _
    exact notify_careful _
  have h := ht s hs
  rw [onException]
  cases hr : tellFailure clock publisher exc (s.wrapped exc) s with
  | ok a s' =>
    rw [hr] at h
    exact h.2
  | error e s' =>
    rw [hr] at h
    exact h

theorem guarded_careful {body : EStateM Raised Locals α} (hb : Careful runner body A) :
    Careful runner (guarded clock publisher body) A := by
  intro s hs
  have h := hb s hs
  rw [guarded]
  cases hr : body s with
  | ok a s' =>
    rw [hr] at h
    exact h
  | error exc s' =>
    rw [hr] at h
    exact onException_careful exc s' h

theorem unguarded_careful {body : EStateM Raised Locals α} (hb : Careful runner body A) :
    Careful runner (unguarded body) A := by
  intro s hs
  have h := hb s hs
  rw [unguarded]
  cases hr : body s with
  | ok a s' =>
    rw [hr] at h
    exact h
  | error e s' =>
    rw [hr] at h
    exact h

variable (clock publisher) in
theorem run_careful (question : String) :
    Careful runner (run runner clock publisher question) (fun _ => True) := by
  apply Careful.bind (unguarded_careful (notify_careful _))
  intro _ _
  apply Careful.bind (guarded_careful generateAndValidate_careful)
  intro outcome ho
  apply Careful.bind
  · exact Careful.modify (fun _ => rfl)
  intro _ _
  exact guarded_careful (executeAndFormat_careful ho)

end Careful

def handedBy (runner : PipelineRunner) (clock : Clock) (publisher : Option Publisher)
    (question : String) : List String :=
  (endState (run runner clock publisher question) .start).handed

theorem handedBy_decided (runner : PipelineRunner) (clock : Clock)
    (publisher : Option Publisher) (question : String) :
    ∀ text ∈ handedBy runner clock publisher question, HandedFor runner text := by
  have hs : AllDecided runner .start := by
    intro text ht
    cases ht
  have h := run_careful clock publisher question _ hs
  rw [handedBy, endState]
  cases hr : run runner clock publisher question .start with
  | ok response s =>
    rw [hr] at h
    exact h.2
  | error e s =>
    rw [hr] at h
    exact h

end QueryMind.Orchestrator
