import QueryMind.Lib.Hoare
import QueryMind.Repair.Prompt
import Mathlib.Data.Finset.Dedup

namespace QueryMind.Repair
open Lib Llm Prompt Sql
set_option autoImplicit true

structure RepairStrategy where
  maxAttempts : Nat
  maxAttempts_pos : 0 < maxAttempts

def defaultStrategy : RepairStrategy := ⟨3, by decide⟩

def errorCodes (attempt : RepairAttempt) : Finset String :=
  (attempt.validationResult.errors.map ValidationIssue.code).toFinset

def madeProgress (previous current : RepairAttempt) : Bool :=
  errorCodes current ≠ errorCodes previous

def RepairStrategy.shouldContinue (s : RepairStrategy) (history : List RepairAttempt) : Bool :=
  match history.reverse with
  | [] => false
  | current :: earlier =>
    if current.success then false
    else if s.maxAttempts ≤ history.length then false
    else
      match earlier with
      | [] => true
      | previous :: _ => madeProgress previous current

def RepairStrategy.finalStatus (s : RepairStrategy) (history : List RepairAttempt) :
    RepairStatus :=
  match history.reverse with
  | [] => .unrepairable
  | current :: earlier =>
    if current.success then .repaired
    else if earlier.head?.any (fun previous => !madeProgress previous current) then .noProgress
    else if s.maxAttempts ≤ history.length then .maxAttemptsReached
    else .unrepairable

/-- The injected collaborators; what they answer may differ from attempt to attempt. -/
structure SQLRepairEngine (ε : Type) where
  strategy : RepairStrategy
  llm : Nat → CompiledPrompt → Except ε LLMResponse
  extract : LLMResponse → SQLDialect → Except ε GeneratedSQL
  validate : Nat → GeneratedSQL → Except ε SQLValidationResult

/-- What the loop carries from one attempt to the next. -/
structure RepairState where
  history : List RepairAttempt
  currentSql : GeneratedSQL
  currentValidation : SQLValidationResult

namespace SQLRepairEngine

def attempt (engine : SQLRepairEngine ε) (bundle : RetrievedKnowledgeBundle)
    (attemptNumber : Nat) (s : RepairState) : Except ε RepairState := do
  let plan := plan s.currentValidation
  let compiledPrompt := buildPrompt bundle s.currentSql s.currentValidation plan
  let llmResponse ← engine.llm attemptNumber compiledPrompt
  let repairedSql ← engine.extract llmResponse s.currentSql.dialect
  let newValidation ← engine.validate attemptNumber repairedSql
  return {
    history := s.history ++ [{
      attemptNumber
      repairReason := plan.primaryReason
      inputSql := s.currentSql.sql
      repairedSql := repairedSql.sql
      validationResult := newValidation
      promptVersion := compiledPrompt.template.version
      llmMetrics := llmResponse.metrics
      success := newValidation.isValid }]
    currentSql := repairedSql
    currentValidation := newValidation }

end SQLRepairEngine

/-- The last attempts have the same error codes, whatever the order they were reported in. -/
def Stalled (history : List RepairAttempt) : Prop :=
  ∃ earlier previous current, history = earlier ++ [previous, current] ∧
    errorCodes previous = errorCodes current

theorem stalled_reverse : Stalled history ↔ ∃ current previous earlier,
    history.reverse = current :: previous :: earlier ∧ madeProgress previous current = false := by
  constructor
  · rintro ⟨earlier, previous, current, rfl, he⟩
    refine ⟨current, previous, earlier.reverse, List.reverse_append, ?_⟩
    simp only [madeProgress, he, ne_eq, not_true_eq_false, decide_false]
  · rintro ⟨current, previous, earlier, hr, hm⟩
    refine ⟨earlier.reverse, previous, current, ?_, ?_⟩
    · rw [← List.reverse_reverse history, hr, List.reverse_cons, List.reverse_cons,
        List.append_assoc, List.singleton_append]
    · simp only [madeProgress, ne_eq, decide_eq_false_iff_not, not_not] at hm
      exact hm.symm

theorem shouldContinue_length {s : RepairStrategy} (h : s.shouldContinue history = true) :
    history.length < s.maxAttempts := by
  rw [RepairStrategy.shouldContinue] at h
  split at h
  · cases h
  · split at h
    · cases h
    · split at h
      · cases h
      · rename_i hm
        exact not_le.1 hm

theorem shouldContinue_failed {s : RepairStrategy}
    (h : s.shouldContinue (history ++ [current]) = true) : current.success = false := by
  rw [RepairStrategy.shouldContinue, List.reverse_append, List.reverse_singleton,
    List.singleton_append] at h
  cases hs : current.success with
  | false => rfl
  | true => simp only [hs, if_true, Bool.false_eq_true] at h

theorem shouldContinue_stop {s : RepairStrategy}
    (h : s.shouldContinue (history ++ [current]) = false) :
    current.success = true ∨ s.maxAttempts ≤ (history ++ [current]).length ∨
      Stalled (history ++ [current]) := by
  rw [stalled_reverse]
  rw [RepairStrategy.shouldContinue] at h
  rw [List.reverse_append, List.reverse_singleton, List.singleton_append] at h ⊢
  cases hs : current.success with
  | true => exact .inl rfl
  | false =>
    apply Or.inr
    simp only [hs, Bool.false_eq_true, if_false] at h
    split at h
    · rename_i hm
      exact .inl hm
    · split at h
      · cases h
      · rename_i previous earlier he
        rw [he]
        exact .inr ⟨current, previous, earlier, rfl, h⟩

theorem finalStatus_repaired {s : RepairStrategy} : s.finalStatus history = .repaired ↔
    ∃ last, history.getLast? = some last ∧ last.success = true := by
  rw [RepairStrategy.finalStatus, List.getLast?_eq_head?_reverse]
  cases history.reverse with
  | nil => simp only [reduceCtorEq, List.head?_nil, false_and, exists_false]
  | cons current earlier =>
    simp only [List.head?_cons, Option.some.injEq, exists_eq_left']
    split
    · rename_i h
      simp only [h]
    · rename_i h
      simp only [h, Bool.false_eq_true, iff_false]
      split
      · intro he
        cases he
      · split <;> (intro he; cases he)

theorem finalStatus_noProgress {s : RepairStrategy} (h : s.finalStatus history ≠ .repaired) :
    s.finalStatus history = .noProgress ↔ Stalled history := by
  rw [stalled_reverse]
  rw [RepairStrategy.finalStatus] at h ⊢
  cases hr : history.reverse with
  | nil => simp only [reduceCtorEq, false_and, exists_false]
  | cons current earlier =>
    simp only [hr] at h ⊢
    split at h
    · exact absurd rfl h
    · rename_i hs
      rw [if_neg hs]
      cases earlier with
      | nil =>
        simp only [List.head?_nil, Option.any_none, Bool.false_eq_true, if_false, List.cons.injEq,
          reduceCtorEq, and_false, false_and, exists_false, iff_false]
        split <;> (intro he; cases he)
      | cons previous earlier =>
        simp only [List.head?_cons, Option.any_some, Bool.not_eq_true', List.cons.injEq]
        constructor
        · intro he
          split at he
          · rename_i hm
            exact ⟨current, previous, earlier, ⟨rfl, rfl, rfl⟩, hm⟩
          · split at he <;> cases he
        · rintro ⟨_, _, _, ⟨rfl, rfl, rfl⟩, hm⟩
          exact if_pos hm

theorem finalStatus_maxAttempts {s : RepairStrategy} (h₁ : s.finalStatus history ≠ .repaired)
    (h₂ : s.finalStatus history ≠ .noProgress) :
    s.finalStatus history = .maxAttemptsReached ↔ s.maxAttempts ≤ history.length := by
  rw [RepairStrategy.finalStatus] at h₁ h₂ ⊢
  cases hr : history.reverse with
  | nil =>
    have hp := s.maxAttempts_pos
    rw [List.reverse_eq_nil_iff.1 hr]
    simp only [reduceCtorEq, List.length_nil, false_iff, not_le]
    exact hp
  | cons current earlier =>
    simp only [hr] at h₁ h₂ ⊢
    split at h₁
    · exact absurd rfl h₁
    · rename_i hs
      rw [if_neg hs] at h₂ ⊢
      split at h₂
      · exact absurd rfl h₂
      · rename_i hm
        rw [if_neg hm]
        split
        · rename_i hl
          exact iff_of_true rfl hl
        · rename_i hl
          exact iff_of_false (by intro he; cases he) hl

/-- One attempt, recorded: what went in, what came out, and its verdict. -/
structure Attempted (engine : SQLRepairEngine ε) (attemptNumber : Nat) (s : RepairState)
    (a : RepairAttempt) (s' : RepairState) : Prop where
  history : s'.history = s.history ++ [a]
  number : a.attemptNumber = attemptNumber
  input : a.inputSql = s.currentSql.sql
  output : s'.currentSql.sql = a.repairedSql
  verdict : s'.currentValidation = a.validationResult
  success : a.success = a.validationResult.isValid
  extracted : ∃ response, engine.extract response s.currentSql.dialect = .ok s'.currentSql
  judged : engine.validate attemptNumber s'.currentSql = .ok s'.currentValidation

namespace SQLRepairEngine

theorem attempt_ok {engine : SQLRepairEngine ε} {b : RetrievedKnowledgeBundle}
    (h : engine.attempt b n s = .ok s') : ∃ a, Attempted engine n s a s' := by
  obtain ⟨response, _, h⟩ := bind_ok h
  obtain ⟨repairedSql, hx, h⟩ := bind_ok h
  obtain ⟨newValidation, hv, h⟩ := bind_ok h
  cases h
  exact ⟨_, ⟨rfl, rfl, rfl, rfl, rfl, rfl, ⟨response, hx⟩, hv⟩⟩

/-- The loop from the top of its body, with the number of calls of the model it still makes. -/
def loop (engine : SQLRepairEngine ε) (bundle : RetrievedKnowledgeBundle) (attemptNumber : Nat)
    (s : RepairState) : Except ε RepairState × Nat :=
  if (plan s.currentValidation).isRepairable then
    match h : engine.attempt bundle attemptNumber s with
    | .error e => (.error e, 1)
    | .ok s' =>
      if _hc : engine.strategy.shouldContinue s'.history then
        let rest := engine.loop bundle (attemptNumber + 1) s'
        (rest.1, rest.2 + 1)
      else (.ok s', 1)
  else (.ok s, 0)
termination_by engine.strategy.maxAttempts - s.history.length
decreasing_by
  obtain ⟨a, ha⟩ := attempt_ok h
  have hl := shouldContinue_length _hc
  rw [ha.history, List.length_append, List.length_singleton] at hl ⊢
  omega

section Loop
variable {engine : SQLRepairEngine ε} {b : RetrievedKnowledgeBundle}

theorem loop_unrepairable (hp : ¬ (plan s.currentValidation).isRepairable = true) :
    engine.loop b n s = (.ok s, 0) := by
  rw [loop, if_neg hp]

theorem loop_raised (hp : (plan s.currentValidation).isRepairable = true)
    (he : engine.attempt b n s = .error e) : engine.loop b n s = (.error e, 1) := by
  rw [loop, if_pos hp]
  split
  · rename_i e' he'
    rw [he] at he'
    cases he'
    rfl
  · rename_i s' he'
    rw [he] at he'
    cases he'

theorem loop_attempted (hp : (plan s.currentValidation).isRepairable = true)
    (he : engine.attempt b n s = .ok s') :
    engine.loop b n s = if engine.strategy.shouldContinue s'.history then
      ((engine.loop b (n + 1) s').1, (engine.loop b (n + 1) s').2 + 1) else (.ok s', 1) := by
  rw [loop, if_pos hp]
  split
  · rename_i e he'
    rw [he] at he'
    cases he'
  · rename_i s'' he'
    rw [he] at he'
    cases he'
    exact dite_eq_ite

theorem loop_continued (hp : (plan s.currentValidation).isRepairable = true)
    (he : engine.attempt b n s = .ok s')
    (hc : engine.strategy.shouldContinue s'.history = true) :
    engine.loop b n s = ((engine.loop b (n + 1) s').1, (engine.loop b (n + 1) s').2 + 1) :=
  (loop_attempted hp he).trans (if_pos hc)

theorem loop_stopped (hp : (plan s.currentValidation).isRepairable = true)
    (he : engine.attempt b n s = .ok s')
    (hc : ¬ engine.strategy.shouldContinue s'.history = true) :
    engine.loop b n s = (.ok s', 1) :=
  (loop_attempted hp he).trans (if_neg hc)

end Loop

end SQLRepairEngine

def buildStatistics (history : List RepairAttempt) : RepairStatistics :=
  let successful := (history.filter RepairAttempt.success).length
  { attemptCount := history.length
    successfulRepairs := successful
    failedRepairs := history.length - successful }

structure RepairOutcome (ε : Type) where
  result : Except ε SQLRepairResult
  llmCalls : Nat

def SQLRepairEngine.repair (engine : SQLRepairEngine ε) (generatedSql : GeneratedSQL)
    (validationResult : SQLValidationResult) (bundle : RetrievedKnowledgeBundle) :
    RepairOutcome ε :=
  let ended := engine.loop bundle 1 ⟨[], generatedSql, validationResult⟩
  { result := ended.1.map (fun s =>
      { originalSql := generatedSql
        finalSql := s.currentSql
        finalValidationResult := s.currentValidation
        history := s.history
        statistics := buildStatistics s.history
        status := engine.strategy.finalStatus s.history })
    llmCalls := ended.2 }

/-- The text of an attempt is what the extractor read in a response, and its verdict what the
validator said of that text. -/
def Backed (engine : SQLRepairEngine ε) (a : RepairAttempt) : Prop :=
  ∃ response dialect gs, engine.extract response dialect = .ok gs ∧ gs.sql = a.repairedSql ∧
    engine.validate a.attemptNumber gs = .ok a.validationResult

theorem Attempted.backed {engine : SQLRepairEngine ε} (h : Attempted engine n s a s') :
    Backed engine a := by
  obtain ⟨response, hx⟩ := h.extracted
  refine ⟨response, _, _, hx, h.output, ?_⟩
  rw [h.number, ← h.verdict]
  exact h.judged

/-- The history up to some point of the loop, and the text and the verdict it has led to. -/
structure Chained (engine : SQLRepairEngine ε) (gs : GeneratedSQL) (v : SQLValidationResult)
    (s : RepairState) : Prop where
  backed : ∀ a ∈ s.history, Backed engine a
  numbered : s.history.map RepairAttempt.attemptNumber = List.range' 1 s.history.length
  inputs : s.history.map RepairAttempt.inputSql ++ [s.currentSql.sql] =
    gs.sql :: s.history.map RepairAttempt.repairedSql
  verdict : s.currentValidation = (s.history.getLast?.map RepairAttempt.validationResult).getD v
  untouched : s.history = [] → s.currentSql = gs
  success : ∀ a ∈ s.history, a.success = a.validationResult.isValid
  extracted : s.history ≠ [] →
    ∃ response dialect, engine.extract response dialect = .ok s.currentSql
  judged : s.history ≠ [] → ∃ n, engine.validate n s.currentSql = .ok s.currentValidation

theorem Chained.start {engine : SQLRepairEngine ε} : Chained engine gs v ⟨[], gs, v⟩ where
  backed := fun a ha => by cases ha
  numbered := rfl
  inputs := rfl
  verdict := rfl
  untouched _ := rfl
  success := fun a ha => by cases ha
  extracted h := absurd rfl h
  judged h := absurd rfl h

theorem Chained.snoc {engine : SQLRepairEngine ε} (h : Chained engine gs v s)
    (ha : Attempted engine (s.history.length + 1) s a s') : Chained engine gs v s' where
  backed := by
    intro b hb
    rw [ha.history] at hb
    rcases List.mem_append.1 hb with hb | hb
    · exact h.backed b hb
    · rw [List.mem_singleton.1 hb]
      exact ha.backed
  numbered := by
    rw [ha.history, List.map_append, h.numbered, List.length_append, List.length_singleton,
      List.range'_concat, List.map_singleton, ha.number, Nat.one_mul, Nat.add_comm]
  inputs := by
    rw [ha.history, List.map_append, List.map_append, List.map_singleton, List.map_singleton,
      ha.input, ha.output, h.inputs, List.cons_append]
  verdict := by
    rw [ha.history, List.getLast?_append, List.getLast?_singleton, Option.some_or,
      Option.map_some, Option.getD_some, ha.verdict]
  untouched := by
    intro he
    rw [ha.history] at he
    exact absurd he (List.append_ne_nil_of_right_ne_nil _ (List.cons_ne_nil _ _))
  success := by
    intro b hb
    rw [ha.history] at hb
    rcases List.mem_append.1 hb with hb | hb
    · exact h.success b hb
    · rw [List.mem_singleton.1 hb]
      exact ha.success
  extracted _ := by
    obtain ⟨response, hx⟩ := ha.extracted
    exact ⟨response, _, hx⟩
  judged _ := ⟨_, ha.judged⟩

structure Ended (engine : SQLRepairEngine ε) (gs : GeneratedSQL) (v : SQLValidationResult)
    (s : RepairState) : Prop where
  chained : Chained engine gs v s
  failed : ∀ a ∈ s.history.dropLast, a.success = false
  bounded : s.history.length ≤ engine.strategy.maxAttempts
  stopped : (plan s.currentValidation).isRepairable = false ∨
    s.history ≠ [] ∧ engine.strategy.shouldContinue s.history = false

theorem loop_spec {engine : SQLRepairEngine ε} (hc : Chained engine gs v s)
    (hf : ∀ a ∈ s.history, a.success = false)
    (hl : s.history.length < engine.strategy.maxAttempts) (hn : n = s.history.length + 1) :
    (engine.loop b n s).2 + s.history.length ≤ engine.strategy.maxAttempts ∧
      ∀ s', (engine.loop b n s).1 = .ok s' → Ended engine gs v s' := by
  induction n, s using SQLRepairEngine.loop.induct engine b with
  | case1 n s hp e he =>
    rw [SQLRepairEngine.loop_raised hp he]
    constructor
    · exact (Nat.add_comm _ _).trans_le hl
    · intro s' h
      cases h
  | case2 n s hp s' he hcont ih =>
    obtain ⟨a, ha⟩ := SQLRepairEngine.attempt_ok he
    rw [hn] at ha
    have hlen : s'.history.length = s.history.length + 1 := by
      rw [ha.history, List.length_append, List.length_singleton]
    have hf' : ∀ a' ∈ s'.history, a'.success = false := by
      intro a' hm
      have hlast := hcont
      rw [ha.history] at hm hlast
      rcases List.mem_append.1 hm with hm | hm
      · exact hf a' hm
      · rw [List.mem_singleton.1 hm]
        exact shouldContinue_failed hlast
    obtain ⟨hcalls, hend⟩ := ih (hc.snoc ha) hf' (shouldContinue_length hcont) (by omega)
    rw [SQLRepairEngine.loop_continued hp he hcont]
    constructor
    · show _ + 1 + _ ≤ _
      omega
    · exact hend
  | case3 n s hp s' he hcont =>
    obtain ⟨a, ha⟩ := SQLRepairEngine.attempt_ok he
    rw [hn] at ha
    rw [SQLRepairEngine.loop_stopped hp he hcont]
    constructor
    · exact (Nat.add_comm _ _).trans_le hl
    · intro s'' h
      cases h
      exact {
        chained := hc.snoc ha
        failed := by
          rw [ha.history, List.dropLast_concat]
          exact hf
        bounded := by
          rw [ha.history, List.length_append, List.length_singleton]
          exact hl
        stopped := by
          rw [Bool.not_eq_true] at hcont
          rw [ha.history] at hcont ⊢
          exact .inr ⟨List.append_ne_nil_of_right_ne_nil _ (List.cons_ne_nil _ _), hcont⟩ }
  | case4 n s hp =>
    rw [SQLRepairEngine.loop_unrepairable hp]
    constructor
    · exact (Nat.zero_add _).trans_le hl.le
    · intro s' h
      cases h
      exact {
        chained := hc
        failed := fun a ha => hf a (List.dropLast_subset _ ha)
        bounded := hl.le
        stopped := .inl (Bool.not_eq_true _ ▸ hp) }

theorem Chained.last {engine : SQLRepairEngine ε} (h : Chained engine gs v s)
    (ha : s.history.getLast? = some a) :
    s.currentSql.sql = a.repairedSql ∧ s.currentValidation = a.validationResult := by
  constructor
  · obtain ⟨front, hf⟩ := List.getLast?_eq_some_iff.1 ha
    have hi := congrArg List.getLast? h.inputs
    rw [hf, @List.map_append _ _ RepairAttempt.repairedSql, List.map_singleton,
      ← List.cons_append, List.getLast?_concat, List.getLast?_concat] at hi
    exact Option.some.inj hi
  · rw [h.verdict, ha, Option.map_some, Option.getD_some]

theorem Ended.early {engine : SQLRepairEngine ε} (h : Ended engine gs v s)
    (hl : s.history.length < engine.strategy.maxAttempts) :
    (∃ a, s.history.getLast? = some a ∧ a.success = true) ∨ Stalled s.history ∨
      (plan s.currentValidation).isRepairable = false := by
  rcases h.stopped with hp | ⟨hn, hc⟩
  · exact .inr (.inr hp)
  · obtain ⟨front, a, hf⟩ := List.eq_nil_or_concat s.history |>.resolve_left hn
    rw [List.concat_eq_append] at hf
    rw [hf] at hc hl ⊢
    rcases shouldContinue_stop hc with hs | hm | hs
    · exact .inl ⟨a, List.getLast?_concat, hs⟩
    · exact absurd hl (not_lt.2 hm)
    · exact .inr (.inl hs)

theorem Ended.repaired {engine : SQLRepairEngine ε} (h : Ended engine gs v s) :
    engine.strategy.finalStatus s.history = .repaired ↔
      s.history ≠ [] ∧ s.currentValidation.isValid = true := by
  rw [finalStatus_repaired]
  constructor
  · rintro ⟨a, ha, hs⟩
    have hm := List.mem_of_getLast? ha
    refine ⟨List.ne_nil_of_mem hm, ?_⟩
    rw [(h.chained.last ha).2, ← h.chained.success a hm]
    exact hs
  · rintro ⟨hn, hv⟩
    have ha := List.getLast?_eq_some_getLast hn
    refine ⟨_, ha, ?_⟩
    rw [h.chained.success _ (List.getLast_mem hn), ← (h.chained.last ha).2]
    exact hv

theorem repair_ended (engine : SQLRepairEngine ε) (gs : GeneratedSQL) (v : SQLValidationResult)
    (b : RetrievedKnowledgeBundle) :
    (engine.repair gs v b).llmCalls ≤ engine.strategy.maxAttempts ∧
      ∀ r, (engine.repair gs v b).result = .ok r →
        Ended engine gs v ⟨r.history, r.finalSql, r.finalValidationResult⟩ ∧
          r.status = engine.strategy.finalStatus r.history := by
  have hstart : Chained engine gs v ⟨[], gs, v⟩ := .start
  obtain ⟨hcalls, hend⟩ := loop_spec (b := b) hstart (fun a ha => by cases ha)
    engine.strategy.maxAttempts_pos rfl
  refine ⟨hcalls, ?_⟩
  intro r hr
  rw [SQLRepairEngine.repair] at hr
  cases hl : (engine.loop b 1 ⟨[], gs, v⟩).1 with
  | error e =>
    simp only [hl] at hr
    cases hr
  | ok s =>
    simp only [hl] at hr
    cases hr
    exact ⟨hend s hl, rfl⟩

/-- What an answer of `repair` tells about the attempts it made. -/
structure RepairLaw (engine : SQLRepairEngine ε) (gs : GeneratedSQL) (v : SQLValidationResult)
    (r : SQLRepairResult) : Prop where
  bounded : r.history.length ≤ engine.strategy.maxAttempts
  backed : ∀ a ∈ r.history, Backed engine a
  numbered : r.history.map RepairAttempt.attemptNumber = List.range' 1 r.history.length
  inputs : r.history.map RepairAttempt.inputSql ++ [r.finalSql.sql] =
    gs.sql :: r.history.map RepairAttempt.repairedSql
  verdicts : ∀ a ∈ r.history, a.success = a.validationResult.isValid
  onlyLast : ∀ a ∈ r.history.dropLast, a.success = false
  none : r.history = [] → r.finalSql = gs ∧ r.finalValidationResult = v
  last : ∀ a, r.history.getLast? = some a →
    r.finalSql.sql = a.repairedSql ∧ r.finalValidationResult = a.validationResult
  early : r.history.length < engine.strategy.maxAttempts →
    (∃ a, r.history.getLast? = some a ∧ a.success = true) ∨ Stalled r.history ∨
      (plan r.finalValidationResult).isRepairable = false
  repaired : r.status = .repaired ↔ r.history ≠ [] ∧ r.finalValidationResult.isValid = true
  noProgress : r.status ≠ .repaired → (r.status = .noProgress ↔ Stalled r.history)
  maxAttempts : r.status ≠ .repaired → r.status ≠ .noProgress →
    (r.status = .maxAttemptsReached ↔ r.history.length = engine.strategy.maxAttempts)

def SQLRepairEngine.NeverRaises (engine : SQLRepairEngine ε) : Prop :=
  (∀ n prompt, ∃ response, engine.llm n prompt = .ok response) ∧
    (∀ response dialect, ∃ gs, engine.extract response dialect = .ok gs) ∧
    ∀ n gs, ∃ v, engine.validate n gs = .ok v

theorem attempt_returns {engine : SQLRepairEngine ε} (h : engine.NeverRaises) (n : Nat)
    (s : RepairState) : ∃ s', engine.attempt b n s = .ok s' := by
  obtain ⟨hl, hx, hv⟩ := h
  obtain ⟨response, hr⟩ := hl n (buildPrompt b s.currentSql s.currentValidation
    (plan s.currentValidation))
  obtain ⟨gs, hg⟩ := hx response s.currentSql.dialect
  obtain ⟨v, hj⟩ := hv n gs
  simp only [SQLRepairEngine.attempt, hr, hg, hj, bind, Except.bind]
  exact ⟨_, rfl⟩

theorem loop_returns {engine : SQLRepairEngine ε} (h : engine.NeverRaises) (n : Nat)
    (s : RepairState) : ∃ s', (engine.loop b n s).1 = .ok s' := by
  induction n, s using SQLRepairEngine.loop.induct engine b with
  | case1 n s hp e he =>
    obtain ⟨s', hs⟩ := attempt_returns (b := b) h n s
    rw [he] at hs
    cases hs
  | case2 n s hp s' he hc ih =>
    rw [SQLRepairEngine.loop_continued hp he hc]
    exact ih
  | case3 n s hp s' he hc =>
    rw [SQLRepairEngine.loop_stopped hp he hc]
    exact ⟨_, rfl⟩
  | case4 n s hp =>
    rw [SQLRepairEngine.loop_unrepairable hp]
    exact ⟨_, rfl⟩

theorem repair_returns {engine : SQLRepairEngine ε} (h : engine.NeverRaises) (gs : GeneratedSQL)
    (v : SQLValidationResult) (b : RetrievedKnowledgeBundle) :
    ∃ r, (engine.repair gs v b).result = .ok r := by
  obtain ⟨s, hs⟩ := loop_returns (b := b) h 1 ⟨[], gs, v⟩
  rw [SQLRepairEngine.repair, hs]
  exact ⟨_, rfl⟩

/-- Repair makes a bounded number of attempts and reports them as they were; it answers, whatever
stays invalid, where no collaborator raises. -/
theorem repair_law (engine : SQLRepairEngine ε) (gs : GeneratedSQL) (v : SQLValidationResult)
    (b : RetrievedKnowledgeBundle) :
    (engine.repair gs v b).llmCalls ≤ engine.strategy.maxAttempts ∧
      (engine.NeverRaises → ∃ r, (engine.repair gs v b).result = .ok r) ∧
        ∀ r, (engine.repair gs v b).result = .ok r → RepairLaw engine gs v r := by
  obtain ⟨hcalls, hend⟩ := repair_ended engine gs v b
  refine ⟨hcalls, fun h => repair_returns h gs v b, ?_⟩
  intro r hr
  obtain ⟨he, hs⟩ := hend r hr
  exact {
    bounded := he.bounded
    backed := he.chained.backed
    numbered := he.chained.numbered
    inputs := he.chained.inputs
    verdicts := he.chained.success
    onlyLast := he.failed
    none := by
      intro hn
      have hv := he.chained.verdict
      simp only [hn, List.getLast?_nil, Option.map_none, Option.getD_none] at hv
      exact ⟨he.chained.untouched hn, hv⟩
    last := fun a ha => he.chained.last ha
    early := he.early
    repaired := by
      rw [hs]
      exact he.repaired
    noProgress := by
      rw [hs]
      exact finalStatus_noProgress
    maxAttempts := by
      rw [hs]
      intro h₁ h₂
      rw [finalStatus_maxAttempts h₁ h₂]
      exact ⟨he.bounded.antisymm, Eq.ge⟩ }

def KeepsValid (engine : SQLRepairEngine ε) (gs : GeneratedSQL) (v : SQLValidationResult)
    (b : RetrievedKnowledgeBundle) : Prop :=
  ∃ r, (engine.repair gs v b).result = .ok r ∧ r.finalValidationResult.isValid = true

/-- Every issue the planner looks at is the crash of a validator. -/
def NothingToRepair (v : SQLValidationResult) : Prop :=
  ∀ issue ∈ issuesToRepair v, issue.code ∈ unrepairableCodes

theorem nothingToRepair_iff : NothingToRepair v ↔ ¬ (plan v).isRepairable = true := by
  rw [plan_repairable, NothingToRepair]
  push Not
  rfl

theorem repair_untouched (engine : SQLRepairEngine ε) (gs : GeneratedSQL)
    (b : RetrievedKnowledgeBundle) (h : NothingToRepair v) :
    ∃ r, (engine.repair gs v b).result = .ok r ∧ r.finalSql = gs ∧
      r.finalValidationResult = v := by
  rw [SQLRepairEngine.repair, SQLRepairEngine.loop_unrepairable (nothingToRepair_iff.1 h)]
  exact ⟨_, rfl, rfl, rfl⟩

theorem repair_spoiled {engine : SQLRepairEngine ε} (hp : ¬ NothingToRepair v)
    (hv : ∀ n gs, engine.validate n gs = .ok bad) (hb : bad.isValid = false) :
    ¬ KeepsValid engine gs v b := by
  rintro ⟨r, hr, hvalid⟩
  obtain ⟨he, -⟩ := (repair_ended engine gs v b).2 r hr
  have hn : r.history ≠ [] := by
    intro hn
    rcases he.stopped with hs | hs
    · have hverdict := he.chained.verdict
      simp only [hn, List.getLast?_nil, Option.map_none, Option.getD_none] at hverdict
      rw [nothingToRepair_iff, not_not, ← hverdict] at hp
      rw [hp] at hs
      cases hs
    · exact hs.1 hn
  obtain ⟨n, hj⟩ := he.chained.judged hn
  rw [hv] at hj
  cases hj
  rw [hvalid] at hb
  cases hb

def spoiling (strategy : RepairStrategy) : SQLRepairEngine ε where
  strategy := strategy
  llm := fun _ _ => .ok {
    content := lampSql.sql
    metrics := {
      provider := .groq, model := "llama-3.3-70b-versatile", latencyMs := 412, retryCount := 0
      tokenUsage := { promptTokens := 1204, completionTokens := 18 }, finishReason := .complete } }
  extract := fun _ _ => .ok lampSql
  validate := fun _ _ => .ok lampVerdict

theorem spoiling_neverRaises (strategy : RepairStrategy) :
    (spoiling strategy : SQLRepairEngine ε).NeverRaises :=
  ⟨fun _ _ => ⟨_, rfl⟩, fun _ _ => ⟨_, rfl⟩, fun _ _ => ⟨_, rfl⟩⟩

/-- A valid text stays valid under repair whatever the model and the validator say, when the planner
sees nothing to repair in its verdict and only then. -/
theorem repair_keeps_valid (strategy : RepairStrategy) (gs : GeneratedSQL)
    (b : RetrievedKnowledgeBundle) (hv : v.isValid = true) :
    ((∀ engine : SQLRepairEngine ε, engine.strategy = strategy → KeepsValid engine gs v b) ↔
      NothingToRepair v) ∧
    ((∀ engine : SQLRepairEngine ε, engine.strategy = strategy → engine.NeverRaises →
        KeepsValid engine gs v b) ↔ NothingToRepair v) := by
  have hkeep : NothingToRepair v → ∀ engine : SQLRepairEngine ε, KeepsValid engine gs v b := by
    intro h engine
    obtain ⟨r, hr, -, hf⟩ := repair_untouched engine gs b h
    exact ⟨r, hr, hf ▸ hv⟩
  have hspoil : KeepsValid (spoiling strategy : SQLRepairEngine ε) gs v b → NothingToRepair v := by
    intro h
    by_contra hp
    exact repair_spoiled hp (fun _ _ => rfl) rfl h
  constructor
  · constructor
    · intro h
      exact hspoil (h _ rfl)
    · intro h engine _
      exact hkeep h engine
  · constructor
    · intro h
      exact hspoil (h _ rfl (spoiling_neverRaises strategy))
    · intro h engine _ _
      exact hkeep h engine

def joinSql : GeneratedSQL where
  sql := "SELECT o.id FROM orders o JOIN products p ON o.note = p.name"
  dialect := .postgresql
  sql_nonempty := by decide

/-- A join that matches no declared relationship, which is a warning only. -/
def joinWarning : SQLValidationResult where
  generatedSql := joinSql
  isValid := true
  errors := []
  warnings := [⟨"join_columns_do_not_match_relationship", .warning,
    "A relationship exists between 'orders' and 'products', but this JOIN's ON condition " ++
      "doesn't match its declared columns.", some "orders-products"⟩]

def noFindings : SQLValidationResult where
  generatedSql := joinSql
  isValid := true
  errors := []
  warnings := []

theorem joinWarning_repaired : ¬ NothingToRepair joinWarning := by
  intro h
  exact absurd (h _ List.mem_cons_self) (by decide)

theorem repair_keeps_valid_clean :
    (∀ engine : SQLRepairEngine Empty, engine.strategy = defaultStrategy →
      KeepsValid engine joinSql noFindings (asksFor "lamp")) ∧
    ¬ ∀ engine : SQLRepairEngine Empty, engine.strategy = defaultStrategy → engine.NeverRaises →
      KeepsValid engine joinSql joinWarning (asksFor "lamp") := by
  constructor
  · apply (repair_keeps_valid defaultStrategy joinSql (asksFor "lamp") rfl).1.2
    intro i hi
    cases hi
  · intro h
    exact joinWarning_repaired
      ((repair_keeps_valid defaultStrategy joinSql (asksFor "lamp") rfl).2.1 h)

/-- For one warning, a valid text is given up for one that is not. -/
theorem repair_spoils_valid : joinWarning.isValid = true ∧
    ¬ KeepsValid (spoiling defaultStrategy : SQLRepairEngine Empty) joinSql joinWarning
      (asksFor "lamp") := by
  refine ⟨rfl, ?_⟩
  exact repair_spoiled joinWarning_repaired (fun _ _ => rfl) rfl

end QueryMind.Repair
