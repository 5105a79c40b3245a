import QueryMind.Lib.Dict
import QueryMind.Llm.Models
import QueryMind.Orchestrator.Models
import Mathlib.Algebra.Order.Field.Rat
import Mathlib.Algebra.Order.BigOperators.Group.List
import Mathlib.Tactic.FieldSimp
import Mathlib.Tactic.Linarith

namespace QueryMind.Observability
open Lib Llm Orchestrator
set_option autoImplicit true

structure StageMetric where
  stage : String
  callCount : Nat
  totalLatencyMs : Rat
  averageLatencyMs : Rat
  minLatencyMs : Rat
  maxLatencyMs : Rat
  total_nonneg : 0 ≤ totalLatencyMs
  average_nonneg : 0 ≤ averageLatencyMs
  min_nonneg : 0 ≤ minLatencyMs
  max_nonneg : 0 ≤ maxLatencyMs

structure MetricsSnapshot where
  capturedAt : Int
  pipelineRunCount : Nat
  pipelineSuccessCount : Nat
  pipelineFailureCount : Nat
  averagePipelineLatencyMs : Rat
  stageMetrics : List StageMetric
  validationFailureCount : Nat
  repairAttemptedCount : Nat
  repairSuccessCount : Nat
  repairSuccessRate : Rat
  sqlExecutionCount : Nat
  totalRowsReturned : Nat
  llmPromptTokens : Nat
  llmCompletionTokens : Nat
  cacheHitCount : Nat
  cacheMissCount : Nat
  startupTimeMs : Option Rat
  average_nonneg : 0 ≤ averagePipelineLatencyMs
  rate_nonneg : 0 ≤ repairSuccessRate
  rate_le_one : repairSuccessRate ≤ 1
  startup_nonneg : ∀ ms, startupTimeMs = some ms → 0 ≤ ms

structure InMemoryMetricsCollector where
  pipelineRunCount : Nat := 0
  pipelineSuccessCount : Nat := 0
  pipelineFailureCount : Nat := 0
  pipelineLatencyTotalMs : Rat := 0
  stageCallCounts : Dict String Nat := []
  stageLatencyTotals : Dict String Rat := []
  stageLatencyMins : Dict String Rat := []
  stageLatencyMaxs : Dict String Rat := []
  validationFailureCount : Nat := 0
  repairAttemptedCount : Nat := 0
  repairSuccessCount : Nat := 0
  sqlExecutionCount : Nat := 0
  totalRowsReturned : Nat := 0
  llmPromptTokens : Nat := 0
  llmCompletionTokens : Nat := 0
  cacheHitCount : Nat := 0
  cacheMissCount : Nat := 0
  startupTimeMs : Option Rat := none

namespace InMemoryMetricsCollector

def recordPipelineRun (c : InMemoryMetricsCollector) (success : Bool) (latencyMs : Rat)
    (repairAttempted repairSucceeded : Bool) : InMemoryMetricsCollector :=
  { c with
    pipelineRunCount := c.pipelineRunCount + 1
    pipelineLatencyTotalMs := c.pipelineLatencyTotalMs + latencyMs
    pipelineSuccessCount := if success then c.pipelineSuccessCount + 1 else c.pipelineSuccessCount
    pipelineFailureCount := if success then c.pipelineFailureCount else c.pipelineFailureCount + 1
    repairAttemptedCount :=
      if repairAttempted then c.repairAttemptedCount + 1 else c.repairAttemptedCount
    repairSuccessCount :=
      if repairAttempted then
        if repairSucceeded then c.repairSuccessCount + 1 else c.repairSuccessCount
      else c.repairSuccessCount }

def recordStageLatency (c : InMemoryMetricsCollector) (stage : String) (latencyMs : Rat) :
    InMemoryMetricsCollector :=
  { c with
    stageCallCounts := c.stageCallCounts.alter stage fun n => n.getD 0 + 1
    stageLatencyTotals := c.stageLatencyTotals.alter stage fun ms => ms.getD 0 + latencyMs
    stageLatencyMins := c.stageLatencyMins.alter stage fun ms => min (ms.getD latencyMs) latencyMs
    stageLatencyMaxs :=
      c.stageLatencyMaxs.alter stage fun ms => max (ms.getD latencyMs) latencyMs }

def recordValidationFailure (c : InMemoryMetricsCollector) : InMemoryMetricsCollector :=
  { c with validationFailureCount := c.validationFailureCount + 1 }

def recordSqlExecution (c : InMemoryMetricsCollector) (rowsReturned : Nat) :
    InMemoryMetricsCollector :=
  { c with
    sqlExecutionCount := c.sqlExecutionCount + 1
    totalRowsReturned := c.totalRowsReturned + rowsReturned }

def recordLlmTokenUsage (c : InMemoryMetricsCollector) (promptTokens completionTokens : Nat) :
    InMemoryMetricsCollector :=
  { c with
    llmPromptTokens := c.llmPromptTokens + promptTokens
    llmCompletionTokens := c.llmCompletionTokens + completionTokens }

def recordCacheAccess (c : InMemoryMetricsCollector) (hit : Bool) : InMemoryMetricsCollector :=
  if hit then { c with cacheHitCount := c.cacheHitCount + 1 }
  else { c with cacheMissCount := c.cacheMissCount + 1 }

def recordStartupTime (c : InMemoryMetricsCollector) (durationMs : Rat) :
    InMemoryMetricsCollector :=
  { c with startupTimeMs := some durationMs }

/-- A missing key would be raised, and so would a value that the model refuses. -/
def stageMetric (c : InMemoryMetricsCollector) (stage : String) (count : Nat) :
    Option StageMetric := do
  let total ← c.stageLatencyTotals.get? stage
  let least ← c.stageLatencyMins.get? stage
  let greatest ← c.stageLatencyMaxs.get? stage
  if h : 0 ≤ total ∧ 0 ≤ total / count ∧ 0 ≤ least ∧ 0 ≤ greatest then
    some ⟨stage, count, total, total / count, least, greatest, h.1, h.2.1, h.2.2.1, h.2.2.2⟩
  else none

def averagePipelineLatencyMs (c : InMemoryMetricsCollector) : Rat :=
  if c.pipelineRunCount > 0 then c.pipelineLatencyTotalMs / c.pipelineRunCount else 0

def repairSuccessRate (c : InMemoryMetricsCollector) : Rat :=
  if c.repairAttemptedCount > 0 then c.repairSuccessCount / c.repairAttemptedCount else 0

def WithinBounds (c : InMemoryMetricsCollector) : Prop :=
  0 ≤ c.averagePipelineLatencyMs ∧ 0 ≤ c.repairSuccessRate ∧ c.repairSuccessRate ≤ 1 ∧
    ∀ ms ∈ c.startupTimeMs, 0 ≤ ms

instance (c : InMemoryMetricsCollector) : Decidable c.WithinBounds :=
  inferInstanceAs (Decidable (_ ∧ _))

def metricsSnapshot (c : InMemoryMetricsCollector) (now : Int) (stageMetrics : List StageMetric)
    (h : c.WithinBounds) : MetricsSnapshot where
  capturedAt := now
  pipelineRunCount := c.pipelineRunCount
  pipelineSuccessCount := c.pipelineSuccessCount
  pipelineFailureCount := c.pipelineFailureCount
  averagePipelineLatencyMs := c.averagePipelineLatencyMs
  stageMetrics := stageMetrics
  validationFailureCount := c.validationFailureCount
  repairAttemptedCount := c.repairAttemptedCount
  repairSuccessCount := c.repairSuccessCount
  repairSuccessRate := c.repairSuccessRate
  sqlExecutionCount := c.sqlExecutionCount
  totalRowsReturned := c.totalRowsReturned
  llmPromptTokens := c.llmPromptTokens
  llmCompletionTokens := c.llmCompletionTokens
  cacheHitCount := c.cacheHitCount
  cacheMissCount := c.cacheMissCount
  startupTimeMs := c.startupTimeMs
  average_nonneg := h.1
  rate_nonneg := h.2.1
  rate_le_one := h.2.2.1
  startup_nonneg := fun ms hm => h.2.2.2 ms hm

def snapshot (c : InMemoryMetricsCollector) (now : Int) : Option MetricsSnapshot := do
  let stageMetrics ← c.stageCallCounts.mapM fun e => c.stageMetric e.1 e.2
  if h : c.WithinBounds then some (c.metricsSnapshot now stageMetrics h) else none

end InMemoryMetricsCollector

open InMemoryMetricsCollector

/-- A call of a `record_*` method. -/
inductive Observation
  | pipelineRun (success : Bool) (latencyMs : Rat) (repairAttempted repairSucceeded : Bool)
  | stageLatency (stage : String) (latencyMs : Rat)
  | validationFailure
  | sqlExecution (rowsReturned : Nat)
  | llmTokenUsage (promptTokens completionTokens : Nat)
  | cacheAccess (hit : Bool)
  | startupTime (durationMs : Rat)

def InMemoryMetricsCollector.record (c : InMemoryMetricsCollector) :
    Observation → InMemoryMetricsCollector
  | .pipelineRun success ms attempted succeeded =>
    c.recordPipelineRun success ms attempted succeeded
  | .stageLatency stage ms => c.recordStageLatency stage ms
  | .validationFailure => c.recordValidationFailure
  | .sqlExecution rows => c.recordSqlExecution rows
  | .llmTokenUsage prompt completion => c.recordLlmTokenUsage prompt completion
  | .cacheAccess hit => c.recordCacheAccess hit
  | .startupTime ms => c.recordStartupTime ms

/-- `_record_metrics`, for the token usage noted on a generated text. -/
def recordMetrics (usage : Sql.GeneratedSQL → TokenUsage) (response : QueryMindResponse) :
    List Observation :=
  [.pipelineRun (response.status = .success) response.statistics.totalLatencyMs
      response.statistics.repairAttempted response.statistics.repairPerformed] ++
    response.statistics.stageTimings.map (fun t => .stageLatency t.stage.value t.latencyMs) ++
    ((response.executionResult.bind (·.queryResult)).map
      fun result => .sqlExecution result.rowCount).toList ++
    (response.generatedSql.map fun sql =>
      .llmTokenUsage (usage sql).promptTokens (usage sql).completionTokens).toList ++
    (response.validationResult.filter fun v => !v.isValid).toList.map fun _ => .validationFailure

/-- What one observation adds to each counter. -/
structure Share where
  runs : Nat := 0
  successes : Nat := 0
  failures : Nat := 0
  latencyMs : Rat := 0
  repairs : Nat := 0
  repaired : Nat := 0
  invalid : Nat := 0
  executions : Nat := 0
  rows : Nat := 0
  promptTokens : Nat := 0
  completionTokens : Nat := 0
  hits : Nat := 0
  misses : Nat := 0

def Observation.share : Observation → Share
  | .pipelineRun success ms attempted succeeded =>
    { runs := 1
      successes := if success then 1 else 0
      failures := if success then 0 else 1
      latencyMs := ms
      repairs := if attempted then 1 else 0
      repaired := if attempted && succeeded then 1 else 0 }
  | .stageLatency _ _ | .startupTime _ => {}
  | .validationFailure => { invalid := 1 }
  | .sqlExecution rows => { executions := 1, rows }
  | .llmTokenUsage promptTokens completionTokens => { promptTokens, completionTokens }
  | .cacheAccess hit => { hits := if hit then 1 else 0, misses := if hit then 0 else 1 }

def Observation.timing : Observation → Option (String × Rat)
  | .stageLatency stage ms => some (stage, ms)
  | _ => none

def Observation.startup : Observation → Option Rat
  | .startupTime ms => some ms
  | _ => none

/-- Durations are never negative. -/
def Observation.Sound : Observation → Prop
  | .pipelineRun _ ms _ _ | .stageLatency _ ms | .startupTime ms => 0 ≤ ms
  | _ => True

instance : DecidablePred Observation.Sound
  | .pipelineRun _ ms _ _ | .stageLatency _ ms | .startupTime ms =>
    inferInstanceAs (Decidable (0 ≤ ms))
  | .validationFailure | .sqlExecution _ | .llmTokenUsage _ _ | .cacheAccess _ =>
    inferInstanceAs (Decidable True)

def recorded (os : List Observation) : InMemoryMetricsCollector := os.foldl record {}

def timings (os : List Observation) : List (String × Rat) := os.filterMap Observation.timing

section Recorded

theorem recorded_append (os : List Observation) (o : Observation) :
    recorded (os ++ [o]) = (recorded os).record o := by
  rw [recorded, List.foldl_append]
  rfl

theorem recorded_sum [AddMonoid M] (f : InMemoryMetricsCollector → M) (g : Share → M)
    (h₀ : f {} = 0) (h : ∀ c o, f (c.record o) = f c + g o.share) (os : List Observation) :
    f (recorded os) = (os.map fun o => g o.share).sum := by
  induction os using List.reverseRecOn with
  | nil => exact h₀
  | append_singleton os o ih =>
    rw [recorded_append, h, ih, List.map_append, List.sum_append, List.map_singleton,
      List.sum_singleton]

theorem recorded_tally (f : InMemoryMetricsCollector → Dict String α) (g : Option α → Rat → α)
    (h₀ : f {} = []) (h : ∀ c stage ms,
      f (c.recordStageLatency stage ms) = (f c).alter stage (g · ms))
    (hn : ∀ c o, o.timing = none → f (c.record o) = f c) (os : List Observation) :
    f (recorded os) = tally g (timings os) := by
  induction os using List.reverseRecOn with
  | nil => exact h₀
  | append_singleton os o ih =>
    rw [recorded_append, timings, List.filterMap_append, ← timings]
    cases ht : o.timing with
    | none =>
      rw [hn _ o ht, ih, List.filterMap_cons_none ht, List.filterMap_nil, List.append_nil]
    | some e =>
      rw [List.filterMap_cons_some ht, List.filterMap_nil, tally_append, ← ih]
      cases o with
      | stageLatency stage ms =>
        cases ht
        exact h _ stage ms
      | _ => cases ht

theorem recorded_startup (os : List Observation) :
    (recorded os).startupTimeMs = (os.filterMap Observation.startup).getLast? := by
  induction os using List.reverseRecOn with
  | nil => rfl
  | append_singleton os o ih =>
    rw [recorded_append, List.filterMap_append]
    cases o with
    | startupTime ms =>
      have hs : [Observation.startupTime ms].filterMap Observation.startup = [ms] := rfl
      rw [hs, List.getLast?_concat]
      rfl
    | cacheAccess hit =>
      rw [List.filterMap_cons_none rfl, List.filterMap_nil, List.append_nil, ← ih]
      cases hit <;> rfl
    | _ =>
      rw [List.filterMap_cons_none rfl, List.filterMap_nil, List.append_nil, ← ih]
      rfl

/-- A collector whose counters have taken a share. -/
structure Adds (c c' : InMemoryMetricsCollector) (s : Share) : Prop where
  runs : c'.pipelineRunCount = c.pipelineRunCount + s.runs
  successes : c'.pipelineSuccessCount = c.pipelineSuccessCount + s.successes
  failures : c'.pipelineFailureCount = c.pipelineFailureCount + s.failures
  latencyMs : c'.pipelineLatencyTotalMs = c.pipelineLatencyTotalMs + s.latencyMs
  repairs : c'.repairAttemptedCount = c.repairAttemptedCount + s.repairs
  repaired : c'.repairSuccessCount = c.repairSuccessCount + s.repaired
  invalid : c'.validationFailureCount = c.validationFailureCount + s.invalid
  executions : c'.sqlExecutionCount = c.sqlExecutionCount + s.executions
  rows : c'.totalRowsReturned = c.totalRowsReturned + s.rows
  promptTokens : c'.llmPromptTokens = c.llmPromptTokens + s.promptTokens
  completionTokens : c'.llmCompletionTokens = c.llmCompletionTokens + s.completionTokens
  hits : c'.cacheHitCount = c.cacheHitCount + s.hits
  misses : c'.cacheMissCount = c.cacheMissCount + s.misses

theorem record_adds (c : InMemoryMetricsCollector) (o : Observation) :
    Adds c (c.record o) o.share := by
  cases o with
  | pipelineRun success ms attempted succeeded =>
    cases success <;> cases attempted <;> cases succeeded <;> constructor <;> rfl
  | cacheAccess hit =>
    cases hit <;> constructor
    all_goals first | rfl | exact (add_zero _).symm
  | _ =>
    constructor
    all_goals first | rfl | exact (add_zero _).symm

theorem record_untimed {c : InMemoryMetricsCollector} (h : o.timing = none) :
    (c.record o).stageCallCounts = c.stageCallCounts ∧
      (c.record o).stageLatencyTotals = c.stageLatencyTotals ∧
      (c.record o).stageLatencyMins = c.stageLatencyMins ∧
      (c.record o).stageLatencyMaxs = c.stageLatencyMaxs := by
  cases o with
  | stageLatency => cases h
  | cacheAccess hit => cases hit <;> exact ⟨rfl, rfl, rfl, rfl⟩
  | _ => exact ⟨rfl, rfl, rfl, rfl⟩

theorem share_runs (o : Observation) :
    o.share.successes + o.share.failures = o.share.runs ∧
      (o.share.runs = 0 → o.share.latencyMs = 0) := by
  cases o with
  | pipelineRun success ms attempted succeeded => cases success <;> exact ⟨rfl, nofun⟩
  | _ => exact ⟨rfl, fun _ => rfl⟩

theorem share_repaired (o : Observation) : o.share.repaired ≤ o.share.repairs := by
  cases o with
  | pipelineRun success ms attempted succeeded =>
    cases attempted with
    | false => exact Nat.le_refl 0
    | true =>
      cases succeeded with
      | false => exact Nat.zero_le 1
      | true => exact Nat.le_refl 1
  | _ => exact Nat.zero_le 0

theorem share_latency (h : Observation.Sound o) : 0 ≤ o.share.latencyMs := by
  cases o with
  | pipelineRun => exact h
  | _ => exact le_refl _

end Recorded

section Folds

theorem fold_count (h : vs ≠ []) :
    vs.foldl (fun (n : Option Nat) (_ : Rat) => some (n.getD 0 + 1)) none = some vs.length := by
  induction vs using List.reverseRecOn with
  | nil => exact absurd rfl h
  | append_singleton vs v ih =>
    rw [List.foldl_append, List.length_append]
    by_cases hn : vs = []
    · rw [hn]
      rfl
    · rw [ih hn]
      rfl

theorem fold_total (h : vs ≠ []) :
    vs.foldl (fun (ms : Option Rat) v => some (ms.getD 0 + v)) none = some vs.sum := by
  induction vs using List.reverseRecOn with
  | nil => exact absurd rfl h
  | append_singleton vs v ih =>
    rw [List.foldl_append, List.sum_append, List.sum_singleton]
    by_cases hn : vs = []
    · rw [hn, List.sum_nil]
      rfl
    · rw [ih hn]
      rfl

theorem fold_pick {pick : Rat → Rat → Rat} {R : Rat → Rat → Prop}
    (hp : ∀ a b, (pick a b = a ∨ pick a b = b) ∧ R (pick a b) a ∧ R (pick a b) b)
    (ht : ∀ a b c, R a b → R b c → R a c) (h : vs ≠ []) :
    ∃ m, vs.foldl (fun (ms : Option Rat) v => some (pick (ms.getD v) v)) none = some m ∧
      m ∈ vs ∧ ∀ v ∈ vs, R m v := by
  induction vs using List.reverseRecOn with
  | nil => exact absurd rfl h
  | append_singleton vs v ih =>
    rw [List.foldl_append]
    by_cases hn : vs = []
    · refine ⟨pick v v, ?_, ?_, ?_⟩
      · rw [hn]
        rfl
      · rw [hn, List.nil_append, List.mem_singleton]
        exact (hp v v).1.elim id id
      · intro w hw
        rw [hn, List.nil_append, List.mem_singleton] at hw
        rw [hw]
        exact (hp v v).2.1
    · obtain ⟨m, hm, hmem, hb⟩ := ih hn
      refine ⟨pick m v, ?_, ?_, ?_⟩
      · rw [hm]
        rfl
      · rw [List.mem_append, List.mem_singleton]
        rcases (hp m v).1 with he | he
        · left
          rw [he]
          exact hmem
        · exact .inr he
      · intro w hw
        rcases List.mem_append.1 hw with hw | hw
        · exact ht _ _ _ (hp m v).2.1 (hb w hw)
        · rw [List.mem_singleton.1 hw]
          exact (hp m v).2.2

theorem mapM_some {f : α → Option β} {g : β → γ} {k : α → γ} {P : β → Prop} {l : List α}
    (h : ∀ a ∈ l, ∃ b, f a = some b ∧ g b = k a ∧ P b) :
    ∃ bs, l.mapM f = some bs ∧ bs.map g = l.map k ∧ ∀ b ∈ bs, P b := by
  induction l with
  | nil => exact ⟨[], rfl, rfl, nofun⟩
  | cons a l ih =>
    obtain ⟨b, hb, hg, hp⟩ := h a List.mem_cons_self
    obtain ⟨bs, hbs, hgs, hps⟩ := ih fun a' ha => h a' (List.mem_cons_of_mem a ha)
    refine ⟨b :: bs, ?_, ?_, ?_⟩
    · rw [List.mapM_cons, hb, hbs]
      rfl
    · rw [List.map_cons, List.map_cons, hg, hgs]
    · intro b' hm
      rcases List.mem_cons.1 hm with rfl | hm
      · exact hp
      · exact hps b' hm

end Folds

/-- What a snapshot says of a stage with these latencies. -/
structure StageSummary (latencies : List Rat) (x : StageMetric) : Prop where
  count : x.callCount = latencies.length
  total : x.totalLatencyMs = latencies.sum
  average : x.averageLatencyMs * x.callCount = x.totalLatencyMs
  least : x.minLatencyMs ∈ latencies ∧ ∀ ms ∈ latencies, x.minLatencyMs ≤ ms
  greatest : x.maxLatencyMs ∈ latencies ∧ ∀ ms ∈ latencies, ms ≤ x.maxLatencyMs
  between : x.minLatencyMs ≤ x.averageLatencyMs ∧ x.averageLatencyMs ≤ x.maxLatencyMs

/-- What a snapshot says of everything observed so far. -/
structure Summary (os : List Observation) (m : MetricsSnapshot) : Prop where
  runs : m.pipelineRunCount = (os.map (·.share.runs)).sum
  successes : m.pipelineSuccessCount = (os.map (·.share.successes)).sum
  outcomes : m.pipelineSuccessCount + m.pipelineFailureCount = m.pipelineRunCount
  average : m.averagePipelineLatencyMs * m.pipelineRunCount = (os.map (·.share.latencyMs)).sum
  stages : m.stageMetrics.map (·.stage) = firsts ((timings os).map (·.1))
  stage : ∀ x ∈ m.stageMetrics, StageSummary (valuesAt x.stage (timings os)) x
  repairs : m.repairAttemptedCount = (os.map (·.share.repairs)).sum
  repaired : m.repairSuccessCount = (os.map (·.share.repaired)).sum
  rate : m.repairSuccessRate * m.repairAttemptedCount = m.repairSuccessCount
  invalid : m.validationFailureCount = (os.map (·.share.invalid)).sum
  executions : m.sqlExecutionCount = (os.map (·.share.executions)).sum
  rows : m.totalRowsReturned = (os.map (·.share.rows)).sum
  promptTokens : m.llmPromptTokens = (os.map (·.share.promptTokens)).sum
  completionTokens : m.llmCompletionTokens = (os.map (·.share.completionTokens)).sum
  hits : m.cacheHitCount = (os.map (·.share.hits)).sum
  misses : m.cacheMissCount = (os.map (·.share.misses)).sum
  startup : m.startupTimeMs = (os.filterMap Observation.startup).getLast?

section Snapshot
variable {os : List Observation}

theorem timing_nonneg (h : ∀ o ∈ os, o.Sound) (ht : (stage, ms) ∈ timings os) : 0 ≤ ms := by
  obtain ⟨o, ho, he⟩ := List.mem_filterMap.1 ht
  have hs := h o ho
  cases o with
  | stageLatency stage ms =>
    cases he
    exact hs
  | _ => cases he

theorem valuesAt_nonneg (h : ∀ o ∈ os, o.Sound) (hv : v ∈ valuesAt stage (timings os)) :
    0 ≤ v := by
  obtain ⟨e, he, rfl⟩ := List.mem_map.1 hv
  exact timing_nonneg h (List.mem_filter.1 he).1

theorem average_between {vs : List Rat} (hne : vs ≠ []) (hl : ∀ v ∈ vs, least ≤ v)
    (hg : ∀ v ∈ vs, v ≤ greatest) :
    least ≤ vs.sum / vs.length ∧ vs.sum / vs.length ≤ greatest := by
  have hpos : (0 : Rat) < vs.length := Nat.cast_pos.2 (List.length_pos_iff.2 hne)
  rw [le_div_iff₀ hpos, div_le_iff₀ hpos, mul_comm, mul_comm greatest, ← nsmul_eq_mul,
    ← nsmul_eq_mul]
  exact ⟨List.card_nsmul_le_sum vs least hl, List.sum_le_card_nsmul vs greatest hg⟩

theorem stageMetric_summary (h : ∀ o ∈ os, o.Sound)
    (hk : (stage, count) ∈ (recorded os).stageCallCounts) :
    ∃ x, (recorded os).stageMetric stage count = some x ∧ x.stage = stage ∧
      StageSummary (valuesAt x.stage (timings os)) x := by
  have hcounts := recorded_tally (·.stageCallCounts) (fun n _ => n.getD 0 + 1) rfl
    (fun _ _ _ => rfl) (fun _ _ ho => (record_untimed ho).1) os
  have htotals := recorded_tally (·.stageLatencyTotals) (fun ms v => ms.getD 0 + v) rfl
    (fun _ _ _ => rfl) (fun _ _ ho => (record_untimed ho).2.1) os
  have hmins := recorded_tally (·.stageLatencyMins) (fun ms v => min (ms.getD v) v) rfl
    (fun _ _ _ => rfl) (fun _ _ ho => (record_untimed ho).2.2.1) os
  have hmaxs := recorded_tally (·.stageLatencyMaxs) (fun ms v => max (ms.getD v) v) rfl
    (fun _ _ _ => rfl) (fun _ _ ho => (record_untimed ho).2.2.2) os
  have hnodup : (Dict.keys (recorded os).stageCallCounts).Nodup := by
    rw [hcounts, keys_tally]
    exact (firsts_spec _).1
  have hget := Dict.get_of_mem hnodup hk
  rw [hcounts, get_tally] at hget
  have hne : valuesAt stage (timings os) ≠ [] := by
    intro hn
    rw [hn] at hget
    cases hget
  rw [fold_count hne] at hget
  obtain ⟨least, hleast, hlm, hlb⟩ := fold_pick (R := (· ≤ ·))
    (fun a b => ⟨min_choice a b, min_le_left a b, min_le_right a b⟩)
    (fun _ _ _ => le_trans) hne
  obtain ⟨greatest, hgreatest, hgm, hgb⟩ := fold_pick (R := (· ≥ ·))
    (fun a b => ⟨max_choice a b, le_max_left a b, le_max_right a b⟩)
    (fun _ _ _ => ge_trans) hne
  have htotal : (recorded os).stageLatencyTotals.get? stage =
      some (valuesAt stage (timings os)).sum := by
    rw [htotals, get_tally, fold_total hne]
  have hmin : (recorded os).stageLatencyMins.get? stage = some least := by
    rw [hmins, get_tally, hleast]
  have hmax : (recorded os).stageLatencyMaxs.get? stage = some greatest := by
    rw [hmaxs, get_tally, hgreatest]
  have hcount : count = (valuesAt stage (timings os)).length := (Option.some.inj hget).symm
  obtain ⟨hla, hag⟩ := average_between hne hlb hgb
  have hleast₀ := valuesAt_nonneg h hlm
  have hgreatest₀ := valuesAt_nonneg h hgm
  have hsum₀ : 0 ≤ (valuesAt stage (timings os)).sum :=
    List.sum_nonneg fun v hv => valuesAt_nonneg h hv
  have hchecks : 0 ≤ (valuesAt stage (timings os)).sum ∧
      0 ≤ (valuesAt stage (timings os)).sum / (count : Rat) ∧ 0 ≤ least ∧ 0 ≤ greatest :=
    ⟨hsum₀, div_nonneg hsum₀ (Nat.cast_nonneg count), hleast₀, hgreatest₀⟩
  refine ⟨⟨stage, count, _, _, least, greatest, hchecks.1, hchecks.2.1, hleast₀, hgreatest₀⟩,
    ?_, rfl, ?_⟩
  · rw [stageMetric, htotal, hmin, hmax]
    exact dif_pos hchecks
  · have hpos : (count : Rat) ≠ 0 := by
      rw [hcount]
      exact_mod_cast (List.length_pos_iff.2 hne).ne'
    refine ⟨hcount, rfl, div_mul_cancel₀ _ hpos, ⟨hlm, hlb⟩, ⟨hgm, hgb⟩, ?_⟩
    rw [← hcount] at hla hag
    exact ⟨hla, hag⟩

theorem sum_eq_zero_of_runs (h : (os.map (·.share.runs)).sum = 0) :
    (os.map (·.share.latencyMs)).sum = 0 := by
  apply List.sum_eq_zero
  intro ms hm
  obtain ⟨o, ho, rfl⟩ := List.mem_map.1 hm
  apply (share_runs o).2
  exact List.sum_eq_zero_iff.1 h _ (List.mem_map_of_mem ho)

theorem ratio_mul {total : Rat} {n : Nat} (h : n = 0 → total = 0) :
    (if n > 0 then total / n else 0) * n = total := by
  by_cases hn : n > 0
  · rw [if_pos hn, div_mul_cancel₀]
    exact_mod_cast hn.ne'
  · rw [if_neg hn, zero_mul, h (Nat.eq_zero_of_not_pos hn)]

theorem startup_nonneg (h : ∀ o ∈ os, o.Sound) :
    ∀ ms ∈ (recorded os).startupTimeMs, 0 ≤ ms := by
  intro ms hm
  rw [recorded_startup] at hm
  obtain ⟨o, ho, he⟩ := List.mem_filterMap.1 (List.mem_of_getLast? hm)
  have hs := h o ho
  cases o with
  | startupTime ms =>
    cases he
    exact hs
  | _ => cases he

theorem recorded_average (h : ∀ o ∈ os, o.Sound) :
    0 ≤ (recorded os).averagePipelineLatencyMs ∧
      (recorded os).averagePipelineLatencyMs * (recorded os).pipelineRunCount =
        (os.map (·.share.latencyMs)).sum := by
  have hruns := recorded_sum (·.pipelineRunCount) (·.runs) rfl
    (fun c o => (record_adds c o).runs) os
  have hlatency := recorded_sum (·.pipelineLatencyTotalMs) (·.latencyMs) rfl
    (fun c o => (record_adds c o).latencyMs) os
  have hnonneg : 0 ≤ (os.map (·.share.latencyMs)).sum := by
    apply List.sum_nonneg
    intro ms hm
    obtain ⟨o, ho, rfl⟩ := List.mem_map.1 hm
    exact share_latency (h o ho)
  rw [averagePipelineLatencyMs, hlatency, hruns]
  refine ⟨?_, ratio_mul sum_eq_zero_of_runs⟩
  split
  · exact div_nonneg hnonneg (Nat.cast_nonneg _)
  · exact le_refl 0

theorem recorded_rate (os : List Observation) :
    0 ≤ (recorded os).repairSuccessRate ∧ (recorded os).repairSuccessRate ≤ 1 ∧
      (recorded os).repairSuccessRate * (recorded os).repairAttemptedCount =
        (recorded os).repairSuccessCount := by
  have hrepairs := recorded_sum (·.repairAttemptedCount) (·.repairs) rfl
    (fun c o => (record_adds c o).repairs) os
  have hrepaired := recorded_sum (·.repairSuccessCount) (·.repaired) rfl
    (fun c o => (record_adds c o).repaired) os
  have hle : (recorded os).repairSuccessCount ≤ (recorded os).repairAttemptedCount := by
    rw [hrepairs, hrepaired]
    exact List.sum_le_sum fun o _ => share_repaired o
  rw [repairSuccessRate]
  refine ⟨?_, ?_, ratio_mul fun hz => ?_⟩
  · split
    · exact div_nonneg (Nat.cast_nonneg _) (Nat.cast_nonneg _)
    · exact le_refl 0
  · split
    · exact div_le_one_of_le₀ (Nat.cast_le.2 hle) (Nat.cast_nonneg _)
    · exact zero_le_one
  · rw [hz] at hle
    rw [Nat.le_zero.1 hle, Nat.cast_zero]

/-- Whatever was observed, a snapshot can be taken, and it sums the observations up. -/
theorem snapshot_summary (h : ∀ o ∈ os, o.Sound) (now : Int) :
    ∃ m, (recorded os).snapshot now = some m ∧ m.capturedAt = now ∧ Summary os m := by
  have hsum (f : InMemoryMetricsCollector → Nat) (g : Share → Nat) (h₀ : f {} = 0)
      (hg : ∀ c o, f (c.record o) = f c + g o.share) := recorded_sum f g h₀ hg os
  have hruns := hsum (·.pipelineRunCount) (·.runs) rfl fun c o => (record_adds c o).runs
  have hsuccesses :=
    hsum (·.pipelineSuccessCount) (·.successes) rfl fun c o => (record_adds c o).successes
  have hfailures :=
    hsum (·.pipelineFailureCount) (·.failures) rfl fun c o => (record_adds c o).failures
  have hcounts := recorded_tally (·.stageCallCounts) (fun n _ => n.getD 0 + 1) rfl
    (fun _ _ _ => rfl) (fun _ _ ho => (record_untimed ho).1) os
  obtain ⟨stages, hstages, hkeys, hstage⟩ :=
    mapM_some fun (e : String × Nat) (he : e ∈ (recorded os).stageCallCounts) =>
      stageMetric_summary h he
  have hnames : stages.map (·.stage) = firsts ((timings os).map (·.1)) := by
    rw [hkeys, ← keys_tally, ← hcounts]
    rfl
  have houtcomes : (recorded os).pipelineSuccessCount + (recorded os).pipelineFailureCount =
      (recorded os).pipelineRunCount := by
    rw [hsuccesses, hfailures, hruns, ← List.sum_map_add]
    exact congrArg List.sum (List.map_congr_left fun o _ => (share_runs o).1)
  obtain ⟨haverage, htotal⟩ := recorded_average h
  obtain ⟨hrate, hrate', hratio⟩ := recorded_rate os
  have hbounds : (recorded os).WithinBounds := ⟨haverage, hrate, hrate', startup_nonneg h⟩
  refine ⟨(recorded os).metricsSnapshot now stages hbounds, ?_, rfl, ?_⟩
  · rw [snapshot, hstages]
    exact dif_pos hbounds
  · exact {
      runs := hruns
      successes := hsuccesses
      outcomes := houtcomes
      average := htotal
      stages := hnames
      stage := hstage
      repairs := hsum (·.repairAttemptedCount) (·.repairs) rfl fun c o => (record_adds c o).repairs
      repaired :=
        hsum (·.repairSuccessCount) (·.repaired) rfl fun c o => (record_adds c o).repaired
      rate := hratio
      invalid :=
        hsum (·.validationFailureCount) (·.invalid) rfl fun c o => (record_adds c o).invalid
      executions :=
        hsum (·.sqlExecutionCount) (·.executions) rfl fun c o => (record_adds c o).executions
      rows := hsum (·.totalRowsReturned) (·.rows) rfl fun c o => (record_adds c o).rows
      promptTokens :=
        hsum (·.llmPromptTokens) (·.promptTokens) rfl fun c o => (record_adds c o).promptTokens
      completionTokens := hsum (·.llmCompletionTokens) (·.completionTokens) rfl
        fun c o => (record_adds c o).completionTokens
      hits := hsum (·.cacheHitCount) (·.hits) rfl fun c o => (record_adds c o).hits
      misses := hsum (·.cacheMissCount) (·.misses) rfl fun c o => (record_adds c o).misses
      startup := recorded_startup os }

end Snapshot

end QueryMind.Observability
