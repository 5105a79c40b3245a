import Mathlib.Algebra.Order.Ring.Rat
import Mathlib.Data.List.Range
import QueryMind.Llm.Adapter
import QueryMind.Llm.Models

namespace QueryMind.Llm
open Prompt
set_option autoImplicit true

structure RetryPolicy where
  maxRetries : Nat
  baseDelaySeconds : Rat
  maxDelaySeconds : Rat
  deriving DecidableEq, Repr

def defaultBaseDelaySeconds : Rat := 1 / 2

def defaultMaxDelaySeconds : Rat := 30

/-- The constructor; the error is the text of an `LLMConfigurationError`. -/
def RetryPolicy.new (maxRetries : Int) (baseDelaySeconds maxDelaySeconds : Rat) :
    Except String RetryPolicy :=
  if maxRetries < 0 then .error s!"max_retries must be >= 0, got {maxRetries}."
  else .ok ⟨maxRetries.toNat, baseDelaySeconds, maxDelaySeconds⟩

/-- How one call of the wrapped operation ends. -/
inductive OperationOutcome (τ ε : Type)
  | success (result : τ)
  | transient (error : ε)
  | otherError (error : ε)
  deriving DecidableEq, Repr

def OperationOutcome.isTransient : OperationOutcome τ ε → Bool
  | .transient _ => true
  | .success _ | .otherError _ => false

inductive RetryEvent
  | call
  | sleep (seconds : Rat)
  deriving DecidableEq, Repr

/-- What `execute` raises; the error of a call goes on unchanged. -/
inductive RetryFailure (ε : Type)
  | raised (error : ε)
  | exhausted (attempts : Nat) (lastError : ε)
  | overflowError
  | assertionError
  deriving DecidableEq, Repr

/-- `2.0 ** exponent`: the floats end below `2 ** 1024`, where Python raises `OverflowError`. -/
def floatPowerOfTwo (exponent : Nat) : Option Rat :=
  if exponent < 1024 then some (2 ^ exponent) else none

/-- Multiplying by a power of two is exact; a product beyond the floats is above any cap. -/
def RetryPolicy.delayForAttempt (policy : RetryPolicy) (attempt : Nat) : Option Rat :=
  (floatPowerOfTwo (attempt - 1)).map fun power =>
    min (policy.baseDelaySeconds * power) policy.maxDelaySeconds

/-- The loop over the attempts that are left, with the operation's outcome at each. -/
def RetryPolicy.executeFrom (policy : RetryPolicy) (operation : Nat → OperationOutcome τ ε) :
    List Nat → Option ε → List RetryEvent × Except (RetryFailure ε) (τ × Nat)
  | [], some lastError => ([], .error (.exhausted (policy.maxRetries + 1) lastError))
  | [], none => ([], .error .assertionError)
  | attempt :: attempts, _ =>
    match operation attempt with
    | .success result => ([.call], .ok (result, attempt))
    | .otherError error => ([.call], .error (.raised error))
    | .transient error =>
      if attempt ≥ policy.maxRetries then
        ([.call], .error (.exhausted (policy.maxRetries + 1) error))
      else
        match policy.delayForAttempt (attempt + 1) with
        | none => ([.call], .error .overflowError)
        | some delay =>
          let (events, outcome) := policy.executeFrom operation attempts (some error)
          (.call :: .sleep delay :: events, outcome)

def RetryPolicy.execute (policy : RetryPolicy) (operation : Nat → OperationOutcome τ ε) :
    List RetryEvent × Except (RetryFailure ε) (τ × Nat) :=
  policy.executeFrom operation (List.range (policy.maxRetries + 1)) none

structure LLMAdapter where
  config : LLMProviderConfig
  retryPolicy : RetryPolicy
  deriving DecidableEq, Repr

/-- Without a policy the configured number of retries makes one. -/
def LLMAdapter.new (config : LLMProviderConfig) (retryCount : Nat)
    (retryPolicy : Option RetryPolicy) : Except String LLMAdapter :=
  match retryPolicy with
  | some retryPolicy => .ok ⟨config, retryPolicy⟩
  | none => (RetryPolicy.new retryCount defaultBaseDelaySeconds defaultMaxDelaySeconds).map fun
    retryPolicy => ⟨config, retryPolicy⟩

theorem LLMAdapter.new_none (config : LLMProviderConfig) (retryCount : Nat) :
    LLMAdapter.new config retryCount none =
      .ok ⟨config, ⟨retryCount, defaultBaseDelaySeconds, defaultMaxDelaySeconds⟩⟩ := by
  have hn : ¬(retryCount : Int) < 0 := Int.not_lt.2 (Int.natCast_nonneg retryCount)
  rw [LLMAdapter.new, RetryPolicy.new, if_neg hn, Int.toNat_natCast]
  rfl

inductive GenerateFailure (ε : Type)
  | invalidRequest
  | failed (failure : RetryFailure ε)
  deriving DecidableEq, Repr

/-- The count of the policy replaces that of the provider where they differ. -/
def LLMResponse.recounted (response : LLMResponse) (retryCount : Nat) : LLMResponse :=
  if response.metrics.retryCount ≠ retryCount then
    { response with metrics := { response.metrics with retryCount := retryCount } }
  else response

/-- The records of the metrics collector after the call, and what the call comes to. -/
def LLMAdapter.generate (adapter : LLMAdapter)
    (providerClient : LLMRequest → Nat → OperationOutcome LLMResponse ε) (prompt : CompiledPrompt)
    (records : List GenerationMetrics) :
    List GenerationMetrics × Except (GenerateFailure ε) LLMResponse :=
  let llmRequest := request adapter.config prompt
  if llmRequest.prompt.isEmpty then (records, .error .invalidRequest)
  else
    match (adapter.retryPolicy.execute (providerClient llmRequest)).2 with
    | .error failure => (records, .error (.failed failure))
    | .ok (response, retryCount) =>
      let response := response.recounted retryCount
      (records ++ [response.metrics], .ok response)

section
variable (policy : RetryPolicy) (operation : Nat → OperationOutcome τ ε)

/-- The least of the first outcome that is not transient and the last attempt. -/
def RetryPolicy.stopIndex : Nat :=
  ((List.range policy.maxRetries).find? fun i => !(operation i).isTransient).getD policy.maxRetries

/-- A call, and before each further one a sleep with the delay of its retry. -/
def RetryPolicy.expectedEvents (stop : Nat) : List RetryEvent :=
  .call :: (List.range stop).flatMap fun i =>
    [.sleep (min (policy.baseDelaySeconds * 2 ^ i) policy.maxDelaySeconds), .call]

def RetryPolicy.expectedOutcome (stop : Nat) : Except (RetryFailure ε) (τ × Nat) :=
  match operation stop with
  | .success result => .ok (result, stop)
  | .otherError error => .error (.raised error)
  | .transient error => .error (.exhausted (policy.maxRetries + 1) error)

end

variable {policy : RetryPolicy} {operation : Nat → OperationOutcome τ ε}

theorem stopIndex_le (policy : RetryPolicy) (operation : Nat → OperationOutcome τ ε) :
    policy.stopIndex operation ≤ policy.maxRetries := by
  rw [RetryPolicy.stopIndex]
  cases h : (List.range policy.maxRetries).find? fun i => !(operation i).isTransient with
  | none => exact Nat.le_refl _
  | some i => exact (List.mem_range.1 (List.mem_of_find?_eq_some h)).le

theorem transient_before_stop (hi : i < policy.stopIndex operation) :
    ∃ error, operation i = .transient error := by
  have hmax := hi.trans_le (stopIndex_le policy operation)
  have ht : (operation i).isTransient = true := by
    rw [RetryPolicy.stopIndex] at hi
    cases h : (List.range policy.maxRetries).find? fun i => !(operation i).isTransient with
    | none =>
      have hn := List.find?_eq_none.1 h i (List.mem_range.2 hmax)
      simpa only [Bool.not_eq_true', Bool.not_eq_false] using hn
    | some k =>
      rw [h] at hi
      have hn := (List.find?_range_eq_some.1 h).2.2 i hi
      simpa only [Bool.not_not] using hn
  cases h : operation i with
  | transient error => exact ⟨error, rfl⟩
  | success result => rw [h] at ht; cases ht
  | otherError error => rw [h] at ht; cases ht

theorem settled_at_stop (h : policy.stopIndex operation < policy.maxRetries) (error : ε) :
    operation (policy.stopIndex operation) ≠ .transient error := by
  intro he
  rw [RetryPolicy.stopIndex] at h he
  cases hf : (List.range policy.maxRetries).find? fun i => !(operation i).isTransient with
  | none =>
    rw [hf] at h
    exact absurd h (Nat.lt_irrefl _)
  | some k =>
    rw [hf, Option.getD_some] at he
    have hk := List.find?_some hf
    rw [he] at hk
    cases hk

theorem delayForAttempt_eq (policy : RetryPolicy) (hi : i < 1024) :
    policy.delayForAttempt (i + 1) =
      some (min (policy.baseDelaySeconds * 2 ^ i) policy.maxDelaySeconds) := by
  rw [RetryPolicy.delayForAttempt, floatPowerOfTwo, Nat.add_sub_cancel, if_pos hi, Option.map_some]

theorem delayForAttempt_overflow (policy : RetryPolicy) :
    policy.delayForAttempt (1024 + 1) = none := by
  rw [RetryPolicy.delayForAttempt, floatPowerOfTwo, Nat.add_sub_cancel,
    if_neg (Nat.lt_irrefl _), Option.map_none]

theorem executeFrom_transient (ho : operation a = .transient error) (ha : a < policy.maxRetries)
    (attempts : List Nat) (lastError : Option ε) :
    policy.executeFrom operation (a :: attempts) lastError =
      match policy.delayForAttempt (a + 1) with
      | none => ([.call], .error .overflowError)
      | some delay =>
        (.call :: .sleep delay :: (policy.executeFrom operation attempts (some error)).1,
          (policy.executeFrom operation attempts (some error)).2) := by
  rw [RetryPolicy.executeFrom, ho]
  exact if_neg (Nat.not_le.2 ha)

theorem executeFrom_stop (hstop : policy.stopIndex operation = a + k)
    (hn : a + n = policy.maxRetries + 1) (hk : a + k ≤ 1024) (lastError : Option ε) :
    policy.executeFrom operation (List.range' a n) lastError =
      (.call :: (List.range' a k).flatMap (fun i =>
        [.sleep (min (policy.baseDelaySeconds * 2 ^ i) policy.maxDelaySeconds), .call]),
        policy.expectedOutcome operation (a + k)) := by
  have hle := stopIndex_le policy operation
  induction k generalizing a n lastError with
  | zero =>
    obtain ⟨n, rfl⟩ := Nat.exists_eq_succ_of_ne_zero (show n ≠ 0 by omega)
    rw [List.range'_succ, RetryPolicy.executeFrom, RetryPolicy.expectedOutcome, Nat.add_zero]
    cases ho : operation a with
    | success result => rfl
    | otherError error => rfl
    | transient error =>
      have hlast : a ≥ policy.maxRetries := by
        apply Nat.le_of_not_lt
        intro hlt
        rw [Nat.add_zero] at hstop
        rw [← hstop] at hlt ho
        exact settled_at_stop hlt error ho
      exact if_pos hlast
  | succ k ih =>
    obtain ⟨n, rfl⟩ := Nat.exists_eq_succ_of_ne_zero (show n ≠ 0 by omega)
    have hlt : a < policy.stopIndex operation := by omega
    obtain ⟨error, ho⟩ := transient_before_stop hlt
    have hdelay := delayForAttempt_eq policy (show a < 1024 by omega)
    rw [List.range'_succ, executeFrom_transient ho (by omega), hdelay,
      ih (by omega) (by omega) (by omega), List.range'_succ, List.flatMap_cons,
      Nat.succ_add_eq_add_succ]
    rfl

theorem executeFrom_overflow (hstop : 1024 < policy.stopIndex operation) (ha : a + k = 1024)
    (hn : a + n = policy.maxRetries + 1) (lastError : Option ε) :
    (policy.executeFrom operation (List.range' a n) lastError).2 = .error .overflowError := by
  have hle := stopIndex_le policy operation
  induction k generalizing a n lastError with
  | zero =>
    obtain ⟨n, rfl⟩ := Nat.exists_eq_succ_of_ne_zero (show n ≠ 0 by omega)
    obtain rfl : a = 1024 := ha
    obtain ⟨error, ho⟩ := transient_before_stop hstop
    rw [List.range'_succ, executeFrom_transient ho (hstop.trans_le hle), delayForAttempt_overflow]
  | succ k ih =>
    obtain ⟨n, rfl⟩ := Nat.exists_eq_succ_of_ne_zero (show n ≠ 0 by omega)
    have hlt : a < policy.stopIndex operation := by omega
    obtain ⟨error, ho⟩ := transient_before_stop hlt
    rw [List.range'_succ, executeFrom_transient ho (by omega),
      delayForAttempt_eq policy (by omega)]
    exact ih (by omega) (by omega) (some error)

theorem execute_eq (hstop : policy.stopIndex operation ≤ 1024) :
    policy.execute operation = (policy.expectedEvents (policy.stopIndex operation),
      policy.expectedOutcome operation (policy.stopIndex operation)) := by
  have hzero : policy.stopIndex operation = 0 + policy.stopIndex operation := (Nat.zero_add _).symm
  have h := executeFrom_stop hzero (Nat.zero_add _) (hzero ▸ hstop) none
  rw [Nat.zero_add] at h
  rw [RetryPolicy.execute, List.range_eq_range', h, RetryPolicy.expectedEvents,
    List.range_eq_range']

theorem execute_overflow (hstop : 1024 < policy.stopIndex operation) :
    (policy.execute operation).2 = .error .overflowError := by
  rw [RetryPolicy.execute, List.range_eq_range']
  exact executeFrom_overflow hstop (Nat.zero_add _) (Nat.zero_add _) none

theorem expectedOutcome_ne_overflow (policy : RetryPolicy)
    (operation : Nat → OperationOutcome τ ε) (stop : Nat) :
    policy.expectedOutcome operation stop ≠ .error .overflowError := by
  rw [RetryPolicy.expectedOutcome]
  cases operation stop <;> exact fun h => by cases h

/-- What a call of the adapter records and comes to, by what the policy makes of the provider: a
failure goes on and leaves no record; a response goes on with the retries that were counted, and is
recorded with them. -/
def expectedGeneration (records : List GenerationMetrics) :
    Except (RetryFailure ε) (LLMResponse × Nat) →
      List GenerationMetrics × Except (GenerateFailure ε) LLMResponse
  | .error failure => (records, .error (.failed failure))
  | .ok (response, retryCount) =>
    let metrics := { response.metrics with retryCount := retryCount }
    (records ++ [metrics], .ok { response with metrics := metrics })

theorem LLMResponse.recounted_eq (response : LLMResponse) (retryCount : Nat) :
    response.recounted retryCount =
      { response with metrics := { response.metrics with retryCount := retryCount } } := by
  rw [LLMResponse.recounted]
  by_cases h : response.metrics.retryCount = retryCount
  · rw [if_neg (not_not_intro h)]
    subst h
    rfl
  · exact if_pos h

theorem generate_eq (adapter : LLMAdapter)
    (providerClient : LLMRequest → Nat → OperationOutcome LLMResponse ε) (prompt : CompiledPrompt)
    (records : List GenerationMetrics) :
    adapter.generate providerClient prompt records =
      if (request adapter.config prompt).prompt.isEmpty then (records, .error .invalidRequest)
      else expectedGeneration records
        (adapter.retryPolicy.execute (providerClient (request adapter.config prompt))).2 := by
  rw [LLMAdapter.generate]
  by_cases hp : (request adapter.config prompt).prompt.isEmpty
  · rw [if_pos hp, if_pos hp]
  · rw [if_neg hp, if_neg hp]
    cases ho : (adapter.retryPolicy.execute (providerClient (request adapter.config prompt))).2 with
    | error failure => rfl
    | ok answer =>
      obtain ⟨response, retryCount⟩ := answer
      show (records ++ [(response.recounted retryCount).metrics],
        Except.ok (response.recounted retryCount)) = _
      rw [response.recounted_eq retryCount]
      rfl

/-- The attempts, sleeps and outcome are the ones wanted exactly where no more than 1024 sleeps are
due; the adapter hands on what the policy comes to and records the retries that were counted. -/
theorem execute_iff {τ ε δ : Type} (policy : RetryPolicy) (operation : Nat → OperationOutcome τ ε)
    (adapter : LLMAdapter) (providerClient : LLMRequest → Nat → OperationOutcome LLMResponse δ)
    (prompt : CompiledPrompt) (records : List GenerationMetrics) :
    (policy.execute operation = (policy.expectedEvents (policy.stopIndex operation),
      policy.expectedOutcome operation (policy.stopIndex operation)) ↔
        policy.stopIndex operation ≤ 1024) ∧
      adapter.generate providerClient prompt records =
        if (request adapter.config prompt).prompt.isEmpty then (records, .error .invalidRequest)
        else expectedGeneration records
          (adapter.retryPolicy.execute (providerClient (request adapter.config prompt))).2 := by
  refine ⟨?_, generate_eq adapter providerClient prompt records⟩
  constructor
  · intro h
    apply Nat.le_of_not_lt
    intro hstop
    apply expectedOutcome_ne_overflow policy operation (policy.stopIndex operation)
    rw [← execute_overflow hstop, h]
  · intro hstop
    exact execute_eq hstop

theorem stopIndex_failing (τ : Type) (maxRetries : Nat) (base cap : Rat) (error : ε) :
    RetryPolicy.stopIndex ⟨maxRetries, base, cap⟩
      (fun _ => (.transient error : OperationOutcome τ ε)) = maxRetries := by
  rw [RetryPolicy.stopIndex, List.find?_eq_none.2]
  · rfl
  · intro i _ h
    cases h

theorem execute_overflows : ∃ adapter,
    LLMAdapter.new ⟨"claude-sonnet-5", 0, 4096⟩ 1025 none = .ok adapter ∧
      adapter.retryPolicy.execute (fun _ => (.transient () : OperationOutcome Unit Unit)) ≠
        (adapter.retryPolicy.expectedEvents 1025, .error (.exhausted 1026 ())) := by
  refine ⟨_, LLMAdapter.new_none _ 1025, ?_⟩
  intro h
  have hstop := stopIndex_failing Unit 1025 defaultBaseDelaySeconds defaultMaxDelaySeconds ()
  have ho := execute_overflow (hstop.symm ▸ (by decide : 1024 < 1025))
  rw [h] at ho
  cases ho

end QueryMind.Llm
