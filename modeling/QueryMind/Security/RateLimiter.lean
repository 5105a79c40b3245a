import QueryMind.Lib.TokenBucket
import Mathlib.Algebra.Order.Field.Rat

namespace QueryMind.Security
open Lib
set_option autoImplicit true

/-- No seconds to wait for a free token stands for a bucket that is never refilled. -/
structure RateLimitDecision where
  allowed : Bool
  retryAfterSeconds : Option Rat := some 0
  deriving DecidableEq, Repr

/-- One call of `check`, with the clock reading it takes. -/
structure RateLimitCheck where
  key : String
  capacity : Int
  refillPerSecond : Rat
  now : Rat
  deriving DecidableEq, Repr

abbrev Bucket := TokenBucket Rat

structure InMemoryTokenBucketRateLimiter where
  buckets : String → Option Bucket

namespace InMemoryTokenBucketRateLimiter

def initial : InMemoryTokenBucketRateLimiter := ⟨fun _ => none⟩

def put (l : InMemoryTokenBucketRateLimiter) (key : String) (b : Bucket) :
    InMemoryTokenBucketRateLimiter :=
  ⟨fun k => if k = key then some b else l.buckets k⟩

/-- The bucket a call decides on: created full, or topped up when time went by. -/
def topUp (l : InMemoryTokenBucketRateLimiter) (q : RateLimitCheck) : Bucket :=
  match l.buckets q.key with
  | none => ⟨q.capacity, q.now⟩
  | some bucket =>
    let elapsed := q.now - bucket.lastRefill
    if elapsed > 0 then
      ⟨min q.capacity (bucket.tokens + elapsed * q.refillPerSecond), q.now⟩
    else
      bucket

def check (l : InMemoryTokenBucketRateLimiter) (q : RateLimitCheck) :
    RateLimitDecision × InMemoryTokenBucketRateLimiter :=
  let bucket := l.topUp q
  if bucket.tokens ≥ 1 then
    ({ allowed := true }, l.put q.key ⟨bucket.tokens - 1, bucket.lastRefill⟩)
  else
    let missing := 1 - bucket.tokens
    let retryAfter :=
      if q.refillPerSecond > 0 then some (missing / q.refillPerSecond) else none
    ({ allowed := false, retryAfterSeconds := retryAfter }, l.put q.key bucket)

def after (l : InMemoryTokenBucketRateLimiter) :
    List RateLimitCheck → InMemoryTokenBucketRateLimiter
  | [] => l
  | q :: qs => (l.check q).2.after qs

def answers (key : String) (l : InMemoryTokenBucketRateLimiter) :
    List RateLimitCheck → List RateLimitDecision
  | [] => []
  | q :: qs =>
    if q.key = key then (l.check q).1 :: answers key (l.check q).2 qs
    else answers key (l.check q).2 qs

def allowed (key : String) (l : InMemoryTokenBucketRateLimiter) (qs : List RateLimitCheck) : Nat :=
  (l.answers key qs).countP (·.allowed)

end InMemoryTokenBucketRateLimiter

open InMemoryTokenBucketRateLimiter

def callsOn (key : String) (qs : List RateLimitCheck) : List RateLimitCheck :=
  qs.filter (fun q => q.key = key)

def readings (key : String) (qs : List RateLimitCheck) : List Rat := (callsOn key qs).map (·.now)

/-- The calls on a key that all ask for one capacity and one rate. -/
def Uniform (key : String) (capacity : Int) (rate : Rat) (qs : List RateLimitCheck) : Prop :=
  ∀ q ∈ qs, q.key = key → q.capacity = capacity ∧ q.refillPerSecond = rate

theorem Uniform.left (h : Uniform key c r (xs ++ ys)) : Uniform key c r xs :=
  fun q hq => h q (List.mem_append_left _ hq)

theorem Uniform.right (h : Uniform key c r (xs ++ ys)) : Uniform key c r ys :=
  fun q hq => h q (List.mem_append_right _ hq)

theorem Uniform.tail (h : Uniform key c r (q :: qs)) : Uniform key c r qs :=
  fun q' hq => h q' (List.mem_cons_of_mem _ hq)

theorem callsOn_append (key : String) (xs ys : List RateLimitCheck) :
    callsOn key (xs ++ ys) = callsOn key xs ++ callsOn key ys :=
  List.filter_append ..

theorem callsOn_cons_self (h : q.key = key) : callsOn key (q :: qs) = q :: callsOn key qs :=
  List.filter_cons_of_pos (decide_eq_true h)

theorem callsOn_cons_other (h : q.key ≠ key) : callsOn key (q :: qs) = callsOn key qs :=
  List.filter_cons_of_neg (by rw [decide_eq_false h]; exact Bool.false_ne_true)

theorem readings_append (key : String) (xs ys : List RateLimitCheck) :
    readings key (xs ++ ys) = readings key xs ++ readings key ys := by
  rw [readings, callsOn_append, List.map_append]
  rfl

theorem readings_none (h : ∀ q ∈ qs, q.key ≠ key) : readings key qs = [] := by
  rw [readings, callsOn, List.filter_eq_nil_iff.2, List.map_nil]
  intro q hq
  rw [decide_eq_false (h q hq)]
  exact Bool.false_ne_true

theorem readings_cons_self (h : q.key = key) :
    readings key (q :: qs) = q.now :: readings key qs :=
  congrArg (List.map RateLimitCheck.now) (callsOn_cons_self h)

theorem readings_cons_other (h : q.key ≠ key) : readings key (q :: qs) = readings key qs :=
  congrArg (List.map RateLimitCheck.now) (callsOn_cons_other h)

theorem after_append (l : InMemoryTokenBucketRateLimiter) (xs ys : List RateLimitCheck) :
    l.after (xs ++ ys) = (l.after xs).after ys := by
  induction xs generalizing l with
  | nil => rfl
  | cons q xs ih => exact ih _

@[simp] theorem put_self (l : InMemoryTokenBucketRateLimiter) :
    (l.put k b).buckets k = some b := if_pos rfl

theorem put_other (l : InMemoryTokenBucketRateLimiter) (h : k' ≠ k) :
    (l.put k b).buckets k' = l.buckets k' := if_neg h

theorem check_other (l : InMemoryTokenBucketRateLimiter) (h : q.key ≠ key) :
    (l.check q).2.buckets key = l.buckets key := by
  rw [check]
  split
  · exact put_other l (Ne.symm h)
  · exact put_other l (Ne.symm h)

/-- A call is one arrival at the bucket of its key. -/
theorem check_self (l : InMemoryTokenBucketRateLimiter) (q : RateLimitCheck) :
    (l.check q).1.allowed =
        (TokenBucket.arrive (q.capacity : Rat) q.refillPerSecond q.now (l.buckets q.key)).1 ∧
      (l.check q).2.buckets q.key =
        some (TokenBucket.arrive (q.capacity : Rat) q.refillPerSecond q.now
          (l.buckets q.key)).2 := by
  have ht : TokenBucket.arrive (q.capacity : Rat) q.refillPerSecond q.now (l.buckets q.key) =
      TokenBucket.spend (l.topUp q) := by
    rw [topUp]
    cases l.buckets q.key with
    | none => rfl
    | some b => rfl
  rw [ht, check, TokenBucket.spend]
  split
  · exact ⟨rfl, put_self l⟩
  · exact ⟨rfl, put_self l⟩

theorem check_denied (h : (check l q).1.allowed = false) :
    (check l q).2.buckets q.key = some (l.topUp q) ∧
      (check l q).1.retryAfterSeconds =
        if q.refillPerSecond > 0 then some ((1 - (l.topUp q).tokens) / q.refillPerSecond)
        else none := by
  rw [check] at h ⊢
  split at h
  · cases h
  · rename_i hn
    rw [if_neg hn]
    exact ⟨put_self l, rfl⟩

theorem check_congr (h : l.buckets q.key = l'.buckets q.key) : (check l q).1 = (check l' q).1 := by
  have ht : l.topUp q = l'.topUp q := by rw [topUp, topUp, h]
  rw [check, check, ht]
  split
  · rfl
  · rfl

/-- The limiter, seen from one key, is a token bucket run on the readings of that key. -/
theorem after_buckets (hu : Uniform key c r qs) :
    (after l qs).buckets key = TokenBucket.after (c : Rat) r (l.buckets key) (readings key qs) := by
  induction qs generalizing l with
  | nil => rfl
  | cons q qs ih =>
    have hq := hu q List.mem_cons_self
    rw [after, ih hu.tail]
    by_cases hk : q.key = key
    · obtain ⟨hc, hr⟩ := hq hk
      subst hk
      rw [readings_cons_self rfl, TokenBucket.after, (check_self l q).2, hc, hr]
    · rw [check_other l hk, readings_cons_other hk]

theorem answers_allowed (hu : Uniform key c r qs) :
    (answers key l qs).map (·.allowed) =
      (TokenBucket.arrivals (c : Rat) r (l.buckets key) (readings key qs)).map (·.1) := by
  induction qs generalizing l with
  | nil => rfl
  | cons q qs ih =>
    have hq := hu q List.mem_cons_self
    rw [answers]
    split
    · rename_i hk
      obtain ⟨hc, hr⟩ := hq hk
      subst hk
      rw [readings_cons_self rfl, TokenBucket.arrivals, List.map_cons, List.map_cons, ih hu.tail,
        (check_self l q).1, (check_self l q).2, hc, hr]
    · rename_i hk
      rw [ih hu.tail, check_other l hk, readings_cons_other hk]

theorem answers_append (l : InMemoryTokenBucketRateLimiter) :
    answers key l (xs ++ ys) = answers key l xs ++ answers key (l.after xs) ys := by
  induction xs generalizing l with
  | nil => rfl
  | cons q xs ih =>
    rw [List.cons_append, answers, answers, ih]
    split
    · rfl
    · rfl

theorem allowed_append (l : InMemoryTokenBucketRateLimiter) :
    allowed key l (xs ++ ys) = allowed key l xs + allowed key (l.after xs) ys := by
  rw [allowed, answers_append, List.countP_append]
  rfl

theorem allowed_eq (hu : Uniform key c r qs) :
    allowed key l qs =
      TokenBucket.admitted
        (TokenBucket.arrivals (c : Rat) r (l.buckets key) (readings key qs)) := by
  have h := congrArg (List.countP id) (answers_allowed (l := l) hu)
  rw [List.countP_map, List.countP_map] at h
  exact h

theorem answers_callsOn (h : l.buckets key = l'.buckets key) :
    answers key l qs = answers key l' (callsOn key qs) := by
  induction qs generalizing l l' with
  | nil => rfl
  | cons q qs ih =>
    rw [answers]
    split
    · rename_i hk
      subst hk
      rw [callsOn_cons_self rfl, answers, if_pos rfl]
      refine congr (congrArg List.cons (check_congr h)) (ih ?_)
      rw [(check_self l q).2, (check_self l' q).2, h]
    · rename_i hk
      rw [callsOn_cons_other hk]
      exact ih ((check_other l hk).trans h)

section Bound
variable {key : String} {c : Int} {r : Rat}

theorem capacity_nonneg (hc : 1 ≤ c) : (0 : Rat) ≤ c := Int.cast_nonneg (by omega)

theorem buckets_sound (hc : 1 ≤ c) (hr : 0 < r) (hu : Uniform key c r qs) :
    TokenBucket.Sound (c : Rat) ((after initial qs).buckets key) := by
  rw [after_buckets hu]
  apply TokenBucket.after_sound (capacity_nonneg hc) hr.le
  intro b h
  cases h

theorem stretch_allowed (hc : 1 ≤ c) (hr : 0 < r) (hk : q.key = key)
    (hu : Uniform key c r (pre ++ q :: mid)) : ∃ b b',
      (after initial (pre ++ [q])).buckets key = some b ∧
      (after initial (pre ++ q :: mid)).buckets key = some b' ∧
      (∀ b₀, (after initial pre).buckets key = some b₀ → b₀.lastRefill ≤ b.lastRefill) ∧
      q.now ≤ b.lastRefill ∧ b.lastRefill ≤ b'.lastRefill ∧
      (allowed key (after initial pre) (q :: mid) : Rat) ≤
        c + r * (b'.lastRefill - b.lastRefill) := by
  subst hk
  have hs := buckets_sound hc hr hu.left
  obtain ⟨hcap, hrate⟩ := hu.right q List.mem_cons_self rfl
  obtain ⟨b', ha, hw, hl, ht⟩ :=
    TokenBucket.stretch_spec (capacity_nonneg hc) hr.le hs q.now (readings q.key mid)
  refine ⟨_, b', ?_, ?_, ?_, ?_, hl, ?_⟩
  · rw [after_append, after, after, (check_self _ q).2, hcap, hrate]
  · rw [after_append, after_buckets hu.right, readings_cons_self rfl]
    exact ha
  · intro b₀ h₀
    rw [h₀]
    exact (TokenBucket.arrive_spec hr.le (hs b₀ h₀) q.now).2.1
  · exact (TokenBucket.arrive_sound (capacity_nonneg hc) hr.le hs q.now).2.1
  · rw [allowed_eq hu.right, readings_cons_self rfl]
    exact (le_add_of_nonneg_left hw.nonneg).trans ht

theorem span_allowed (hc : 1 ≤ c) (hr : 0 < r) (hu : Uniform key c r (pre ++ mid)) (ht : 0 ≤ t)
    (h : ∀ q ∈ mid, q.key = key → t₀ ≤ q.now ∧ q.now ≤ t₀ + t) :
    (allowed key (after initial pre) mid : Rat) ≤ c + r * t := by
  rw [allowed_eq hu.right]
  apply TokenBucket.span_spec (capacity_nonneg hc) hr.le (buckets_sound hc hr hu.left) ht
  intro now hn
  obtain ⟨q, hq, he⟩ := List.mem_map.1 hn
  obtain ⟨hm, hk⟩ := List.mem_filter.1 hq
  rw [← he]
  exact h q hm (of_decide_eq_true hk)

/-- Under a clock that never goes back a refusal names the first reading that is served. -/
theorem denial_tight (hc : 1 ≤ c) (hr : 0 < r) (hx : x.key = key) (hy : y.key = key)
    (hu : Uniform key c r (pre ++ x :: mid ++ [y])) (hm : ∀ q ∈ mid, q.key ≠ key)
    (hn : (readings key (pre ++ x :: mid ++ [y])).Pairwise (· ≤ ·))
    (hd : ((after initial pre).check x).1.allowed = false) : ∃ wait,
      ((after initial pre).check x).1.retryAfterSeconds = some wait ∧
      (((after initial (pre ++ x :: mid)).check y).1.allowed = true ↔ x.now + wait ≤ y.now) := by
  subst hx
  have hux := hu.left.left
  have hlater : ∀ t ∈ readings x.key pre, t ≤ x.now := by
    intro t ht
    rw [List.append_assoc, readings_append] at hn
    apply (List.pairwise_append.1 hn).2.2 t ht
    rw [List.cons_append, readings_cons_self rfl]
    exact List.mem_cons_self
  have hxy : x.now ≤ y.now := by
    rw [readings_append] at hn
    apply (List.pairwise_append.1 hn).2.2
    · rw [readings_append, readings_cons_self rfl]
      exact List.mem_append_right _ List.mem_cons_self
    · rw [readings_cons_self hy]
      exact List.mem_cons_self
  obtain ⟨hxc, hxr⟩ := hu.left.right x List.mem_cons_self rfl
  obtain ⟨hyc, hyr⟩ := hu.right y List.mem_cons_self hy
  obtain ⟨hput, hwait⟩ := check_denied hd
  rw [hxr, if_pos hr] at hwait
  have hdate : ((after initial pre).topUp x).lastRefill = x.now := by
    have hput' := (check_self (after initial pre) x).2
    rw [hput] at hput'
    rw [Option.some.inj hput']
    apply TokenBucket.arrive_lastRefill
    intro b₀ h₀
    rw [after_buckets hux] at h₀
    rcases TokenBucket.after_mem h₀ with he | ⟨_, he, _⟩ | hmem
    · cases he
    · cases he
    · exact hlater _ hmem
  have hstay : (after initial (pre ++ x :: mid)).buckets x.key =
      some ((after initial pre).topUp x) := by
    rw [after_append, after, after_buckets (hu.left.right.tail), readings_none hm,
      TokenBucket.after, hput]
  refine ⟨_, hwait, ?_⟩
  rw [(check_self _ y).1, hy, hstay, hyc, hyr, ← hdate]
  apply TokenBucket.arrive_served _ hr
  · rw [hdate]
    exact hxy
  · exact_mod_cast hc

/-- What the limiter promises about one key over a sequence of calls. -/
structure RateBound (key : String) (c : Int) (r : Rat) (calls : List RateLimitCheck) : Prop where
  within : ∀ b, (after initial calls).buckets key = some b → 0 ≤ b.tokens ∧ b.tokens ≤ c
  independent : answers key initial calls = answers key initial (callsOn key calls)
  stretch : ∀ pre q mid post, calls = pre ++ q :: mid ++ post → q.key = key → ∃ b b',
    (after initial (pre ++ [q])).buckets key = some b ∧
    (after initial (pre ++ q :: mid)).buckets key = some b' ∧
    (∀ b₀, (after initial pre).buckets key = some b₀ → b₀.lastRefill ≤ b.lastRefill) ∧
    q.now ≤ b.lastRefill ∧ b.lastRefill ≤ b'.lastRefill ∧
    (allowed key (after initial pre) (q :: mid) : Rat) ≤ c + r * (b'.lastRefill - b.lastRefill)
  tight : (readings key calls).Pairwise (· ≤ ·) →
    ∀ pre x mid y post, calls = pre ++ x :: mid ++ y :: post → x.key = key → y.key = key →
      (∀ q ∈ mid, q.key ≠ key) → ((after initial pre).check x).1.allowed = false → ∃ wait,
        ((after initial pre).check x).1.retryAfterSeconds = some wait ∧
        (((after initial (pre ++ x :: mid)).check y).1.allowed = true ↔ x.now + wait ≤ y.now)

/-- The bound holds for every key with its own capacity and rate, whatever the clock does. -/
theorem rate_limit_bound (hc : 1 ≤ c) (hr : 0 < r) (hu : Uniform key c r calls) :
    RateBound key c r calls where
  within b hb := ⟨(buckets_sound hc hr hu b hb).nonneg, (buckets_sound hc hr hu b hb).le_cap⟩
  independent := answers_callsOn rfl
  stretch pre q mid post he hk := by
    subst he
    exact stretch_allowed hc hr hk hu.left
  tight hn pre x mid y post he hx hy hm hd := by
    have hs : calls = pre ++ x :: mid ++ [y] ++ post := by rw [he, List.append_assoc _ [y]]; rfl
    rw [hs, readings_append] at hn
    rw [hs] at hu
    exact denial_tight hc hr hx hy hu.left hm (List.pairwise_append.1 hn).1 hd

end Bound

/-- Two keys, and a clock that is set back between two calls. -/
def setBack : List RateLimitCheck :=
  [⟨"query:user:1", 2, 1 / 2, 10⟩, ⟨"query:user:1", 2, 1 / 2, 8⟩, ⟨"query:user:2", 30, 1 / 2, 8⟩,
    ⟨"query:user:1", 2, 1 / 2, 9⟩, ⟨"query:user:1", 2, 1 / 2, 12⟩]

theorem rate_limit_bound_setBack : RateBound "query:user:1" 2 (1 / 2) setBack :=
  rate_limit_bound (by decide) (by norm_num) (by simp [Uniform, setBack])

example : (answers "query:user:1" initial setBack).map (·.allowed) = [true, true, false, true] := by
  decide +kernel

end QueryMind.Security
