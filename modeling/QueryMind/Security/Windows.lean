import QueryMind.Security.LoginThrottle

namespace QueryMind.Security
open Lib InMemoryTokenBucketRateLimiter
set_option autoImplicit true

def InMemoryTokenBucketRateLimiter.decisions (l : InMemoryTokenBucketRateLimiter) :
    List RateLimitCheck → List (RateLimitCheck × Bool)
  | [] => []
  | q :: qs => (q, (l.check q).1.allowed) :: (l.check q).2.decisions qs

theorem decisions_append (l : InMemoryTokenBucketRateLimiter) (xs ys : List RateLimitCheck) :
    l.decisions (xs ++ ys) = l.decisions xs ++ (l.after xs).decisions ys := by
  induction xs generalizing l with
  | nil => rfl
  | cons q xs ih => exact congrArg _ (ih _)

theorem decisions_calls (l : InMemoryTokenBucketRateLimiter) (qs : List RateLimitCheck) :
    (l.decisions qs).map (·.1) = qs := by
  induction qs generalizing l with
  | nil => rfl
  | cons q qs ih => exact congrArg _ (ih _)

theorem decisions_callsOn {l l' : InMemoryTokenBucketRateLimiter}
    (h : l.buckets key = l'.buckets key) :
    (l.decisions qs).filter (·.1.key = key) = l'.decisions (callsOn key qs) := by
  induction qs generalizing l l' with
  | nil => rfl
  | cons q qs ih =>
    rw [decisions]
    by_cases hk : q.key = key
    · subst hk
      rw [List.filter_cons, if_pos (decide_eq_true rfl), callsOn_cons_self rfl, decisions]
      refine congr (congrArg List.cons (congrArg _ (congrArg _ (check_congr h)))) (ih ?_)
      rw [(check_self l q).2, (check_self l' q).2, h]
    · rw [List.filter_cons, if_neg (by rw [decide_eq_false hk]; exact Bool.false_ne_true),
        callsOn_cons_other hk]
      exact ih ((check_other l hk).trans h)

theorem decisions_allowed (h : ∀ q ∈ qs, q.key = key) (l : InMemoryTokenBucketRateLimiter) :
    (l.decisions qs).countP (·.2) = allowed key l qs := by
  induction qs generalizing l with
  | nil => rfl
  | cons q qs ih =>
    rw [decisions, allowed, answers, if_pos (h q List.mem_cons_self), List.countP_cons,
      List.countP_cons, ih (fun q hq => h q (List.mem_cons_of_mem _ hq)), allowed]

def Within (t₀ t now : Rat) : Prop := t₀ ≤ now ∧ now ≤ t₀ + t

instance : Decidable (Within t₀ t now) := inferInstanceAs (Decidable (_ ∧ _))

def admittedWithin (key : String) (t₀ t : Rat) (d : RateLimitCheck × Bool) : Bool :=
  d.1.key = key && decide (Within t₀ t d.1.now) && d.2

section Window
variable {key : String} {t₀ t : Rat}

theorem countP_none {ds : List (RateLimitCheck × Bool)} (h : ∀ d ∈ ds, ¬ Within t₀ t d.1.now) :
    ds.countP (admittedWithin key t₀ t) = 0 := by
  rw [List.countP_eq_zero]
  intro d hd ha
  rw [admittedWithin, decide_eq_false (h d hd), Bool.and_false, Bool.false_and] at ha
  cases ha

theorem mem_decisions {l : InMemoryTokenBucketRateLimiter} (h : d ∈ l.decisions qs) : d.1 ∈ qs := by
  rw [← decisions_calls l qs]
  exact List.mem_map_of_mem h

theorem window_split (t₀ t : Rat) {qs : List RateLimitCheck}
    (hs : (qs.map (·.now)).Pairwise (· ≤ ·)) :
    ∃ pre mid post, qs = pre ++ mid ++ post ∧ (∀ q ∈ pre, q.now < t₀) ∧
      (∀ q ∈ mid, Within t₀ t q.now) ∧ ∀ q ∈ post, t₀ + t < q.now := by
  induction qs with
  | nil => exact ⟨[], [], [], rfl, nofun, nofun, nofun⟩
  | cons q qs ih =>
    obtain ⟨hq, hs⟩ := List.pairwise_cons.1 hs
    have hle : ∀ q' ∈ qs, q.now ≤ q'.now := fun q' h => hq _ (List.mem_map_of_mem h)
    obtain ⟨pre, mid, post, rfl, hpre, hmid, hpost⟩ := ih hs
    by_cases h₀ : q.now < t₀
    · refine ⟨q :: pre, mid, post, rfl, fun q' hm => ?_, hmid, hpost⟩
      rcases List.mem_cons.1 hm with rfl | hm
      · exact h₀
      · exact hpre q' hm
    · have hnil : pre = [] := by
        rw [List.eq_nil_iff_forall_not_mem]
        intro q' hm
        exact h₀ ((hle q' (by simp [hm])).trans_lt (hpre q' hm))
      subst hnil
      by_cases h₁ : q.now ≤ t₀ + t
      · refine ⟨[], q :: mid, post, rfl, nofun, fun q' hm => ?_, hpost⟩
        rcases List.mem_cons.1 hm with rfl | hm
        · exact ⟨not_lt.1 h₀, h₁⟩
        · exact hmid q' hm
      · refine ⟨[], [], q :: (mid ++ post), rfl, nofun, nofun, fun q' hm => ?_⟩
        rcases List.mem_cons.1 hm with rfl | hm
        · exact not_le.1 h₁
        · exact (not_le.1 h₁).trans_le (hle q' hm)

/-- Under a clock that never goes back, whatever is let through within a while fits the bucket. -/
theorem window_allowed (hc : 1 ≤ c) (hr : 0 < r) (ht : 0 ≤ t) (hu : Uniform key c r qs)
    (hs : (readings key qs).Pairwise (· ≤ ·)) :
    ((initial.decisions qs).countP (admittedWithin key t₀ t) : Rat) ≤ c + r * t := by
  have hkeys : ∀ q ∈ callsOn key qs, q.key = key :=
    fun q hq => of_decide_eq_true (List.mem_filter.1 hq).2
  have hu' : Uniform key c r (callsOn key qs) :=
    fun q hq => hu q (List.mem_of_mem_filter hq)
  have hfilter : (initial.decisions qs).countP (admittedWithin key t₀ t) =
      (initial.decisions (callsOn key qs)).countP (admittedWithin key t₀ t) := by
    rw [← decisions_callsOn rfl, List.countP_filter]
    apply List.countP_congr
    intro d _
    simp only [admittedWithin, Bool.and_eq_true, decide_eq_true_eq]
    constructor
    · exact fun h => ⟨h, h.1.1⟩
    · exact fun h => h.1
  rw [hfilter]
  obtain ⟨pre, mid, post, he, hpre, hmid, hpost⟩ := window_split t₀ t hs
  rw [he] at hkeys hu' ⊢
  have hbefore : (initial.decisions pre).countP (admittedWithin key t₀ t) = 0 :=
    countP_none fun d hd hw => absurd hw.1 (not_le.2 (hpre _ (mem_decisions hd)))
  have hafter :
      ((after initial (pre ++ mid)).decisions post).countP (admittedWithin key t₀ t) = 0 :=
    countP_none fun d hd hw => absurd hw.2 (not_le.2 (hpost _ (mem_decisions hd)))
  have hin : ((after initial pre).decisions mid).countP (admittedWithin key t₀ t) ≤
      allowed key (after initial pre) mid := by
    rw [← decisions_allowed fun q hq => hkeys q (by simp [hq])]
    refine List.countP_mono_left fun d _ hd => ?_
    rw [admittedWithin, Bool.and_eq_true] at hd
    exact hd.2
  rw [decisions_append, decisions_append, List.countP_append, List.countP_append, hbefore, hafter,
    zero_add, add_zero]
  exact (Nat.cast_le.2 hin).trans
    (span_allowed hc hr hu'.left ht fun q hq _ => hmid q hq)

end Window

theorem Scope.label_key {s s' : Scope} (h : s.key who = s'.key who') : s = s' ∧ who = who' := by
  have hl := congrArg String.toList h
  cases s <;> cases s' <;>
    simp [Scope.key, Scope.label] at hl <;> exact ⟨rfl, String.toList_inj.1 hl⟩

end QueryMind.Security
