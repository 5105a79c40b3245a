import Mathlib.Algebra.Order.Field.Basic
import Mathlib.Tactic.Linarith
import Mathlib.Tactic.Ring

namespace QueryMind.Lib
set_option autoImplicit true

/-- Tokens, and the reading at which they were last topped up. -/
@[ext] structure TokenBucket (K : Type) where
  tokens : K
  lastRefill : K

namespace TokenBucket
variable {K : Type} [Field K] [LinearOrder K]

/-- Top up for the time gone by; a reading that is not later changes nothing. -/
def refill (cap rate now : K) (b : TokenBucket K) : TokenBucket K :=
  if 0 < now - b.lastRefill then ⟨min cap (b.tokens + (now - b.lastRefill) * rate), now⟩ else b

def spend (b : TokenBucket K) : Bool × TokenBucket K :=
  if 1 ≤ b.tokens then (true, ⟨b.tokens - 1, b.lastRefill⟩) else (false, b)

/-- One arrival; the first one finds a full bucket. -/
def arrive (cap rate now : K) : Option (TokenBucket K) → Bool × TokenBucket K
  | none => spend ⟨cap, now⟩
  | some b => spend (refill cap rate now b)

def arrivals (cap rate : K) : Option (TokenBucket K) → List K → List (Bool × TokenBucket K)
  | _, [] => []
  | b, now :: nows => arrive cap rate now b :: arrivals cap rate (arrive cap rate now b).2 nows

def after (cap rate : K) : Option (TokenBucket K) → List K → Option (TokenBucket K)
  | b, [] => b
  | b, now :: nows => after cap rate (arrive cap rate now b).2 nows

def admitted (l : List (Bool × TokenBucket K)) : Nat := l.countP (·.1)

variable {cap rate : K}

theorem spend_served (b : TokenBucket K) : (spend b).1 = true ↔ 1 ≤ b.tokens := by
  rw [spend]
  split <;> simp_all

theorem spend_lastRefill (b : TokenBucket K) : (spend b).2.lastRefill = b.lastRefill := by
  rw [spend]
  split <;> rfl

theorem after_mem (h : after cap rate b nows = some b') :
    b = some b' ∨ (∃ b₀, b = some b₀ ∧ b'.lastRefill = b₀.lastRefill) ∨
      b'.lastRefill ∈ nows := by
  induction nows generalizing b with
  | nil => exact .inl h
  | cons now nows ih =>
    have hd : (∃ b₀, b = some b₀ ∧ (arrive cap rate now b).2.lastRefill = b₀.lastRefill) ∨
        (arrive cap rate now b).2.lastRefill = now := by
      cases b with
      | none => exact .inr (spend_lastRefill _)
      | some b =>
        rw [arrive, spend_lastRefill, refill]
        split
        · exact .inr rfl
        · exact .inl ⟨b, rfl, rfl⟩
    have hb : b'.lastRefill = (arrive cap rate now b).2.lastRefill ∨ b'.lastRefill ∈ nows := by
      rcases ih h with he | ⟨b₀, he, hl⟩ | hm
      · exact .inl (by rw [Option.some.inj he])
      · exact .inl (by rw [hl, Option.some.inj he])
      · exact .inr hm
    rcases hb with hb | hb
    · rcases hd with ⟨b₀, he, hl⟩ | hl
      · exact .inr (.inl ⟨b₀, he, hb.trans hl⟩)
      · exact .inr (.inr (List.mem_cons.2 (.inl (hb.trans hl))))
    · exact .inr (.inr (List.mem_cons_of_mem _ hb))

/-- Never fewer than no tokens, never more than the bucket holds. -/
structure Within (cap : K) (b : TokenBucket K) : Prop where
  nonneg : 0 ≤ b.tokens
  le_cap : b.tokens ≤ cap

variable [IsStrictOrderedRing K]

theorem refill_spec (hr : 0 ≤ rate) (hb : Within cap b) (now : K) :
    Within cap (refill cap rate now b) ∧ b.lastRefill ≤ (refill cap rate now b).lastRefill ∧
      (refill cap rate now b).tokens ≤
        b.tokens + rate * ((refill cap rate now b).lastRefill - b.lastRefill) := by
  rw [refill]
  split
  · rename_i h
    have hm : 0 ≤ (now - b.lastRefill) * rate := mul_nonneg h.le hr
    refine ⟨⟨?_, min_le_left _ _⟩, (sub_pos.1 h).le, ?_⟩
    · exact le_min (hb.nonneg.trans hb.le_cap) (add_nonneg hb.nonneg hm)
    · rw [mul_comm rate]
      exact min_le_right _ _
  · refine ⟨hb, le_refl _, ?_⟩
    rw [sub_self, mul_zero, add_zero]

theorem spend_spec (hb : Within cap b) :
    Within cap (spend b).2 ∧ (spend b).2.lastRefill = b.lastRefill ∧
      (spend b).2.tokens + (if (spend b).1 then 1 else 0) = b.tokens := by
  rw [spend]
  split
  · rename_i h
    refine ⟨⟨sub_nonneg.2 h, ?_⟩, rfl, ?_⟩
    · exact (sub_le_self _ zero_le_one).trans hb.le_cap
    · simp only [if_true, sub_add_cancel]
  · exact ⟨hb, rfl, by simp only [Bool.false_eq_true, if_false, add_zero]⟩

/-- The potential of one arrival: tokens kept and handed out against the advance of the refill. -/
theorem arrive_spec (hr : 0 ≤ rate) (hb : Within cap b) (now : K) :
    Within cap (arrive cap rate now (some b)).2 ∧
      b.lastRefill ≤ (arrive cap rate now (some b)).2.lastRefill ∧
      (arrive cap rate now (some b)).2.tokens +
          (if (arrive cap rate now (some b)).1 then 1 else 0) ≤
        b.tokens + rate * ((arrive cap rate now (some b)).2.lastRefill - b.lastRefill) := by
  obtain ⟨hw, hl, ht⟩ := refill_spec hr hb now
  obtain ⟨hw', hl', ht'⟩ := spend_spec hw
  rw [arrive, hl', ht']
  exact ⟨hw', hl, ht⟩

def Sound (cap : K) (b : Option (TokenBucket K)) : Prop := ∀ b₀, b = some b₀ → Within cap b₀

theorem arrive_sound (hc : 0 ≤ cap) (hr : 0 ≤ rate) (hb : Sound cap b) (now : K) :
    Within cap (arrive cap rate now b).2 ∧ now ≤ (arrive cap rate now b).2.lastRefill ∧
      (arrive cap rate now b).2.tokens + (if (arrive cap rate now b).1 then 1 else 0) ≤ cap := by
  cases b with
  | none =>
    obtain ⟨hw, hl, ht⟩ := spend_spec (b := ⟨cap, now⟩) ⟨hc, le_refl _⟩
    rw [arrive, hl, ht]
    exact ⟨hw, le_refl _, le_refl _⟩
  | some b =>
    obtain ⟨hw, _, _⟩ := refill_spec hr (hb b rfl) now
    obtain ⟨hw', hl, ht⟩ := spend_spec hw
    rw [arrive, hl, ht]
    refine ⟨hw', ?_, hw.le_cap⟩
    rw [refill]
    split
    · exact le_refl _
    · rename_i h
      exact sub_nonpos.1 (not_lt.1 h)

/-- Over any run of arrivals the tokens handed out are paid by the bucket and by its refills. -/
theorem arrivals_spec (hr : 0 ≤ rate) (hb : Within cap b) (nows : List K) :
    ∃ b', after cap rate (some b) nows = some b' ∧ Within cap b' ∧
      b.lastRefill ≤ b'.lastRefill ∧
      b'.tokens + admitted (arrivals cap rate (some b) nows) ≤
        b.tokens + rate * (b'.lastRefill - b.lastRefill) := by
  induction nows generalizing b with
  | nil =>
    refine ⟨b, rfl, hb, le_refl _, ?_⟩
    simp only [arrivals, admitted, List.countP_nil, Nat.cast_zero, sub_self, mul_zero, le_refl]
  | cons now nows ih =>
    obtain ⟨hw, hl, ht⟩ := arrive_spec hr hb now
    obtain ⟨b', ha, hw', hl', ht'⟩ := ih hw
    refine ⟨b', ha, hw', hl.trans hl', ?_⟩
    rw [arrivals, admitted, List.countP_cons, ← admitted, Nat.cast_add, Nat.cast_ite]
    have hd : rate * (b'.lastRefill - b.lastRefill) =
        rate * (b'.lastRefill - (arrive cap rate now (some b)).2.lastRefill) +
          rate * ((arrive cap rate now (some b)).2.lastRefill - b.lastRefill) := by
      ring
    rw [hd]
    push_cast
    linarith

/-- Over a stretch of arrivals, measured from the first one, no more than a full bucket and its
refills are handed out. -/
theorem stretch_spec (hc : 0 ≤ cap) (hr : 0 ≤ rate) (hb : Sound cap b) (now : K) (nows : List K) :
    ∃ b', after cap rate b (now :: nows) = some b' ∧ Within cap b' ∧
      (arrive cap rate now b).2.lastRefill ≤ b'.lastRefill ∧
      b'.tokens + admitted (arrivals cap rate b (now :: nows)) ≤
        cap + rate * (b'.lastRefill - (arrive cap rate now b).2.lastRefill) := by
  obtain ⟨hw, _, ht⟩ := arrive_sound hc hr hb now
  obtain ⟨b', ha, hw', hl', ht'⟩ := arrivals_spec hr hw nows
  refine ⟨b', ha, hw', hl', ?_⟩
  rw [arrivals, admitted, List.countP_cons, ← admitted, Nat.cast_add, Nat.cast_ite]
  push_cast
  linarith

theorem span_spec (hc : 0 ≤ cap) (hr : 0 ≤ rate) (hb : Sound cap b) (ht : 0 ≤ t)
    (h : ∀ now ∈ nows, t₀ ≤ now ∧ now ≤ t₀ + t) :
    (admitted (arrivals cap rate b nows) : K) ≤ cap + rate * t := by
  cases nows with
  | nil =>
    rw [arrivals, admitted, List.countP_nil, Nat.cast_zero]
    exact add_nonneg hc (mul_nonneg hr ht)
  | cons now nows =>
    obtain ⟨_, hn, _⟩ := arrive_sound hc hr hb now
    obtain ⟨b', ha, hw, _, hs⟩ := stretch_spec hc hr hb now nows
    have hfirst := (h now List.mem_cons_self).1
    have hrest : after cap rate (some (arrive cap rate now b).2) nows = some b' := ha
    have hd : b'.lastRefill - (arrive cap rate now b).2.lastRefill ≤ t := by
      rcases after_mem hrest with he | ⟨b₀, he, hl⟩ | hm
      · rw [Option.some.inj he, sub_self]
        exact ht
      · rw [Option.some.inj he, sub_eq_zero.2 hl]
        exact ht
      · have hlast := (h _ (List.mem_cons_of_mem _ hm)).2
        linarith
    have hm := mul_le_mul_of_nonneg_left hd hr
    have hz := hw.nonneg
    linarith

theorem after_sound (hc : 0 ≤ cap) (hr : 0 ≤ rate) (hb : Sound cap b) (nows : List K) :
    Sound cap (after cap rate b nows) := by
  cases nows with
  | nil => exact hb
  | cons now nows =>
    obtain ⟨b', ha, hw, _⟩ := stretch_spec hc hr hb now nows
    intro b₀ h
    rw [ha] at h
    rw [← Option.some.inj h]
    exact hw

theorem arrive_lastRefill (h : ∀ b₀, b = some b₀ → b₀.lastRefill ≤ now) :
    (arrive cap rate now b).2.lastRefill = now := by
  cases b with
  | none => exact spend_lastRefill _
  | some b =>
    rw [arrive, spend_lastRefill, refill]
    split
    · rfl
    · rename_i hn
      exact le_antisymm (h b rfl) (sub_nonpos.1 (not_lt.1 hn))

theorem arrive_served (hc : 1 ≤ cap) (hr : 0 < rate) (hn : b.lastRefill ≤ now) :
    (arrive cap rate now (some b)).1 = true ↔ b.lastRefill + (1 - b.tokens) / rate ≤ now := by
  have hq : b.lastRefill + (1 - b.tokens) / rate ≤ now ↔
      1 - b.tokens ≤ (now - b.lastRefill) * rate := by
    rw [← le_sub_iff_add_le', div_le_iff₀ hr]
  rw [arrive, spend_served, hq, sub_le_iff_le_add', refill]
  split
  · exact ⟨fun h => (le_min_iff.1 h).2, fun h => le_min hc h⟩
  · rename_i h
    have he : now - b.lastRefill = 0 := le_antisymm (not_lt.1 h) (sub_nonneg.2 hn)
    rw [he, zero_mul, add_zero]

end TokenBucket

end QueryMind.Lib
