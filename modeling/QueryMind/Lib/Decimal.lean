import Mathlib.Data.Int.Log
import Mathlib.Data.Rat.Floor
import Mathlib.Tactic.Linarith
import Mathlib.Tactic.Positivity
import Mathlib.Tactic.Ring

namespace QueryMind.Lib.Decimal
set_option autoImplicit true

/-- A way to round to integers. -/
structure Rounding where
  round : Rat → Int
  mono : ∀ x y, x ≤ y → round x ≤ round y
  intCast : ∀ n : Int, round n = n

theorem floor_add_half_intCast (n : Int) : ⌊(n : Rat) + 1 / 2⌋ = n := by
  rw [Int.floor_intCast_add, Int.floor_eq_zero_iff.2, add_zero]
  exact ⟨by norm_num, by norm_num⟩

def halfUp : Rounding where
  round x := if 0 ≤ x then ⌊x + 1 / 2⌋ else -⌊-x + 1 / 2⌋
  mono := by
    intro x y h
    by_cases hx : 0 ≤ x
    · rw [if_pos hx, if_pos (hx.trans h)]
      exact Int.floor_le_floor (by linarith)
    · rw [if_neg hx]
      have hneg : (0 : Int) ≤ ⌊-x + 1 / 2⌋ := Int.floor_nonneg.2 (by linarith)
      by_cases hy : 0 ≤ y
      · rw [if_pos hy]
        have hpos : (0 : Int) ≤ ⌊y + 1 / 2⌋ := Int.floor_nonneg.2 (by linarith)
        omega
      · rw [if_neg hy]
        exact neg_le_neg (Int.floor_le_floor (by linarith))
  intCast := by
    intro n
    have h := floor_add_half_intCast (-n)
    rw [Int.cast_neg] at h
    rw [floor_add_half_intCast, h, neg_neg, ite_self]

def halfEven : Rounding where
  round x := if x - ⌊x⌋ < 1 / 2 ∨ (x - ⌊x⌋ = 1 / 2 ∧ ⌊x⌋ % 2 = 0) then ⌊x⌋ else ⌊x⌋ + 1
  mono := by
    intro x y h
    have hf : ⌊x⌋ ≤ ⌊y⌋ := Int.floor_le_floor h
    rcases hf.lt_or_eq with hlt | heq
    · split <;> split <;> omega
    · rw [heq]
      split
      · split <;> omega
      · rename_i hx
        rw [if_neg]
        rintro (hy | ⟨hy, hev⟩)
        · exact hx (.inl (by linarith))
        · rcases lt_or_eq_of_le (show x - (⌊y⌋ : Rat) ≤ 1 / 2 by linarith) with hl | he
          · exact hx (.inl hl)
          · exact hx (.inr ⟨he, hev⟩)
  intCast := by
    intro n
    rw [Int.floor_intCast, sub_self, if_pos (.inl (by norm_num))]

/-- The precision of a computation, and how its results are rounded. -/
structure Context where
  precision : Nat
  positive : 0 < precision
  rounding : Rounding

def defaultContext : Context := ⟨28, by decide, halfEven⟩

namespace Context
variable (c : Context)

/-- The last digit that a result of this size can have. -/
def quantum (x : Rat) : Rat := 10 ^ (Int.log 10 |x| + 1 - (c.precision : Int))

def fix (x : Rat) : Rat := c.rounding.round (x / c.quantum x) * c.quantum x

def add (x y : Rat) : Rat := c.fix (x + y)

def sub (x y : Rat) : Rat := c.fix (x - y)

def mul (x y : Rat) : Rat := c.fix (x * y)

def div (x y : Rat) : Rat := c.fix (x / y)

/-- `quantize`: a number of so many places, when its digits fit. -/
def quantize (places : Nat) (rounding : Rounding) (x : Rat) : Option Rat :=
  let n := rounding.round (x * 10 ^ places)
  if n.natAbs < 10 ^ c.precision then some (n / 10 ^ places) else none

variable {c}

theorem quantum_pos (x : Rat) : 0 < c.quantum x := zpow_pos (by norm_num) _

theorem quantum_eq (hx : 0 ≤ x) :
    c.quantum x = 10 ^ (Int.log 10 x + 1 - (c.precision : Int)) := by
  rw [quantum, abs_of_nonneg hx]

theorem digits_mul_quantum (hx : 0 ≤ x) :
    ((10 ^ c.precision : Int) : Rat) * c.quantum x = 10 ^ (Int.log 10 x + 1) := by
  rw [quantum_eq hx, Int.cast_pow, Int.cast_ofNat, ← zpow_natCast, ← zpow_add₀ (by norm_num)]
  apply congrArg
  omega

theorem leading_mul_quantum (hx : 0 ≤ x) :
    ((10 ^ (c.precision - 1) : Int) : Rat) * c.quantum x = 10 ^ Int.log 10 x := by
  have hp := c.positive
  rw [quantum_eq hx, Int.cast_pow, Int.cast_ofNat, ← zpow_natCast, ← zpow_add₀ (by norm_num)]
  apply congrArg
  omega

theorem fix_zero : c.fix 0 = 0 := by
  rw [fix, zero_div, ← Int.cast_zero, c.rounding.intCast, Int.cast_zero, zero_mul]

theorem le_fix {n : Int} (h : n * c.quantum x ≤ x) : n * c.quantum x ≤ c.fix x := by
  have hq := quantum_pos (c := c) x
  have hr := c.rounding.mono _ _ ((le_div_iff₀ hq).2 h)
  rw [c.rounding.intCast] at hr
  exact mul_le_mul_of_nonneg_right (Int.cast_le.2 hr) hq.le

theorem fix_le {n : Int} (h : x ≤ n * c.quantum x) : c.fix x ≤ n * c.quantum x := by
  have hq := quantum_pos (c := c) x
  have hr := c.rounding.mono _ _ ((div_le_iff₀ hq).2 h)
  rw [c.rounding.intCast] at hr
  exact mul_le_mul_of_nonneg_right (Int.cast_le.2 hr) hq.le

theorem fix_nonneg (hx : 0 ≤ x) : 0 ≤ c.fix x := by
  have h := le_fix (c := c) (x := x) (n := 0)
  rw [Int.cast_zero, zero_mul] at h
  exact h hx

theorem fix_mono (hx : 0 ≤ x) (h : x ≤ y) : c.fix x ≤ c.fix y := by
  rcases hx.eq_or_lt with rfl | hpos
  · rw [fix_zero]
    exact fix_nonneg h
  · have hy : 0 ≤ y := hx.trans h
    rcases (Int.log_mono_right hpos h : Int.log 10 x ≤ Int.log 10 y).eq_or_lt with he | hlt
    · have hq := quantum_pos (c := c) y
      have hqe : c.quantum x = c.quantum y := by rw [quantum_eq hx, quantum_eq hy, he]
      rw [fix, fix, hqe]
      apply mul_le_mul_of_nonneg_right _ hq.le
      exact Int.cast_le.2 (c.rounding.mono _ _ (div_le_div_of_nonneg_right h hq.le))
    · have hxle : c.fix x ≤ 10 ^ (Int.log 10 x + 1) := by
        rw [← digits_mul_quantum hx]
        apply fix_le
        rw [digits_mul_quantum hx]
        exact (Int.lt_zpow_succ_log_self (by norm_num) x).le
      have hyle : 10 ^ Int.log 10 y ≤ c.fix y := by
        rw [← leading_mul_quantum (c := c) hy]
        apply le_fix
        rw [leading_mul_quantum hy]
        exact Int.zpow_log_le_self (by norm_num) (hpos.trans_le h)
      have hmid : (10 : Rat) ^ (Int.log 10 x + 1) ≤ 10 ^ Int.log 10 y :=
        zpow_le_zpow_right₀ (by norm_num) (by omega)
      exact hxle.trans (hmid.trans hyle)

theorem fix_of_digits {x : Rat} (n : Int) (h : x = n * c.quantum x) : c.fix x = x := by
  have hq := (quantum_pos (c := c) x).ne'
  have hd : x / c.quantum x = n := by
    rw [div_eq_iff hq]
    exact h
  rw [fix, hd, c.rounding.intCast, ← h]

theorem fix_eq {n : Nat} (h : n < 10 ^ c.precision) (e : Int) :
    c.fix (n * 10 ^ e) = n * 10 ^ e := by
  rcases n.eq_zero_or_pos with rfl | hn
  · rw [Nat.cast_zero, zero_mul]
    exact fix_of_digits 0 (by rw [Int.cast_zero, zero_mul])
  · have hx : (0 : Rat) < n * 10 ^ e :=
      mul_pos (Nat.cast_pos.2 hn) (zpow_pos (by norm_num) e)
    have hlt : (n * 10 ^ e : Rat) < ((10 : Nat) : Rat) ^ ((c.precision : Int) + e) := by
      rw [Nat.cast_ofNat, zpow_add₀ (by norm_num), zpow_natCast]
      apply mul_lt_mul_of_pos_right _ (zpow_pos (by norm_num) _)
      exact_mod_cast h
    have hlog := (Int.lt_zpow_iff_log_lt (by norm_num) hx).1 hlt
    obtain ⟨k, hk⟩ := Int.eq_ofNat_of_zero_le
      (by omega : 0 ≤ e - (Int.log 10 (n * 10 ^ e : Rat) + 1 - (c.precision : Int)))
    apply fix_of_digits (n * 10 ^ k : Nat)
    rw [quantum_eq hx.le, Int.cast_natCast, Nat.cast_mul, Nat.cast_pow, Nat.cast_ofNat, mul_assoc,
      ← zpow_natCast, ← zpow_add₀ (by norm_num), ← hk]
    apply congrArg (fun z : Int => (n : Rat) * 10 ^ z)
    omega

/-- A number is so many units of a place, or both are beyond the precision. -/
def Tracks (c : Context) (places n : Nat) (x : Rat) : Prop :=
  (n < 10 ^ c.precision ∧ x = n / 10 ^ places) ∨
    (10 ^ c.precision ≤ n ∧ 10 ^ c.precision / 10 ^ places ≤ x)

theorem fix_units {n : Nat} (h : n < 10 ^ c.precision) (places : Nat) :
    c.fix (n / 10 ^ places) = n / 10 ^ places := by
  have he := fix_eq h (-(places : Int))
  rw [zpow_neg, zpow_natCast, ← div_eq_mul_inv] at he
  exact he

theorem fix_beyond (h : 10 ^ c.precision / 10 ^ places ≤ x) :
    10 ^ c.precision / 10 ^ places ≤ c.fix x := by
  have hone : 1 < 10 ^ c.precision := Nat.one_lt_pow c.positive.ne' (by decide)
  have he := fix_eq hone ((c.precision : Int) - places)
  rw [Nat.cast_one, one_mul, zpow_sub₀ (by norm_num), zpow_natCast, zpow_natCast] at he
  rw [← he]
  exact fix_mono (by positivity) h

theorem Tracks.fix (h : c.Tracks places n x) : c.Tracks places n (c.fix x) := by
  rcases h with ⟨hn, rfl⟩ | ⟨hn, hx⟩
  · exact .inl ⟨hn, fix_units hn places⟩
  · exact .inr ⟨hn, fix_beyond hx⟩

theorem tracks_units (places n : Nat) : c.Tracks places n (n / 10 ^ places) := by
  rcases lt_or_ge n (10 ^ c.precision) with hn | hn
  · exact .inl ⟨hn, rfl⟩
  · have hle : (10 ^ c.precision : Rat) ≤ n := by exact_mod_cast hn
    exact .inr ⟨hn, div_le_div_of_nonneg_right hle (by positivity)⟩

theorem Tracks.nonneg (h : c.Tracks places n x) : 0 ≤ x := by
  rcases h with ⟨_, rfl⟩ | ⟨_, hx⟩
  · positivity
  · exact le_trans (by positivity) hx

theorem Tracks.add (h : c.Tracks places n x) (h' : c.Tracks places m y) :
    c.Tracks places (n + m) (c.add x y) := by
  apply Tracks.fix
  have hx := h.nonneg
  have hy := h'.nonneg
  rcases h with ⟨_, rfl⟩ | ⟨hn, hle⟩
  · rcases h' with ⟨_, rfl⟩ | ⟨hm, hle⟩
    · rw [← add_div, ← Nat.cast_add]
      exact tracks_units places (n + m)
    · exact .inr ⟨by omega, by linarith⟩
  · exact .inr ⟨by omega, by linarith⟩

theorem quantize_eq (places : Nat) (rounding : Rounding) {n : Nat} (h : n < 10 ^ c.precision) :
    c.quantize places rounding (n / 10 ^ places) = some ((n : Rat) / 10 ^ places) := by
  have hne : (10 : Rat) ^ places ≠ 0 := by positivity
  rw [quantize, div_mul_cancel₀ _ hne, ← Int.cast_natCast, rounding.intCast, Int.natAbs_natCast,
    if_pos h, Int.cast_natCast]

theorem quantize_some {rounding : Rounding} (h : c.quantize places rounding x = some y)
    (hx : 0 ≤ x) : ∃ n : Nat, n < 10 ^ c.precision ∧ y = n / 10 ^ places ∧
      rounding.round (x * 10 ^ places) = n := by
  have hr := rounding.mono 0 (x * 10 ^ places) (by positivity)
  rw [← Int.cast_zero, rounding.intCast] at hr
  obtain ⟨n, hn⟩ := Int.eq_ofNat_of_zero_le hr
  rw [quantize, hn, Int.natAbs_natCast, Int.cast_natCast] at h
  by_cases hlt : n < 10 ^ c.precision
  · rw [if_pos hlt, Option.some.injEq] at h
    exact ⟨n, hlt, h.symm, hn⟩
  · rw [if_neg hlt] at h
    cases h

theorem Tracks.quantize {rounding : Rounding} (h : c.Tracks places n x)
    (hq : c.quantize places rounding x = some y) : n < 10 ^ c.precision ∧ y = n / 10 ^ places := by
  have hne : (10 : Rat) ^ places ≠ 0 := by positivity
  obtain ⟨m, hm, rfl, hr⟩ := quantize_some hq h.nonneg
  rcases h with ⟨hn, rfl⟩ | ⟨hn, hx⟩
  · rw [div_mul_cancel₀ _ hne, ← Int.cast_natCast, rounding.intCast, Int.natCast_inj] at hr
    rw [hr]
    exact ⟨hm, rfl⟩
  · rw [div_le_iff₀ (by positivity)] at hx
    have hle := rounding.mono ((10 ^ c.precision : Nat) : Int) (x * 10 ^ places)
      (by exact_mod_cast hx)
    rw [rounding.intCast, hr] at hle
    omega

theorem quantize_le {rounding : Rounding} {n : Nat} (h : c.quantize places rounding x = some y)
    (hx : 0 ≤ x) (hle : x ≤ n / 10 ^ places) : ∃ m : Nat, m ≤ n ∧ m < 10 ^ c.precision ∧
      y = m / 10 ^ places := by
  obtain ⟨m, hm, hy, hr⟩ := quantize_some h hx
  rw [le_div_iff₀ (by positivity)] at hle
  have hmono := rounding.mono (x * 10 ^ places) (n : Int) (by exact_mod_cast hle)
  rw [rounding.intCast, hr] at hmono
  exact ⟨m, by omega, hm, hy⟩

end Context

end QueryMind.Lib.Decimal
