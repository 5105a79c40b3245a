import Mathlib.Data.Nat.Basic
import Mathlib.Order.Basic

namespace QueryMind.Lib
set_option autoImplicit true

structure Date where
  year : Nat
  month : Nat
  day : Nat
  deriving DecidableEq, Repr

namespace Calendar

def isLeap (y : Nat) : Bool := y % 4 = 0 && (y % 100 ≠ 0 || y % 400 = 0)

def daysInYear (y : Nat) : Nat := if isLeap y then 366 else 365

def daysInMonth (y m : Nat) : Nat :=
  if m = 2 then if isLeap y then 29 else 28
  else if m = 4 ∨ m = 6 ∨ m = 9 ∨ m = 11 then 30
  else 31

def daysBeforeYear (y : Nat) : Nat := (y - 1) * 365 + (y - 1) / 4 - (y - 1) / 100 + (y - 1) / 400

def daysBeforeMonth (y : Nat) : Nat → Nat
  | 0 => 0
  | 1 => 0
  | m + 2 => daysBeforeMonth y (m + 1) + daysInMonth y (m + 1)

end Calendar

open Calendar

namespace Date

/-- A date of the Gregorian calendar, taken back to the first year. -/
structure Proper (d : Date) : Prop where
  year_pos : 1 ≤ d.year
  month_pos : 1 ≤ d.month
  month_le : d.month ≤ 12
  day_pos : 1 ≤ d.day
  day_le : d.day ≤ daysInMonth d.year d.month

def ordinal (d : Date) : Nat := daysBeforeYear d.year + daysBeforeMonth d.year d.month + d.day

def weekday (d : Date) : Nat := (d.ordinal + 6) % 7

def next (d : Date) : Date :=
  if d.day < daysInMonth d.year d.month then { d with day := d.day + 1 }
  else if d.month < 12 then ⟨d.year, d.month + 1, 1⟩
  else ⟨d.year + 1, 1, 1⟩

def prev (d : Date) : Date :=
  if 1 < d.day then { d with day := d.day - 1 }
  else if 1 < d.month then ⟨d.year, d.month - 1, daysInMonth d.year (d.month - 1)⟩
  else ⟨d.year - 1, 12, 31⟩

def later : Nat → Date → Date
  | 0, d => d
  | n + 1, d => later n d.next

def earlier : Nat → Date → Date
  | 0, d => d
  | n + 1, d => earlier n d.prev

instance : LE Date where
  le d e := d.year < e.year ∨
    d.year = e.year ∧ (d.month < e.month ∨ d.month = e.month ∧ d.day ≤ e.day)

instance (d e : Date) : Decidable (d ≤ e) :=
  inferInstanceAs (Decidable (_ ∨ _ ∧ (_ ∨ _ ∧ _)))

instance (d : Date) : Decidable d.Proper :=
  decidable_of_iff
    (1 ≤ d.year ∧ 1 ≤ d.month ∧ d.month ≤ 12 ∧ 1 ≤ d.day ∧ d.day ≤ daysInMonth d.year d.month)
    ⟨fun h => ⟨h.1, h.2.1, h.2.2.1, h.2.2.2.1, h.2.2.2.2⟩,
      fun h => ⟨h.year_pos, h.month_pos, h.month_le, h.day_pos, h.day_le⟩⟩

end Date

namespace Calendar

theorem daysInMonth_bounds (y m : Nat) : 28 ≤ daysInMonth y m ∧ daysInMonth y m ≤ 31 := by
  rw [daysInMonth]
  split_ifs <;> omega

theorem isLeap_iff : isLeap y = true ↔ 4 ∣ y ∧ (¬ 100 ∣ y ∨ 400 ∣ y) := by
  simp only [isLeap, Bool.and_eq_true, Bool.or_eq_true, decide_eq_true_eq, Nat.dvd_iff_mod_eq_zero]

theorem daysBeforeYear_succ (h : 1 ≤ y) :
    daysBeforeYear (y + 1) = daysBeforeYear y + daysInYear y := by
  obtain ⟨n, rfl⟩ : ∃ n, y = n + 1 := ⟨y - 1, by omega⟩
  have h4 : 100 ∣ n + 1 → 4 ∣ n + 1 := Nat.dvd_trans (by decide)
  have h100 : 400 ∣ n + 1 → 100 ∣ n + 1 := Nat.dvd_trans (by decide)
  have hle : n / 100 ≤ n / 4 := Nat.div_le_div_left (by decide) (by decide)
  simp only [daysBeforeYear, daysInYear, isLeap_iff, Nat.add_sub_cancel, Nat.succ_div]
  generalize n / 4 = a at *
  generalize n / 100 = b at *
  generalize n / 400 = c at *
  split_ifs <;> omega

theorem daysBeforeMonth_succ (h : 1 ≤ m) :
    daysBeforeMonth y (m + 1) = daysBeforeMonth y m + daysInMonth y m := by
  cases m with
  | zero => omega
  | succ m => rfl

theorem daysBeforeMonth_thirteen (y : Nat) : daysBeforeMonth y 13 = daysInYear y := by
  simp only [daysBeforeMonth, daysInMonth, daysInYear]
  cases isLeap y <;> rfl

theorem daysBeforeYear_mono (hy : 1 ≤ y) (h : y ≤ z) : daysBeforeYear y ≤ daysBeforeYear z := by
  induction z, h using Nat.le_induction with
  | base => exact le_refl _
  | succ z hz ih =>
    rw [daysBeforeYear_succ (hy.trans hz)]
    exact ih.trans (Nat.le_add_right _ _)

theorem daysBeforeMonth_mono (h : m ≤ n) : daysBeforeMonth y m ≤ daysBeforeMonth y n := by
  induction n, h using Nat.le_induction with
  | base => exact le_refl _
  | succ n hn ih =>
    cases n with
    | zero => exact ih
    | succ n =>
      rw [daysBeforeMonth_succ (Nat.succ_pos n)]
      exact ih.trans (Nat.le_add_right _ _)

end Calendar

namespace Date

theorem Proper.month_bounds {d : Date} (h : d.Proper) :
    daysBeforeMonth d.year d.month < daysBeforeMonth d.year d.month + d.day ∧
      daysBeforeMonth d.year d.month + d.day ≤ daysBeforeMonth d.year (d.month + 1) := by
  have hd := h.day_pos
  have hl := h.day_le
  rw [daysBeforeMonth_succ h.month_pos]
  omega

theorem Proper.year_bounds {d : Date} (h : d.Proper) :
    daysBeforeYear d.year < d.ordinal ∧ d.ordinal ≤ daysBeforeYear (d.year + 1) := by
  have hb := h.month_bounds
  have hm : daysBeforeMonth d.year (d.month + 1) ≤ daysBeforeMonth d.year 13 :=
    daysBeforeMonth_mono (Nat.succ_le_succ h.month_le)
  rw [daysBeforeMonth_thirteen] at hm
  rw [daysBeforeYear_succ h.year_pos, ordinal]
  omega

theorem le_def {d e : Date} : d ≤ e ↔ d.year < e.year ∨ d.year = e.year ∧
    (d.month < e.month ∨ d.month = e.month ∧ d.day ≤ e.day) := Iff.rfl

theorem ordinal_lt_of_year {d e : Date} (hd : d.Proper) (he : e.Proper) (h : d.year < e.year) :
    d.ordinal < e.ordinal :=
  calc d.ordinal ≤ daysBeforeYear (d.year + 1) := hd.year_bounds.2
    _ ≤ daysBeforeYear e.year := daysBeforeYear_mono (Nat.succ_pos _) h
    _ < e.ordinal := he.year_bounds.1

theorem ordinal_lt_of_month {d e : Date} (hd : d.Proper) (he : e.Proper) (hy : d.year = e.year)
    (h : d.month < e.month) : d.ordinal < e.ordinal := by
  have hm : daysBeforeMonth d.year (d.month + 1) ≤ daysBeforeMonth d.year e.month :=
    daysBeforeMonth_mono h
  have hbd := hd.month_bounds
  have hbe := he.month_bounds
  rw [← hy] at hbe
  rw [ordinal, ordinal, ← hy]
  omega

theorem le_iff_ordinal {d e : Date} (hd : d.Proper) (he : e.Proper) :
    d ≤ e ↔ d.ordinal ≤ e.ordinal := by
  rw [le_def]
  rcases Nat.lt_trichotomy d.year e.year with hy | hy | hy
  · exact iff_of_true (.inl hy) (ordinal_lt_of_year hd he hy).le
  · rcases Nat.lt_trichotomy d.month e.month with hm | hm | hm
    · exact iff_of_true (.inr ⟨hy, .inl hm⟩) (ordinal_lt_of_month hd he hy hm).le
    · rw [ordinal, ordinal, hy, hm]
      omega
    · have hlt := ordinal_lt_of_month he hd hy.symm hm
      omega
  · have hlt := ordinal_lt_of_year he hd hy
    omega

theorem Proper.next {d : Date} (h : d.Proper) : d.next.Proper := by
  obtain ⟨hy, hm, hm', hd, hd'⟩ := h
  rw [Date.next]
  split_ifs with h₁ h₂
  · exact ⟨hy, hm, hm', Nat.succ_pos _, h₁⟩
  · have hb := daysInMonth_bounds d.year (d.month + 1)
    exact ⟨hy, Nat.succ_pos _, h₂, le_refl 1, by show 1 ≤ daysInMonth d.year (d.month + 1); omega⟩
  · exact ⟨Nat.succ_pos _, le_refl 1, by show 1 ≤ 12; omega, le_refl 1, by show 1 ≤ 31; omega⟩

theorem ordinal_next {d : Date} (h : d.Proper) : d.next.ordinal = d.ordinal + 1 := by
  obtain ⟨hy, hm, hm', hd, hd'⟩ := h
  rw [Date.next]
  split_ifs with h₁ h₂
  · rfl
  · show daysBeforeYear d.year + daysBeforeMonth d.year (d.month + 1) + 1 = _
    rw [daysBeforeMonth_succ hm, ordinal]
    omega
  · have hmonth : d.month = 12 := by omega
    have hday : d.day = 31 := by
      rw [hmonth] at h₁ hd'
      have h31 : daysInMonth d.year 12 = 31 := rfl
      omega
    have h13 := daysBeforeMonth_thirteen d.year
    rw [daysBeforeMonth_succ (by omega)] at h13
    have h31 : daysInMonth d.year 12 = 31 := rfl
    show daysBeforeYear (d.year + 1) + 0 + 1 = _
    rw [daysBeforeYear_succ hy, ordinal, hmonth, hday]
    omega

theorem ordinal_of_year {d : Date} (h : d.Proper) (hy : 2 ≤ d.year) : 366 ≤ d.ordinal := by
  have hm : daysBeforeYear 2 ≤ daysBeforeYear d.year := daysBeforeYear_mono (by omega) hy
  have h2 : daysBeforeYear 2 = 365 := rfl
  have hb := h.year_bounds.1
  omega

theorem ordinal_pos {d : Date} (h : d.Proper) : 1 ≤ d.ordinal := by
  have hd := h.day_pos
  rw [ordinal]
  omega

theorem Proper.prev {d : Date} (h : d.Proper) (ho : 2 ≤ d.ordinal) :
    d.prev.Proper ∧ d.prev.ordinal + 1 = d.ordinal := by
  obtain ⟨hy, hm, hm', hd, hd'⟩ := h
  rw [Date.prev]
  split_ifs with h₁ h₂
  · refine ⟨⟨hy, hm, hm', by show 1 ≤ d.day - 1; omega,
      (Nat.sub_le d.day 1).trans hd'⟩, ?_⟩
    show daysBeforeYear d.year + daysBeforeMonth d.year d.month + (d.day - 1) + 1 = _
    rw [ordinal]
    omega
  · obtain ⟨m, hmm⟩ : ∃ m, d.month = m + 1 := ⟨d.month - 1, by omega⟩
    have hb := daysInMonth_bounds d.year m
    have hs : daysBeforeMonth d.year (m + 1) = _ := daysBeforeMonth_succ (by omega)
    rw [hmm, Nat.add_sub_cancel]
    refine ⟨⟨hy, by show 1 ≤ m; omega, by show m ≤ 12; omega, ?_, le_refl _⟩, ?_⟩
    · show 1 ≤ daysInMonth d.year m
      omega
    · show daysBeforeYear d.year + daysBeforeMonth d.year m + daysInMonth d.year m + 1 = _
      rw [ordinal, hmm, hs]
      omega
  · have hmonth : d.month = 1 := by omega
    have hday : d.day = 1 := by omega
    have hyear : 2 ≤ d.year := by
      by_contra hlt
      have h1 : d.year = 1 := by omega
      rw [ordinal, h1, hmonth, hday] at ho
      exact absurd ho (by decide)
    obtain ⟨y, hyy⟩ : ∃ y, d.year = y + 1 := ⟨d.year - 1, by omega⟩
    have h13 := daysBeforeMonth_thirteen y
    rw [daysBeforeMonth_succ (by omega)] at h13
    have h31 : daysInMonth y 12 = 31 := rfl
    rw [hyy, Nat.add_sub_cancel]
    refine ⟨⟨by show 1 ≤ y; omega, by show 1 ≤ 12; omega, le_refl _, by show 1 ≤ 31; omega,
      le_refl _⟩, ?_⟩
    show daysBeforeYear y + daysBeforeMonth y 12 + 31 + 1 = _
    rw [ordinal, hyy, hmonth, hday, daysBeforeYear_succ (by omega)]
    show _ = daysBeforeYear y + daysInYear y + 0 + 1
    omega

theorem Proper.later {d : Date} (h : d.Proper) (n : Nat) :
    (d.later n).Proper ∧ (d.later n).ordinal = d.ordinal + n := by
  induction n generalizing d with
  | zero => exact ⟨h, rfl⟩
  | succ n ih =>
    obtain ⟨hp, ho⟩ := ih h.next
    refine ⟨hp, ?_⟩
    rw [Date.later, ho, ordinal_next h]
    omega

theorem Proper.earlier {d : Date} (h : d.Proper) (hn : n < d.ordinal) :
    (d.earlier n).Proper ∧ (d.earlier n).ordinal + n = d.ordinal := by
  induction n generalizing d with
  | zero => exact ⟨h, rfl⟩
  | succ n ih =>
    obtain ⟨hp, ho⟩ := h.prev (by omega)
    obtain ⟨hp', ho'⟩ := ih hp (by omega)
    refine ⟨hp', ?_⟩
    rw [Date.earlier]
    omega

attribute [irreducible] later earlier

theorem eq_of_ordinal {d e : Date} (hd : d.Proper) (he : e.Proper) (h : d.ordinal = e.ordinal) :
    d = e := by
  have hde := (le_iff_ordinal hd he).2 h.le
  have hed := (le_iff_ordinal he hd).2 h.ge
  rw [le_def] at hde hed
  obtain ⟨y, m, n⟩ := d
  obtain ⟨y', m', n'⟩ := e
  simp only at hde hed
  have hy : y = y' := by omega
  have hm : m = m' := by omega
  have hn : n = n' := by omega
  rw [hy, hm, hn]

theorem year_le_iff {d : Date} (h : d.Proper) (y : Nat) :
    d.year ≤ y ↔ d.ordinal ≤ daysBeforeYear (y + 1) := by
  constructor
  · intro hle
    exact h.year_bounds.2.trans (daysBeforeYear_mono (Nat.succ_pos _) (Nat.succ_le_succ hle))
  · intro ho
    by_contra hlt
    have hm : daysBeforeYear (y + 1) ≤ daysBeforeYear d.year :=
      daysBeforeYear_mono (Nat.succ_pos _) (by omega)
    have hb := h.year_bounds.1
    omega

end Date

/-- The stretches into which a calendar divides the days. -/
inductive CalendarUnit
  | week | month | quarter | year
  deriving DecidableEq, Repr

/-- Two days of one week, Monday to Sunday, or of one month, quarter or year. -/
def CalendarUnit.Same : CalendarUnit → Date → Date → Prop
  | .week, d, e => (d.ordinal - 1) / 7 = (e.ordinal - 1) / 7
  | .month, d, e => d.year = e.year ∧ d.month = e.month
  | .quarter, d, e => d.year = e.year ∧ (d.month - 1) / 3 = (e.month - 1) / 3
  | .year, d, e => d.year = e.year

theorem CalendarUnit.Same.trans {u : CalendarUnit} (h : u.Same d e) (h' : u.Same e f) :
    u.Same d f := by
  cases u with
  | week => exact Eq.trans h h'
  | month => exact ⟨h.1.trans h'.1, h.2.trans h'.2⟩
  | quarter => exact ⟨h.1.trans h'.1, h.2.trans h'.2⟩
  | year => exact Eq.trans h h'

theorem CalendarUnit.Same.symm {u : CalendarUnit} (h : u.Same d e) : u.Same e d := by
  cases u with
  | week => exact Eq.symm h
  | month => exact ⟨h.1.symm, h.2.symm⟩
  | quarter => exact ⟨h.1.symm, h.2.symm⟩
  | year => exact Eq.symm h

theorem CalendarUnit.same_refl (u : CalendarUnit) (d : Date) : u.Same d d := by
  cases u with
  | week => exact rfl
  | month => exact ⟨rfl, rfl⟩
  | quarter => exact ⟨rfl, rfl⟩
  | year => exact rfl

/-- A window that holds the days of one unit and no others. -/
structure Spans (u : CalendarUnit) (d : Date) (window : Date × Date) : Prop where
  start : window.1.Proper
  stop : window.2.Proper
  mem_iff : ∀ e : Date, e.Proper → (window.1 ≤ e ∧ e ≤ window.2 ↔ u.Same d e)

theorem Spans.mem (h : Spans u d window) (hd : d.Proper) : window.1 ≤ d ∧ d ≤ window.2 :=
  (h.mem_iff d hd).2 (u.same_refl d)

theorem Spans.of_same (h : Spans u d window) (hs : u.Same d e) : Spans u e window :=
  ⟨h.start, h.stop, fun f hf => (h.mem_iff f hf).trans
    ⟨fun hd => hs.symm.trans hd, fun he => hs.trans he⟩⟩

theorem Spans.start_le (h : Spans u d window) (hd : d.Proper) : window.1 ≤ window.2 := by
  obtain ⟨hl, hr⟩ := h.mem hd
  rw [Date.le_iff_ordinal h.start hd] at hl
  rw [Date.le_iff_ordinal hd h.stop] at hr
  exact (Date.le_iff_ordinal h.start h.stop).2 (hl.trans hr)

theorem Spans.self (h : Spans u d window) (hd : d.Proper) : Spans u window.1 window :=
  h.of_same ((h.mem_iff window.1 h.start).1
    ⟨(Date.le_iff_ordinal h.start h.start).2 (le_refl _), h.start_le hd⟩)

theorem spans_week {start stop : Date} (hs : start.Proper) (ht : stop.Proper)
    (hday : 7 ∣ start.ordinal - 1) (hlen : stop.ordinal = start.ordinal + 6)
    (hd : (d.ordinal - 1) / 7 = (start.ordinal - 1) / 7) :
    Spans .week d (start, stop) := by
  refine ⟨hs, ht, fun e he => ?_⟩
  have hs1 := Date.ordinal_pos hs
  have he1 := Date.ordinal_pos he
  show start ≤ e ∧ e ≤ stop ↔ (d.ordinal - 1) / 7 = (e.ordinal - 1) / 7
  rw [Date.le_iff_ordinal hs he, Date.le_iff_ordinal he ht, hlen, hd]
  omega

theorem mem_months (hmn : m ≤ n) {e : Date} (he : e.Proper) :
    (⟨y, m, 1⟩ : Date) ≤ e ∧ e ≤ ⟨y, n, daysInMonth y n⟩ ↔
      e.year = y ∧ m ≤ e.month ∧ e.month ≤ n := by
  have hd := he.day_pos
  have hl := he.day_le
  simp only [Date.le_def]
  constructor
  · omega
  · rintro ⟨rfl, hme, hen⟩
    refine ⟨by omega, ?_⟩
    rcases Nat.lt_or_eq_of_le hen with hlt | heq
    · exact .inr ⟨rfl, .inl hlt⟩
    · rw [← heq]
      exact .inr ⟨rfl, .inr ⟨rfl, hl⟩⟩

theorem proper_first (hy : 1 ≤ y) (hm : 1 ≤ m) (hm' : m ≤ 12) : (⟨y, m, 1⟩ : Date).Proper := by
  have hb := daysInMonth_bounds y m
  exact ⟨hy, hm, hm', le_refl 1, by show 1 ≤ daysInMonth y m; omega⟩

theorem proper_last (hy : 1 ≤ y) (hm : 1 ≤ m) (hm' : m ≤ 12) :
    (⟨y, m, daysInMonth y m⟩ : Date).Proper := by
  have hb := daysInMonth_bounds y m
  exact ⟨hy, hm, hm', by show 1 ≤ daysInMonth y m; omega, le_refl _⟩

theorem spans_month (hy : 1 ≤ y) (hm : 1 ≤ m) (hm' : m ≤ 12) {d : Date} (hdy : d.year = y)
    (hdm : d.month = m) : Spans .month d (⟨y, m, 1⟩, ⟨y, m, daysInMonth y m⟩) := by
  refine ⟨proper_first hy hm hm', proper_last hy hm hm', fun e he => ?_⟩
  refine (mem_months (le_refl _) he).trans ?_
  show _ ↔ d.year = e.year ∧ d.month = e.month
  omega

theorem spans_quarter (hy : 1 ≤ y) (hq : q < 4) {d : Date} (hdy : d.year = y)
    (hdq : (d.month - 1) / 3 = q) :
    Spans .quarter d (⟨y, q * 3 + 1, 1⟩, ⟨y, q * 3 + 3, daysInMonth y (q * 3 + 3)⟩) := by
  refine ⟨proper_first hy (by omega) (by omega), proper_last hy (by omega) (by omega),
    fun e he => ?_⟩
  have hm := he.month_pos
  refine (mem_months (by omega) he).trans ?_
  show _ ↔ d.year = e.year ∧ (d.month - 1) / 3 = (e.month - 1) / 3
  omega

theorem spans_year (hy : 1 ≤ y) {d : Date} (hdy : d.year = y) :
    Spans .year d (⟨y, 1, 1⟩, ⟨y, 12, 31⟩) := by
  refine ⟨proper_first hy (by omega) (by omega), proper_last hy (by omega) (by omega),
    fun e he => ?_⟩
  have hm := he.month_pos
  have hm' := he.month_le
  refine (mem_months (n := 12) (by omega) he).trans ?_
  show _ ↔ d.year = e.year
  omega

theorem next_last (h : m < 12) : (⟨y, m, daysInMonth y m⟩ : Date).next = ⟨y, m + 1, 1⟩ := by
  rw [Date.next, if_neg (Nat.lt_irrefl _), if_pos h]

theorem next_december (y : Nat) : (⟨y, 12, 31⟩ : Date).next = ⟨y + 1, 1, 1⟩ :=
  (if_neg (Nat.lt_irrefl 31)).trans (if_neg (Nat.lt_irrefl 12))

end QueryMind.Lib
