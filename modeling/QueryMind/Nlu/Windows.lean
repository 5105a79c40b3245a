import QueryMind.Lib.Hoare
import QueryMind.Nlu.Time

namespace QueryMind.Nlu
open Lib Lib.Calendar Lib.Pattern
set_option autoImplicit true

def thisPeriod : CalendarUnit → TimePeriod
  | .week => .thisWeek
  | .month => .thisMonth
  | .quarter => .thisQuarter
  | .year => .thisYear

def lastPeriod : CalendarUnit → TimePeriod
  | .week => .lastWeek
  | .month => .lastMonth
  | .quarter => .lastQuarter
  | .year => .lastYear

/-- This unit is the one that today lies in, and the last one ends on the day before it. -/
def WindowsKept (today : Date) (u : CalendarUnit) : Prop :=
  ∃ this last, boundsFor today (thisPeriod u) = .ok this ∧
    boundsFor today (lastPeriod u) = .ok last ∧ Spans u today this ∧
    (this.1 ≤ today ∧ today ≤ this.2) ∧ Spans u last.1 last ∧ last.2.next = this.1

theorem windowsKept {this last : Date × Date} (hd : today.Proper)
    (hthis : boundsFor today (thisPeriod u) = .ok this)
    (hlast : boundsFor today (lastPeriod u) = .ok last) (hs : Spans u today this)
    (hs' : Spans u last.1 last) (hn : last.2.next = this.1) : WindowsKept today u :=
  ⟨this, last, hthis, hlast, hs, hs.mem hd, hs', hn⟩

def lastOrdinal : Nat := 3652059

theorem year_le_iff_ordinal {d : Date} (h : d.Proper) :
    d.year ≤ maxYear ↔ d.ordinal ≤ lastOrdinal :=
  Date.year_le_iff h maxYear

theorem inRange_ok {d : Date} (h : Valid d) : inRange d = .ok d :=
  if_pos ⟨h.proper.year_pos, h.year_le⟩

theorem minusDays_ok {d : Date} (h : Valid d) (hn : n < d.ordinal) :
    minusDays d n = .ok (d.earlier n) ∧ Valid (d.earlier n) := by
  obtain ⟨hp, ho⟩ := h.proper.earlier hn
  have hy := (year_le_iff_ordinal h.proper).1 h.year_le
  have hv : Valid (d.earlier n) := ⟨hp, (year_le_iff_ordinal hp).2 (by omega)⟩
  exact ⟨inRange_ok hv, hv⟩

theorem plusDays_ok {d : Date} (h : Valid d) (hn : d.ordinal + n ≤ lastOrdinal) :
    plusDays d n = .ok (d.later n) ∧ Valid (d.later n) := by
  obtain ⟨hp, ho⟩ := h.proper.later n
  have hv : Valid (d.later n) := ⟨hp, (year_le_iff_ordinal hp).2 (by omega)⟩
  exact ⟨inRange_ok hv, hv⟩

theorem plusDays_error {d : Date} (h : Valid d) (hn : lastOrdinal < d.ordinal + n) :
    plusDays d n = .error .overflowError := by
  obtain ⟨hp, ho⟩ := h.proper.later n
  apply if_neg
  rintro ⟨-, hy⟩
  have hle := (year_le_iff_ordinal hp).1 hy
  omega

theorem weekday_lt_ordinal {d : Date} (h : d.Proper) : d.weekday < d.ordinal := by
  have hpos := Date.ordinal_pos h
  rw [Date.weekday]
  omega

theorem weekday_week {d e : Date} (h : e.ordinal + 7 = d.ordinal) : e.weekday = d.weekday := by
  rw [Date.weekday, Date.weekday]
  omega

def monday (d : Date) : Date := d.earlier d.weekday

theorem monday_valid {d : Date} (h : Valid d) :
    minusDays d d.weekday = .ok (monday d) ∧ Valid (monday d) :=
  minusDays_ok h (weekday_lt_ordinal h.proper)

theorem monday_ordinal {d : Date} (h : Valid d) :
    (monday d).ordinal + d.weekday = d.ordinal :=
  (h.proper.earlier (weekday_lt_ordinal h.proper)).2

theorem weekBounds_ok {d : Date} (h : Valid d)
    (hl : (monday d).ordinal + 6 ≤ lastOrdinal) :
    weekBounds d = .ok (monday d, (monday d).later 6) ∧
      Spans .week d (monday d, (monday d).later 6) := by
  obtain ⟨hm, hv⟩ := monday_valid h
  obtain ⟨hp, hv'⟩ := plusDays_ok hv hl
  constructor
  · rw [weekBounds, hm, ok_bind, hp, ok_bind]
    rfl
  · have hs := monday_ordinal h
    have hpos := Date.ordinal_pos hv.proper
    rw [Date.weekday] at hs
    apply spans_week hv.proper hv'.proper
    · omega
    · exact (hv.proper.later 6).2
    · omega

theorem weekBounds_error {d : Date} (h : Valid d)
    (hl : lastOrdinal < (monday d).ordinal + 6) : weekBounds d = .error .overflowError := by
  obtain ⟨hm, hv⟩ := monday_valid h
  rw [weekBounds, hm, ok_bind, plusDays_error hv hl, error_bind]

def lastSunday : Date := ⟨9999, 12, 26⟩

theorem monday_iff {d : Date} (h : Valid d) :
    (monday d).ordinal + 6 ≤ lastOrdinal ↔ d ≤ lastSunday := by
  have hs := monday_ordinal h
  have hl : lastSunday.ordinal = 3652054 := rfl
  have hp : lastSunday.Proper := by decide
  rw [Date.le_iff_ordinal h.proper hp, hl, lastOrdinal]
  rw [Date.weekday] at hs
  omega

theorem windowsKept_week {today : Date} (h : Valid today) (hy : 2 ≤ today.year) :
    WindowsKept today .week ↔ today ≤ lastSunday := by
  have ho := Date.ordinal_of_year h.proper hy
  rw [← monday_iff h]
  constructor
  · rintro ⟨this, last, hthis, -⟩
    by_contra hl
    rw [thisPeriod, boundsFor, weekBounds_error h (by omega)] at hthis
    cases hthis
  · intro hl
    obtain ⟨hb, hspan⟩ := weekBounds_ok h hl
    obtain ⟨hm, hv⟩ := minusDays_ok h (n := 7) (by omega)
    have hord := (h.proper.earlier (n := 7) (by omega)).2
    generalize today.earlier 7 = reference at hm hv hord
    have hwd := weekday_week hord
    have hmon := monday_ordinal h
    have hmon' := monday_ordinal hv
    have hl' : (monday reference).ordinal + 6 ≤ lastOrdinal := by omega
    obtain ⟨hb', hspan'⟩ := weekBounds_ok hv hl'
    have hthis : boundsFor today (thisPeriod .week) =
        .ok (monday today, (monday today).later 6) := by
      rw [thisPeriod, boundsFor, hb]
    have hlast : boundsFor today (lastPeriod .week) =
        .ok (monday reference, (monday reference).later 6) := by
      rw [lastPeriod, boundsFor, hm, ok_bind, hb']
    have hp : (monday today).Proper := hspan.start
    have hp' : (monday reference).Proper := hspan'.start
    obtain ⟨hsp, hso⟩ := hp'.later 6
    have hnext : ((monday reference).later 6).next.ordinal = (monday today).ordinal := by
      rw [Date.ordinal_next hsp, hso]
      omega
    have heq : ((monday reference).later 6).next = monday today :=
      Date.eq_of_ordinal hsp.next hp hnext
    exact windowsKept h.proper hthis hlast hspan (hspan'.self hv.proper) heq

theorem date_ok (h : Valid ⟨y, m, d⟩) : date y m d = .ok ⟨y, m, d⟩ := if_pos h

theorem valid_first (hy : 1 ≤ y) (hy' : y ≤ maxYear) (hm : 1 ≤ m) (hm' : m ≤ 12) :
    Valid ⟨y, m, 1⟩ := ⟨proper_first hy hm hm', hy'⟩

theorem valid_last (hy : 1 ≤ y) (hy' : y ≤ maxYear) (hm : 1 ≤ m) (hm' : m ≤ 12) :
    Valid ⟨y, m, daysInMonth y m⟩ := ⟨proper_last hy hm hm', hy'⟩

theorem monthBounds_ok (hy : 1 ≤ y) (hy' : y ≤ maxYear) (hm : 1 ≤ m) (hm' : m ≤ 12) :
    monthBounds y m = .ok (⟨y, m, 1⟩, ⟨y, m, daysInMonth y m⟩) := by
  rw [monthBounds, date_ok (valid_first hy hy' hm hm'), ok_bind,
    date_ok (valid_last hy hy' hm hm'), ok_bind]
  rfl

theorem quarterBounds_ok (hy : 1 ≤ y) (hy' : y ≤ maxYear) (hq : q < 4) :
    quarterBounds y (q + 1) =
      .ok (⟨y, q * 3 + 1, 1⟩, ⟨y, q * 3 + 3, daysInMonth y (q * 3 + 3)⟩) := by
  have hf : Valid ⟨y, q * 3 + 1, 1⟩ := valid_first hy hy' (by omega) (by omega)
  rw [quarterBounds, Nat.add_sub_cancel, date_ok hf, ok_bind,
    monthBounds_ok hy hy' (by omega) (by omega), ok_bind]
  rfl

theorem yearBounds_ok (hy : 1 ≤ y) (hy' : y ≤ maxYear) :
    yearBounds y = .ok (⟨y, 1, 1⟩, ⟨y, 12, 31⟩) := by
  have hf : Valid ⟨y, 1, 1⟩ := valid_first hy hy' (by omega) (by omega)
  have hl : Valid ⟨y, 12, 31⟩ := valid_last hy hy' (by omega) (by omega)
  rw [yearBounds, date_ok hf, ok_bind, date_ok hl, ok_bind]
  rfl

theorem windowsKept_month {today : Date} (h : Valid today) (hy : 2 ≤ today.year) :
    WindowsKept today .month := by
  have hp := h.proper
  obtain ⟨⟨hy1, hm1, hm2, -, -⟩, hmax⟩ := h
  have hthis := monthBounds_ok hy1 hmax hm1 hm2
  have hspan : Spans .month today _ := spans_month hy1 hm1 hm2 rfl rfl
  by_cases hm : today.month = 1
  · have hlast : boundsFor today .lastMonth =
        .ok (⟨today.year - 1, 12, 1⟩, ⟨today.year - 1, 12, 31⟩) :=
      (if_pos hm).trans (monthBounds_ok (by omega) (by omega) (by omega) (by omega))
    have hspan' : Spans .month ⟨today.year - 1, 12, 1⟩
        (⟨today.year - 1, 12, 1⟩, ⟨today.year - 1, 12, 31⟩) :=
      spans_month (Nat.le_sub_one_of_lt hy) (by omega) (by omega) rfl rfl
    have hnext : (⟨today.year - 1, 12, 31⟩ : Date).next = ⟨today.year, today.month, 1⟩ := by
      rw [next_december, hm, Nat.sub_add_cancel hy1]
    exact windowsKept hp hthis hlast hspan hspan' hnext
  · obtain ⟨m, hmm⟩ : ∃ m, today.month = m + 1 := ⟨today.month - 1, by omega⟩
    have hlast : boundsFor today .lastMonth =
        .ok (⟨today.year, m, 1⟩, ⟨today.year, m, daysInMonth today.year m⟩) := by
      rw [boundsFor, if_neg hm, hmm, Nat.add_sub_cancel]
      exact monthBounds_ok hy1 hmax (by omega) (by omega)
    have hspan' : Spans .month ⟨today.year, m, 1⟩
        (⟨today.year, m, 1⟩, ⟨today.year, m, daysInMonth today.year m⟩) :=
      spans_month hy1 (by omega) (by omega) rfl rfl
    have hnext : (⟨today.year, m, daysInMonth today.year m⟩ : Date).next =
        ⟨today.year, today.month, 1⟩ := by
      rw [next_last (by omega), hmm]
    exact windowsKept hp hthis hlast hspan hspan' hnext

theorem windowsKept_quarter {today : Date} (h : Valid today) (hy : 2 ≤ today.year) :
    WindowsKept today .quarter := by
  have hp := h.proper
  obtain ⟨⟨hy1, hm1, hm2, -, -⟩, hmax⟩ := h
  obtain ⟨q, hq⟩ : ∃ q, (today.month - 1) / 3 = q := ⟨_, rfl⟩
  have hq4 : q < 4 := by omega
  have hthis : boundsFor today .thisQuarter =
      .ok (⟨today.year, q * 3 + 1, 1⟩,
        ⟨today.year, q * 3 + 3, daysInMonth today.year (q * 3 + 3)⟩) := by
    rw [boundsFor, quarterOf, hq]
    exact quarterBounds_ok hy1 hmax hq4
  have hspan : Spans .quarter today _ := spans_quarter hy1 hq4 rfl hq
  by_cases hz : q = 0
  · have hlast : boundsFor today .lastQuarter =
        .ok (⟨today.year - 1, 10, 1⟩, ⟨today.year - 1, 12, 31⟩) := by
      rw [boundsFor, quarterOf, hq, Nat.add_sub_cancel, if_pos hz]
      exact quarterBounds_ok (q := 3) (by omega) (by omega) (by omega)
    have hspan' : Spans .quarter ⟨today.year - 1, 10, 1⟩
        (⟨today.year - 1, 10, 1⟩, ⟨today.year - 1, 12, 31⟩) :=
      spans_quarter (q := 3) (Nat.le_sub_one_of_lt hy) (by omega) rfl
        (by show (10 - 1) / 3 = 3; omega)
    have hnext : (⟨today.year - 1, 12, 31⟩ : Date).next = ⟨today.year, q * 3 + 1, 1⟩ := by
      rw [next_december, hz, Nat.sub_add_cancel hy1]
    exact windowsKept hp hthis hlast hspan hspan' hnext
  · obtain ⟨r, rfl⟩ : ∃ r, q = r + 1 := ⟨q - 1, by omega⟩
    have hlast : boundsFor today .lastQuarter =
        .ok (⟨today.year, r * 3 + 1, 1⟩,
          ⟨today.year, r * 3 + 3, daysInMonth today.year (r * 3 + 3)⟩) := by
      rw [boundsFor, quarterOf, hq, Nat.add_sub_cancel, if_neg hz]
      exact quarterBounds_ok hy1 hmax (by omega)
    have hspan' : Spans .quarter ⟨today.year, r * 3 + 1, 1⟩
        (⟨today.year, r * 3 + 1, 1⟩,
          ⟨today.year, r * 3 + 3, daysInMonth today.year (r * 3 + 3)⟩) :=
      spans_quarter hy1 (by omega) rfl (by show (r * 3 + 1 - 1) / 3 = r; omega)
    have hnext : (⟨today.year, r * 3 + 3, daysInMonth today.year (r * 3 + 3)⟩ : Date).next =
        ⟨today.year, (r + 1) * 3 + 1, 1⟩ := by
      rw [next_last (by omega), Nat.succ_mul]
    exact windowsKept hp hthis hlast hspan hspan' hnext

theorem windowsKept_year {today : Date} (h : Valid today) (hy : 2 ≤ today.year) :
    WindowsKept today .year := by
  have hp := h.proper
  obtain ⟨⟨hy1, hm1, hm2, -, -⟩, hmax⟩ := h
  have hspan' : Spans .year ⟨today.year - 1, 1, 1⟩
      (⟨today.year - 1, 1, 1⟩, ⟨today.year - 1, 12, 31⟩) :=
    spans_year (Nat.le_sub_one_of_lt hy) rfl
  have hnext : (⟨today.year - 1, 12, 31⟩ : Date).next = ⟨today.year, 1, 1⟩ := by
    rw [next_december, Nat.sub_add_cancel hy1]
  exact windowsKept hp (yearBounds_ok hy1 hmax) (yearBounds_ok (by omega) (by omega))
    (spans_year hy1 rfl) hspan' hnext

theorem windowsKept_iff {today : Date} (h : Valid today) (hy : 2 ≤ today.year) :
    (∀ u, WindowsKept today u) ↔ today ≤ lastSunday := by
  constructor
  · intro hall
    exact (windowsKept_week h hy).1 (hall .week)
  · intro hl u
    cases u with
    | week => exact (windowsKept_week h hy).2 hl
    | month => exact windowsKept_month h hy
    | quarter => exact windowsKept_quarter h hy
    | year => exact windowsKept_year h hy

def Ordered (t : TimeExpression) : Prop :=
  ∀ start stop, t.startDate = some start → t.endDate = some stop → start ≤ stop

theorem date_inv (h : date y m d = .ok e) : e = ⟨y, m, d⟩ ∧ e.Proper := by
  rw [date] at h
  split at h
  · rename_i hv
    cases h
    exact ⟨rfl, hv.proper⟩
  · cases h

theorem inRange_inv {d : Date} (h : inRange d = .ok e) : e = d := by
  rw [inRange] at h
  split at h
  · exact (Except.ok.inj h).symm
  · cases h

theorem date_year_zero {d : Date} (h : d.year = 0) (n : Nat) : (d.earlier n).year = 0 := by
  induction n generalizing d with
  | zero =>
    rw [Date.earlier]
    exact h
  | succ n ih =>
    rw [Date.earlier]
    apply ih
    rw [Date.prev]
    split_ifs
    · exact h
    · exact h
    · show d.year - 1 = 0
      omega

theorem earlier_first {d : Date} (h : d.Proper) (hn : d.ordinal ≤ n) : (d.earlier n).year = 0 := by
  induction n generalizing d with
  | zero => exact absurd (Date.ordinal_pos h) (by omega)
  | succ n ih =>
    rw [Date.earlier]
    by_cases ho : 2 ≤ d.ordinal
    · obtain ⟨hp, hord⟩ := h.prev ho
      exact ih hp (by omega)
    · have hpos := Date.ordinal_pos h
      have hone : d = ⟨1, 1, 1⟩ := by
        apply Date.eq_of_ordinal h (by decide)
        show d.ordinal = 1
        omega
      rw [hone]
      exact date_year_zero rfl n

theorem minusDays_inv {d : Date} (h : d.Proper) (hm : minusDays d n = .ok e) : e.Proper := by
  rw [minusDays, inRange] at hm
  split at hm
  · rename_i hy
    rw [← Except.ok.inj hm]
    by_cases hn : n < d.ordinal
    · exact (h.earlier hn).1
    · rw [earlier_first h (by omega)] at hy
      omega
  · cases hm

theorem date_le_refl (d : Date) : d ≤ d := .inr ⟨rfl, .inr ⟨rfl, Nat.le_refl _⟩⟩

theorem weekBounds_ordered {d : Date} (h : d.Proper) (hw : weekBounds d = .ok w) : w.1 ≤ w.2 := by
  obtain ⟨start, hs, hw⟩ := bind_ok hw
  obtain ⟨stop, ht, hw⟩ := bind_ok hw
  cases hw
  have hp := minusDays_inv h hs
  obtain ⟨hlp, hlo⟩ := hp.later 6
  rw [inRange_inv ht, Date.le_iff_ordinal hp hlp]
  omega

theorem monthBounds_inv (h : monthBounds y m = .ok w) :
    w = (⟨y, m, 1⟩, ⟨y, m, daysInMonth y m⟩) := by
  obtain ⟨start, hs, h⟩ := bind_ok h
  obtain ⟨stop, ht, h⟩ := bind_ok h
  cases h
  rw [(date_inv hs).1, (date_inv ht).1]

theorem monthBounds_ordered (h : monthBounds y m = .ok w) : w.1 ≤ w.2 := by
  have hb := daysInMonth_bounds y m
  rw [monthBounds_inv h]
  exact .inr ⟨rfl, .inr ⟨rfl, by show 1 ≤ daysInMonth y m; omega⟩⟩

theorem quarterBounds_ordered (h : quarterBounds y q = .ok w) : w.1 ≤ w.2 := by
  obtain ⟨start, hs, h⟩ := bind_ok h
  obtain ⟨bounds, hb, h⟩ := bind_ok h
  cases h
  rw [(date_inv hs).1, monthBounds_inv hb]
  exact .inr ⟨rfl, .inl (by show (q - 1) * 3 + 1 < (q - 1) * 3 + 1 + 2; omega)⟩

theorem yearBounds_ordered (h : yearBounds y = .ok w) : w.1 ≤ w.2 := by
  obtain ⟨start, hs, h⟩ := bind_ok h
  obtain ⟨stop, ht, h⟩ := bind_ok h
  cases h
  rw [(date_inv hs).1, (date_inv ht).1]
  exact .inr ⟨rfl, .inl (by show 1 < 12; omega)⟩

theorem boundsFor_ordered {today : Date} (h : today.Proper) (hb : boundsFor today p = .ok w) :
    w.1 ≤ w.2 := by
  cases p with
  | today =>
    cases hb
    exact date_le_refl today
  | yesterday =>
    obtain ⟨yesterday, hy, hb⟩ := bind_ok hb
    cases hb
    exact date_le_refl yesterday
  | thisWeek => exact weekBounds_ordered h hb
  | lastWeek =>
    obtain ⟨reference, hr, hb⟩ := bind_ok hb
    exact weekBounds_ordered (minusDays_inv h hr) hb
  | thisMonth => exact monthBounds_ordered hb
  | lastMonth =>
    rw [boundsFor] at hb
    split at hb <;> exact monthBounds_ordered hb
  | thisQuarter => exact quarterBounds_ordered hb
  | lastQuarter =>
    rw [boundsFor] at hb
    split at hb <;> exact quarterBounds_ordered hb
  | thisYear => exact yearBounds_ordered hb
  | lastYear => exact yearBounds_ordered hb
  | between => cases hb
  | before => cases hb
  | after => cases hb

theorem relativeExpression_ordered {today : Date} (hp : today.Proper)
    (h : relativeExpression w today text phrases = .ok (some t)) : Ordered t := by
  induction phrases with
  | nil => cases h
  | cons p phrases ih =>
    obtain ⟨phrase, period⟩ := p
    rw [relativeExpression] at h
    split at h
    · obtain ⟨bounds, hb, h⟩ := bind_ok h
      cases h
      intro start stop hs ht
      cases hs
      cases ht
      exact boundsFor_ordered hp hb
    · exact ih h

/-- The two dates that the first `between` of a question names. -/
def betweenDates (w : DigitClass) (question : String) : Option (Date × Date) := do
  let m ← Pattern.search (betweenPattern w) question.toList
  let start ← parseDateToken w m.value.1
  let stop ← parseDateToken w m.value.2
  return (start, stop)

def Reversed (w : DigitClass) (question : String) : Prop :=
  ∃ dates ∈ betweenDates w question, ¬ dates.1 ≤ dates.2

instance (w : DigitClass) (question : String) : Decidable (Reversed w question) :=
  inferInstanceAs (Decidable (∃ dates ∈ betweenDates w question, ¬ dates.1 ≤ dates.2))

theorem betweenExpression_dates (w : DigitClass) (question : String) :
    (betweenExpression w question.toList).map (fun t => (t.startDate, t.endDate)) =
      (betweenDates w question).map (fun dates => (some dates.1, some dates.2)) := by
  rw [betweenExpression, betweenDates]
  cases Pattern.search (betweenPattern w) question.toList with
  | none => rfl
  | some m =>
    show Option.map _ ((parseDateToken w m.value.1).bind fun _ => _) =
      Option.map _ ((parseDateToken w m.value.1).bind fun _ => _)
    cases parseDateToken w m.value.1 with
    | none => rfl
    | some start =>
      show Option.map _ ((parseDateToken w m.value.2).bind fun _ => _) =
        Option.map _ ((parseDateToken w m.value.2).bind fun _ => _)
      cases parseDateToken w m.value.2 <;> rfl

theorem beforeExpression_start (h : beforeExpression w text = some t) : t.startDate = none := by
  obtain ⟨m, -, h⟩ := Option.bind_eq_some_iff.1 h
  obtain ⟨stop, -, h⟩ := Option.bind_eq_some_iff.1 h
  cases h
  rfl

theorem afterExpression_end (h : afterExpression w text = some t) : t.endDate = none := by
  obtain ⟨m, -, h⟩ := Option.bind_eq_some_iff.1 h
  obtain ⟨start, -, h⟩ := Option.bind_eq_some_iff.1 h
  cases h
  rfl

theorem extractTime_ordered_iff {today : Date} (h : today.Proper) (question : String) :
    (∀ t, extractTime w today question = .ok (some t) → Ordered t) ↔ ¬ Reversed w question := by
  have hdates := betweenExpression_dates w question
  cases hb : betweenExpression w question.toList with
  | some t =>
    rw [hb] at hdates
    obtain ⟨dates, hd, ht⟩ := Option.map_eq_some_iff.1 hdates.symm
    obtain ⟨hstart, hstop⟩ := Prod.mk.inj ht
    have hx : extractTime w today question = .ok (some t) := by
      rw [extractTime, hb]
      rfl
    have ho : Ordered t ↔ dates.1 ≤ dates.2 := by
      rw [Ordered, ← hstart, ← hstop]
      constructor
      · exact fun ho => ho _ _ rfl rfl
      · intro hle start stop hs ht
        cases hs
        cases ht
        exact hle
    have hr : Reversed w question ↔ ¬ dates.1 ≤ dates.2 := by
      rw [Reversed, hd]
      simp only [Option.mem_some_iff, exists_eq_left']
    rw [hr, not_not, ← ho]
    constructor
    · exact fun hall => hall t hx
    · intro hot t' ht'
      rw [hx] at ht'
      cases ht'
      exact hot
  | none =>
    rw [hb] at hdates
    have hd : betweenDates w question = none := Option.map_eq_none_iff.1 hdates.symm
    have hr : ¬ Reversed w question := by
      rw [Reversed, hd]
      simp only [Option.not_mem_none, false_and, exists_false, not_false_eq_true]
    apply iff_of_true _ hr
    intro t ht
    rw [extractTime, hb] at ht
    cases hbefore : beforeExpression w question.toList with
    | some t' =>
      rw [hbefore] at ht
      cases ht
      intro start stop hs
      rw [beforeExpression_start hbefore] at hs
      cases hs
    | none =>
      cases hafter : afterExpression w question.toList with
      | some t' =>
        rw [hbefore, hafter] at ht
        cases ht
        intro start stop _ hstop
        rw [afterExpression_end hafter] at hstop
        cases hstop
      | none =>
        rw [hbefore, hafter] at ht
        exact relativeExpression_ordered h ht

/-- The window of a relative period lies in the years that `date` holds. -/
def InCalendar (today : Date) : TimePeriod → Prop
  | .today | .thisMonth | .thisQuarter | .thisYear => True
  | .yesterday => 2 ≤ today.ordinal
  | .thisWeek => today ≤ lastSunday
  | .lastWeek => 8 ≤ today.ordinal
  | .lastMonth => 2 ≤ today.year ∨ today.month ≠ 1
  | .lastQuarter => 2 ≤ today.year ∨ 4 ≤ today.month
  | .lastYear => 2 ≤ today.year
  | .between | .before | .after => False

theorem minusDays_error {d : Date} (h : d.Proper) (hn : d.ordinal ≤ n) :
    minusDays d n = .error .overflowError := by
  apply if_neg
  rw [earlier_first h hn]
  omega

theorem date_error (h : y = 0) (m d : Nat) : date y m d = .error .valueError := by
  apply if_neg
  intro hv
  have hy : 1 ≤ y := hv.proper.year_pos
  omega

theorem weekBounds_iff {d : Date} (h : Valid d) :
    (∃ b, weekBounds d = .ok b) ↔ d ≤ lastSunday := by
  rw [← monday_iff h]
  constructor
  · rintro ⟨b, hb⟩
    by_contra hl
    rw [weekBounds_error h (by omega)] at hb
    cases hb
  · intro hl
    exact ⟨_, (weekBounds_ok h hl).1⟩

theorem monthBounds_error (h : y = 0) (m : Nat) : monthBounds y m = .error .valueError := by
  rw [monthBounds, date_error h, error_bind]

theorem quarterBounds_error (h : y = 0) (q : Nat) : quarterBounds y q = .error .valueError := by
  rw [quarterBounds, date_error h, error_bind]

theorem yearBounds_error (h : y = 0) : yearBounds y = .error .valueError := by
  rw [yearBounds, date_error h, error_bind]

theorem not_ok_of_error {x : Except ε α} {e : ε} (h : x = .error e) : ¬ ∃ a, x = .ok a := by
  rintro ⟨a, ha⟩
  rw [h] at ha
  cases ha

theorem earlier_le_lastSunday {d : Date} (h : Valid d) (hn : 7 < d.ordinal) :
    d.earlier 7 ≤ lastSunday := by
  have hp : lastSunday.Proper := by decide
  have hl : lastSunday.ordinal = 3652054 := rfl
  have hy := (year_le_iff_ordinal h.proper).1 h.year_le
  obtain ⟨hp', ho⟩ := h.proper.earlier hn
  rw [lastOrdinal] at hy
  rw [Date.le_iff_ordinal hp' hp, hl]
  omega

theorem lastMonth_ok_iff {today : Date} (h : Valid today) :
    (∃ b, boundsFor today .lastMonth = .ok b) ↔ 2 ≤ today.year ∨ today.month ≠ 1 := by
  obtain ⟨⟨hy1, hm1, hm2, -, -⟩, hmax⟩ := h
  rw [boundsFor]
  by_cases hm : today.month = 1
  · rw [if_pos hm, or_iff_left (not_not_intro hm)]
    by_cases hy : 2 ≤ today.year
    · exact iff_of_true ⟨_, monthBounds_ok (by omega) (by omega) (by omega) le_rfl⟩ hy
    · exact iff_of_false (not_ok_of_error (monthBounds_error (by omega) 12)) hy
  · rw [if_neg hm]
    exact iff_of_true ⟨_, monthBounds_ok hy1 hmax (by omega) (by omega)⟩ (.inr hm)

theorem lastQuarter_ok_iff {today : Date} (h : Valid today) :
    (∃ b, boundsFor today .lastQuarter = .ok b) ↔ 2 ≤ today.year ∨ 4 ≤ today.month := by
  obtain ⟨⟨hy1, hm1, hm2, -, -⟩, hmax⟩ := h
  rw [boundsFor, quarterOf, Nat.add_sub_cancel]
  by_cases hq : (today.month - 1) / 3 = 0
  · rw [if_pos hq, or_iff_left (by omega)]
    by_cases hy : 2 ≤ today.year
    · exact iff_of_true ⟨_, quarterBounds_ok (q := 3) (by omega) (by omega) (by omega)⟩ hy
    · exact iff_of_false (not_ok_of_error (quarterBounds_error (by omega) 4)) hy
  · obtain ⟨q, hq'⟩ : ∃ q, (today.month - 1) / 3 = q + 1 := ⟨(today.month - 1) / 3 - 1, by omega⟩
    rw [if_neg hq, hq']
    exact iff_of_true ⟨_, quarterBounds_ok hy1 hmax (by omega)⟩ (.inr (by omega))

/-- A window is computed exactly where it lies in the calendar. -/
theorem boundsFor_ok_iff {today : Date} (h : Valid today) (p : TimePeriod) :
    (∃ b, boundsFor today p = .ok b) ↔ InCalendar today p := by
  have hv := h
  obtain ⟨⟨hy1, hm1, hm2, -, -⟩, hmax⟩ := h
  cases p with
  | today => exact iff_of_true ⟨_, rfl⟩ trivial
  | thisMonth => exact iff_of_true ⟨_, monthBounds_ok hy1 hmax hm1 hm2⟩ trivial
  | thisQuarter => exact iff_of_true ⟨_, quarterBounds_ok hy1 hmax (by omega)⟩ trivial
  | thisYear => exact iff_of_true ⟨_, yearBounds_ok hy1 hmax⟩ trivial
  | thisWeek => exact weekBounds_iff hv
  | lastMonth => exact lastMonth_ok_iff hv
  | lastQuarter => exact lastQuarter_ok_iff hv
  | yesterday =>
    rw [boundsFor, InCalendar]
    by_cases ho : 2 ≤ today.ordinal
    · rw [(minusDays_ok hv ho).1]
      exact iff_of_true ⟨_, rfl⟩ ho
    · rw [minusDays_error hv.proper (by omega)]
      exact iff_of_false (not_ok_of_error rfl) ho
  | lastWeek =>
    rw [boundsFor, InCalendar]
    by_cases ho : 8 ≤ today.ordinal
    · obtain ⟨hm, hv'⟩ := minusDays_ok hv ho
      rw [hm, ok_bind, weekBounds_iff hv']
      exact iff_of_true (earlier_le_lastSunday hv ho) ho
    · rw [minusDays_error hv.proper (by omega)]
      exact iff_of_false (not_ok_of_error rfl) ho
  | lastYear =>
    rw [boundsFor, InCalendar]
    by_cases hy : 2 ≤ today.year
    · exact iff_of_true ⟨_, yearBounds_ok (by omega) (by omega)⟩ hy
    · exact iff_of_false (not_ok_of_error (yearBounds_error (by omega))) hy
  | between | before | after => exact iff_of_false (not_ok_of_error rfl) id

/-- What a question asks for relative to today, of the phrases in it the longest. -/
def relativePeriod (w : WordClass) (text : List Char) : Option TimePeriod :=
  (byLength relativePhrases).findSome? fun p =>
    (search (phrasePattern w p.1) text).map fun _ => p.2

/-- No dates are stated, and a relative window lies outside of the calendar. -/
def WindowLost (w : DigitClass) (today : Date) (text : List Char) : Prop :=
  betweenExpression w text = none ∧ beforeExpression w text = none ∧
    afterExpression w text = none ∧
    ∃ p, relativePeriod w.toWordClass text = some p ∧ ¬ InCalendar today p

theorem relativeExpression_ok_iff {today : Date} (h : Valid today) (w : DigitClass)
    (text : List Char) (phrases : List (String × TimePeriod)) :
    (∃ t, relativeExpression w today text phrases = .ok t) ↔
      ∀ p, phrases.findSome? (fun p =>
        (search (phrasePattern w.toWordClass p.1) text).map fun _ => p.2) = some p →
          InCalendar today p := by
  induction phrases with
  | nil =>
    apply iff_of_true ⟨none, rfl⟩
    intro p hp
    cases hp
  | cons x phrases ih =>
    obtain ⟨phrase, period⟩ := x
    rw [relativeExpression, List.findSome?_cons]
    cases search (phrasePattern w.toWordClass phrase) text with
    | none => exact ih
    | some m =>
      simp only [Option.map_some, Option.some.injEq, forall_eq']
      rw [← boundsFor_ok_iff h]
      constructor
      · rintro ⟨t, ht⟩
        obtain ⟨b, hb, -⟩ := bind_ok ht
        exact ⟨b, hb⟩
      · rintro ⟨b, hb⟩
        rw [hb, ok_bind]
        exact ⟨_, rfl⟩

theorem extractTime_ok_iff {today : Date} (h : Valid today) (w : DigitClass) (question : String) :
    (∃ t, extractTime w today question = .ok t) ↔ ¬ WindowLost w today question.toList := by
  rw [extractTime, WindowLost]
  cases betweenExpression w question.toList with
  | some t => exact iff_of_true ⟨_, rfl⟩ fun hl => Option.some_ne_none _ hl.1
  | none =>
    cases beforeExpression w question.toList with
    | some t => exact iff_of_true ⟨_, rfl⟩ fun hl => Option.some_ne_none _ hl.2.1
    | none =>
      cases afterExpression w question.toList with
      | some t => exact iff_of_true ⟨_, rfl⟩ fun hl => Option.some_ne_none _ hl.2.2.1
      | none =>
        refine (relativeExpression_ok_iff h w question.toList _).trans ?_
        simp only [true_and, not_exists, not_and, not_not]
        rfl

theorem not_windowLost {today : Date} (h : Valid today) (hy : 2 ≤ today.year)
    (hy' : today.year < maxYear) : ¬ WindowLost w today text := by
  rintro ⟨-, -, -, p, hp, hc⟩
  have ho := Date.ordinal_of_year h.proper hy
  have hperiods : ∀ q ∈ byLength relativePhrases,
      q.2 ≠ .between ∧ q.2 ≠ .before ∧ q.2 ≠ .after := by decide +kernel
  obtain ⟨q, hq, hm⟩ := List.exists_of_findSome?_eq_some hp
  obtain ⟨m, -, rfl⟩ := Option.map_eq_some_iff.1 hm
  obtain ⟨hb, hf, ha⟩ := hperiods q hq
  apply hc
  cases hq2 : q.2 with
  | today | thisMonth | thisQuarter | thisYear => trivial
  | yesterday => exact (by omega : 2 ≤ today.ordinal)
  | thisWeek => exact .inl hy'
  | lastWeek => exact (by omega : 8 ≤ today.ordinal)
  | lastMonth => exact .inl hy
  | lastQuarter => exact .inl hy
  | lastYear => exact hy
  | between => exact absurd hq2 hb
  | before => exact absurd hq2 hf
  | after => exact absurd hq2 ha

/-- From the second year on the windows of all units are as they should be for each day of a week
that ends in the year 9999, and a question has a window out of order exactly where its `between`
names the later date first. -/
theorem timeWindows_iff (w : DigitClass) {today : Date} (h : Valid today) :
    (2 ≤ today.year → ((∀ u, WindowsKept today u) ↔ today ≤ lastSunday)) ∧
      ∀ question, (∀ t, extractTime w today question = .ok (some t) → Ordered t) ↔
        ¬ Reversed w question :=
  ⟨windowsKept_iff h, extractTime_ordered_iff h.proper⟩

theorem timeWindows_leapDay :
    (∀ u, WindowsKept ⟨2024, 2, 29⟩ u) ∧
      ∀ t, extractTime asciiDigits ⟨2024, 2, 29⟩ "orders between 2023 and may 2024" =
        .ok (some t) → Ordered t :=
  have hv : Valid ⟨2024, 2, 29⟩ := by decide
  have h := timeWindows_iff asciiDigits hv
  ⟨(h.1 (by decide)).2 (by decide), (h.2 _).2 (by decide +kernel)⟩

theorem extractTime_disordered :
    ¬ WindowsKept ⟨9999, 12, 31⟩ .week ∧
      extractTime asciiDigits ⟨2024, 2, 29⟩ "orders between 2024 and 2023" =
        .ok (some ⟨.between, some ⟨2024, 1, 1⟩, some ⟨2023, 1, 1⟩, "between 2024 and 2023"⟩) ∧
      ¬ Ordered ⟨.between, some ⟨2024, 1, 1⟩, some ⟨2023, 1, 1⟩, "between 2024 and 2023"⟩ := by
  refine ⟨?_, by decide +kernel, fun h => ?_⟩
  · rw [windowsKept_week (by decide) (by decide)]
    decide
  · exact absurd (h _ _ rfl rfl) (by decide)

end QueryMind.Nlu
