import Mathlib.Order.Lattice.Nat
import QueryMind.Nlu.Mentions

namespace QueryMind.Nlu
open Lib Lib.Pattern
set_option autoImplicit true

/-- A keyword is a whole word of the text, at a place in the window that is looked back on. -/
structure KeywordAt (w : WordClass) (text : List Char) (position : Nat) (keyword : String)
    (start : Nat) : Prop where
  after : position - aggregationWindow ≤ start
  before : start + keyword.length ≤ position
  occurs : keyword.toList <+: text.drop start
  opens : (text.take start).getLast?.any w.isWord = false
  closes : (text.drop (start + keyword.length)).head?.any w.isWord = false

/-- The aggregation of a keyword that no other one in the window starts after. -/
def IsNearest (w : WordClass) (text : List Char) (position : Nat) (a : AggregationType) : Prop :=
  ∃ keyword start, (keyword, a) ∈ aggregationKeywords ∧ KeywordAt w text position keyword start ∧
    ∀ p ∈ aggregationKeywords, ∀ start', KeywordAt w text position p.1 start' → start' ≤ start

def NoKeyword (w : WordClass) (text : List Char) (position : Nat) : Prop :=
  ∀ p ∈ aggregationKeywords, ∀ start, ¬KeywordAt w text position p.1 start

def AggregationBefore (w : WordClass) (text : List Char) (position : Nat) :
    Option AggregationType → Prop
  | some a => IsNearest w text position a
  | none => NoKeyword w text position

def lookBack (text : List Char) (position : Nat) : List Char :=
  (text.take position).drop (position - aggregationWindow)

def firstInSlice (w : WordClass) (text : List Char) (position : Nat) (keyword : String) :
    Option Nat :=
  (search (phrasePattern w keyword) (lookBack text position)).map fun m => m.span.1

/-- The slice tells of the nearest keyword: one with its aggregation is first found after all
those with another one, and nothing is found where there is no keyword. -/
structure SliceTells (w : WordClass) (text : List Char) (position : Nat) : Prop where
  nearest : ∀ a, IsNearest w text position a → ∃ keyword n, (keyword, a) ∈ aggregationKeywords ∧
    firstInSlice w text position keyword = some n ∧ ∀ p ∈ aggregationKeywords, p.2 ≠ a →
      ∀ m, firstInSlice w text position p.1 = some m → m < n
  absent : NoKeyword w text position →
    ∀ p ∈ aggregationKeywords, firstInSlice w text position p.1 = none

section
variable {κ : Type u} {β : Type v} (found : κ → Option Nat)

/-- Keep the later one of the best so far and a key that is found. -/
def keepLater (best : Option (Nat × β)) (p : κ × β) : Option (Nat × β) :=
  match found p.1 with
  | some n =>
    match best with
    | some b => if b.1 < n then some (n, p.2) else some b
    | none => some (n, p.2)
  | none => best

def FoundUpTo (keys : List (κ × β)) (n : Nat) : Prop :=
  ∀ p ∈ keys, ∀ m, found p.1 = some m → m ≤ n

def IsLatest (keys : List (κ × β)) : Option (Nat × β) → Prop
  | none => ∀ p ∈ keys, found p.1 = none
  | some b => (∃ key, (key, b.2) ∈ keys ∧ found key = some b.1) ∧ FoundUpTo found keys b.1

variable {found}

theorem FoundUpTo.concat (h : FoundUpTo found keys n) {p : κ × β}
    (hp : ∀ m, found p.1 = some m → m ≤ n) : FoundUpTo found (keys ++ [p]) n := by
  intro q hq m hm
  rcases List.mem_append.1 hq with hq | hq
  · exact h q hq m hm
  · rw [List.mem_singleton.1 hq] at hm
    exact hp m hm

theorem IsLatest.step {best : Option (Nat × β)} (h : IsLatest found keys best) (p : κ × β) :
    IsLatest found (keys ++ [p]) (keepLater found best p) := by
  rw [keepLater]
  cases hp : found p.1 with
  | none =>
    cases best with
    | none => exact List.forall_mem_append.2 ⟨h, List.forall_mem_singleton.2 hp⟩
    | some b =>
      obtain ⟨⟨key, hk, hf⟩, hle⟩ := h
      apply And.intro ⟨key, List.mem_append_left _ hk, hf⟩
      apply hle.concat
      intro m hm
      rw [hp] at hm
      cases hm
  | some n =>
    have hlast : ∃ key, (key, p.2) ∈ keys ++ [p] ∧ found key = some n :=
      ⟨p.1, List.mem_append_right _ (List.mem_singleton.2 rfl), hp⟩
    have hle {k : Nat} (hk : n ≤ k) (m : Nat) (hm : found p.1 = some m) : m ≤ k := by
      rw [hp] at hm
      cases hm
      exact hk
    cases best with
    | none =>
      apply And.intro hlast
      apply FoundUpTo.concat _ (hle le_rfl)
      intro q hq m hm
      rw [h q hq] at hm
      cases hm
    | some b =>
      obtain ⟨⟨key, hk, hf⟩, hb⟩ := h
      by_cases hn : b.1 < n
      · dsimp only
        rw [if_pos hn]
        apply And.intro hlast
        apply FoundUpTo.concat _ (hle le_rfl)
        intro q hq m hm
        exact (hb q hq m hm).trans hn.le
      · dsimp only
        rw [if_neg hn]
        exact ⟨⟨key, List.mem_append_left _ hk, hf⟩, hb.concat (hle (not_lt.1 hn))⟩

theorem isLatest_foldl (found : κ → Option Nat) (keys : List (κ × β)) :
    IsLatest found keys (keys.foldl (keepLater found) none) := by
  induction keys using List.reverseRecOn with
  | nil => exact List.forall_mem_nil _
  | append_singleton keys p ih =>
    rw [List.foldl_append]
    exact ih.step p

end

theorem findAggregationBefore_eq (w : WordClass) (text : List Char) (position : Nat) :
    findAggregationBefore w text position =
      (aggregationKeywords.foldl (keepLater (firstInSlice w text position)) none).map
        Prod.snd := by
  rw [findAggregationBefore]
  apply congrArg (Option.map Prod.snd)
  apply List.foldl_ext
  intro best p _
  rw [keepLater, firstInSlice, lookBack]
  cases search (phrasePattern w p.1) ((text.take position).drop (position - aggregationWindow)) with
  | none => rfl
  | some m => cases best <;> rfl

theorem aggregation_of_start (h : (k, a) ∈ aggregationKeywords)
    (h' : (k', a') ∈ aggregationKeywords) (hp : k.toList <+: k'.toList) : a = a' := by
  have hall : (aggregationKeywords.all fun p => aggregationKeywords.all fun q =>
      !p.1.toList.isPrefixOf q.1.toList || p.2 == q.2) = true := by decide +kernel
  have hq := List.all_eq_true.1 (List.all_eq_true.1 hall _ h) _ h'
  rw [List.isPrefixOf_iff_prefix.2 hp] at hq
  exact beq_iff_eq.1 hq

theorem aggregation_unique (h : (k, a) ∈ aggregationKeywords)
    (h' : (k', a') ∈ aggregationKeywords) (hk : k.toList <+: rest) (hk' : k'.toList <+: rest) :
    a = a' := by
  rcases List.prefix_or_prefix_of_prefix hk hk' with hp | hp
  · exact aggregation_of_start h h' hp
  · exact (aggregation_of_start h' h hp).symm

theorem firstInSlice_occurs (h : firstInSlice w text position keyword = some n) :
    keyword.toList <+: (lookBack text position).drop n := by
  obtain ⟨m, hm, rfl⟩ := Option.map_eq_some_iff.1 h
  obtain ⟨u, v, ht, hs, hf⟩ := searchFrom_some hm
  rw [hs] at hf
  obtain ⟨v', hv, -⟩ := mem_phrasePattern (mem_of_first hf)
  rw [ht]
  change keyword.toList <+: (u ++ v).drop m.start.behind.length
  rw [hs, List.append_nil, List.length_reverse, List.drop_left]
  exact ⟨v', hv.symm⟩

theorem IsNearest.unique (h : IsNearest w text position a) (h' : IsNearest w text position a') :
    a = a' := by
  obtain ⟨k, s, hk, hs, hle⟩ := h
  obtain ⟨k', s', hk', hs', hle'⟩ := h'
  have he : s = s' := le_antisymm (hle' _ hk _ hs) (hle _ hk' _ hs')
  rw [← he] at hs'
  exact aggregation_unique hk hk' hs.occurs hs'.occurs

theorem exists_nearest (h : ¬NoKeyword w text position) :
    ∃ a, IsNearest w text position a := by
  let starts : Set Nat :=
    {start | ∃ p ∈ aggregationKeywords, KeywordAt w text position p.1 start}
  have hne : starts.Nonempty := by
    by_contra hn
    apply h
    intro p hp start hs
    exact hn ⟨start, p, hp, hs⟩
  have hbdd : BddAbove starts := by
    apply Exists.intro position
    rintro start ⟨p, _, hs⟩
    exact (Nat.le_add_right start _).trans hs.before
  obtain ⟨p, hp, hs⟩ := Nat.sSup_mem hne hbdd
  apply Exists.intro p.2
  apply Exists.intro p.1
  apply Exists.intro (sSup starts)
  apply And.intro hp
  apply And.intro hs
  intro q hq start hstart
  exact le_csSup hbdd ⟨q, hq, hstart⟩

/-- The aggregation that is found is the one of the nearest whole word just when the slice tells
of it. -/
theorem findAggregationBefore_iff (w : WordClass) (text : List Char) (position : Nat) :
    AggregationBefore w text position (findAggregationBefore w text position) ↔
      SliceTells w text position := by
  have hl := isLatest_foldl (firstInSlice w text position) aggregationKeywords
  rw [findAggregationBefore_eq]
  cases hb : aggregationKeywords.foldl (keepLater (firstInSlice w text position)) none with
  | none =>
    rw [hb] at hl
    constructor
    · intro h
      apply SliceTells.mk
      · intro a ha
        obtain ⟨k, s, hk, hs, -⟩ := ha
        exact absurd hs (h _ hk s)
      · intro _
        exact hl
    · intro h
      by_contra hn
      obtain ⟨a, ha⟩ := exists_nearest hn
      obtain ⟨k, n, hk, hf, -⟩ := h.nearest a ha
      rw [hl _ hk] at hf
      cases hf
  | some b =>
    obtain ⟨n, a⟩ := b
    rw [hb] at hl
    obtain ⟨⟨k, hk, hf⟩, hle⟩ := hl
    constructor
    · intro h
      apply SliceTells.mk
      · intro a' ha'
        rw [ha'.unique h]
        apply Exists.intro k
        apply Exists.intro n
        apply And.intro hk
        apply And.intro hf
        intro p hp hne m hm
        apply lt_of_le_of_ne (hle p hp m hm)
        rintro rfl
        exact hne (aggregation_unique hp hk (firstInSlice_occurs hm) (firstInSlice_occurs hf))
      · intro hno
        obtain ⟨k', s, hk', hs, -⟩ := h
        exact absurd hs (hno _ hk' s)
    · intro h
      change IsNearest w text position a
      have hn : ¬NoKeyword w text position := by
        intro hn
        have hnone := h.absent hn _ hk
        rw [hf] at hnone
        cases hnone
      obtain ⟨a', ha'⟩ := exists_nearest hn
      obtain ⟨k', n', hk', hf', hlt⟩ := h.nearest a' ha'
      by_cases he : a = a'
      · rw [he]
        exact ha'
      · exact absurd (hlt _ hk he n hf) (hle _ hk' n' hf').not_gt

def sumAvgSum : List Char := "sum avg sum revenue".toList

/-- The metric's own `sum` is not its first one, so `avg` is taken to be nearest. -/
theorem sum_avg_sum_average :
    findAggregationBefore asciiWord sumAvgSum 12 = some .average ∧
      ¬AggregationBefore asciiWord sumAvgSum 12
        (findAggregationBefore asciiWord sumAvgSum 12) := by
  have ha : findAggregationBefore asciiWord sumAvgSum 12 = some .average := by decide +kernel
  apply And.intro ha
  rw [ha]
  intro h
  obtain ⟨k, s, hk, hs, hle⟩ := h
  have hsum : KeywordAt asciiWord sumAvgSum 12 "sum" 8 :=
    ⟨by decide, by decide, by decide, by decide, by decide⟩
  have h8 : 8 ≤ s := hle ("sum", .sum) (by decide) 8 hsum
  have hnone : ∀ p ∈ aggregationKeywords, p.2 = .average → ∀ s < 13, 8 ≤ s →
      ¬p.1.toList <+: sumAvgSum.drop s := by decide +kernel
  have hlt : s < 13 := Nat.lt_succ_of_le ((Nat.le_add_right s _).trans hs.before)
  exact hnone _ hk rfl s hlt h8 hs.occurs

end QueryMind.Nlu
