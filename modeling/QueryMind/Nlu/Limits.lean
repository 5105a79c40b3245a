import QueryMind.Nlu.Sorting
import QueryMind.Nlu.Windows

namespace QueryMind.Nlu
open Lib Lib.Pattern
set_option autoImplicit true

/-- What parsing a question raises. -/
inductive ParseError
  | emptyQuestionError (message : String)
  | dateError (error : DateError)
  | valueError
  | validationError (field : String)
  deriving DecidableEq, Repr

def maxIntDigits : Nat := 4300

/-- `int` of a run of digits. -/
def int (w : DigitClass) (ds : List Char) : Except ParseError Nat :=
  if ds.length ≤ maxIntDigits then .ok (w.toNat ds) else .error .valueError

def limitExpression (value : Nat) (rawText : String) : Except ParseError LimitExpression :=
  if h : 0 < value then .ok ⟨value, h, rawText⟩ else .error (.validationError "value")

def limitVerbs : List String := ["top", "first", "bottom", "last", "limit"]

def limitPattern (w : DigitClass) : Pattern (List Char) := do
  boundary w.toWordClass
  anyOf ((limitVerbs.map String.toList).map literal)
  blanks
  let value ← run w.isDigit
  boundary w.toWordClass
  pure value

def extractLimit (w : DigitClass) (question : String) :
    Except ParseError (Option LimitExpression) :=
  match search (limitPattern w) question.toList with
  | none => .ok none
  | some m => do
    let value ← int w m.value
    let limit ← limitExpression value (.ofList m.text)
    return some limit

/-- A verb and a run of digits, as whole words, that a text has at a place. -/
def LimitPhrase (w : DigitClass) (text : List Char) (start : Nat) (ds : List Char) : Prop :=
  ∃ u verb gap v, text = u ++ (verb ++ (gap ++ (ds ++ v))) ∧ u.length = start ∧
    verb ∈ limitVerbs.map String.toList ∧ (gap ≠ [] ∧ ∀ c ∈ gap, Text.isSpace c = true) ∧
    (ds ≠ [] ∧ ∀ c ∈ ds, w.isDigit c = true) ∧ u.getLast?.any w.isWord = false ∧
    v.head?.any w.isWord = false

/-- The first such phrase of a text states a positive number, in no more digits than `int` reads. -/
def LimitReadable (w : DigitClass) (text : List Char) : Prop :=
  ∀ start ds, LimitPhrase w text start ds →
    (∀ start' ds', LimitPhrase w text start' ds' → start ≤ start') →
    ds.length ≤ maxIntDigits ∧ 0 < w.toNat ds

theorem limitVerbs_lower (h : verb ∈ limitVerbs.map String.toList) :
    ∃ x xs, verb = x :: xs ∧ isLower x = true := by
  have hall : ((limitVerbs.map String.toList).all fun v => v.head?.any isLower) = true := by
    decide +kernel
  have hv := List.all_eq_true.1 hall verb h
  cases verb with
  | nil => cases hv
  | cons x xs => exact ⟨x, xs, rfl, hv⟩

theorem limitVerbs_apart (hx : x ∈ limitVerbs.map String.toList)
    (hy : y ∈ limitVerbs.map String.toList) (hne : y ≠ x) (v : List Char) : ¬ y <+: x ++ v := by
  have hall : ((limitVerbs.map String.toList).all fun x => (limitVerbs.map String.toList).all
      fun y => x == y || !x.isPrefixOf y) = true := by decide +kernel
  have hapart : ∀ x ∈ limitVerbs.map String.toList, ∀ y ∈ limitVerbs.map String.toList,
      x <+: y → x = y := by
    intro x hx y hy hp
    have h := List.all_eq_true.1 (List.all_eq_true.1 hall x hx) y hy
    rw [List.isPrefixOf_iff_prefix.2 hp, Bool.not_true, Bool.or_false] at h
    exact beq_iff_eq.1 h
  intro hp
  rcases List.prefix_or_prefix_of_prefix hp (List.prefix_append x v) with h | h
  · exact hne (hapart y hy x hx h)
  · exact hne (hapart x hx y hy h).symm

theorem head_any {p : Char → Bool} (hne : u ≠ []) (h : ∀ c ∈ u, p c = false) (v : List Char) :
    (u ++ v).head?.any p = false := by
  obtain ⟨x, xs, rfl⟩ := List.exists_cons_of_ne_nil hne
  exact h x List.mem_cons_self

theorem first_limitPattern (w : DigitClass) (hverb : verb ∈ limitVerbs.map String.toList)
    (hgap : gap ≠ []) (hspace : ∀ c ∈ gap, Text.isSpace c = true) (hds : ds ≠ [])
    (hdigit : ∀ c ∈ ds, w.isDigit c = true) (hu : behind.head?.any w.isWord = false)
    (hv : v.head?.any w.isWord = false) :
    first (limitPattern w) ⟨behind, verb ++ (gap ++ (ds ++ v))⟩ =
      some (ds, ⟨ds.reverse ++ (gap.reverse ++ (verb.reverse ++ behind)), v⟩) := by
  have hopen : (verb ++ (gap ++ (ds ++ v))).head?.any w.isWord = true := by
    obtain ⟨x, xs, rfl, hx⟩ := limitVerbs_lower hverb
    exact isWord_of_isLower w.toWordClass hx
  have hstop : v.head?.any w.isDigit = false := by
    rw [← Bool.not_eq_true]
    intro h
    cases v with
    | nil => cases h
    | cons c v =>
      have hc : w.isWord c = true := w.digit_word c h
      rw [List.head?_cons, Option.any_some, hc] at hv
      cases hv
  have hlast : (ds.reverse ++ (gap.reverse ++ (verb.reverse ++ behind))).head?.any w.isWord =
      true := by
    obtain ⟨x, xs, hx⟩ := List.exists_cons_of_ne_nil (List.reverse_ne_nil_iff.2 hds)
    rw [hx]
    exact w.digit_word x (hdigit x (List.mem_reverse.1 (hx ▸ List.mem_cons_self)))
  rw [limitPattern, first_boundary_bind, hu, hopen,
    first_anyOf_literal hverb fun y hy hne => limitVerbs_apart hverb hy hne _]
  apply first_plus_run hgap hspace
  · apply head_any hds
    intro c hc
    rw [← Bool.not_eq_true]
    intro hs
    have hd := hdigit c hc
    rw [w.isDigit_of_space hs] at hd
    cases hd
  · apply first_run hds hdigit hstop
    rw [first_boundary_bind, hlast, hv]
    rfl

theorem head_reverse_any {p : Char → Bool} (u : List Char) :
    u.reverse.head?.any p = u.getLast?.any p := by rw [List.head?_reverse]

theorem LimitPhrase.first (h : LimitPhrase w text start ds) :
    ∃ stop, first (limitPattern w) ⟨(text.take start).reverse, text.drop start⟩ =
      some (ds, stop) := by
  obtain ⟨u, verb, gap, v, rfl, rfl, hverb, ⟨hgap, hspace⟩, ⟨hds, hdigit⟩, hu, hv⟩ := h
  rw [List.take_left, List.drop_left]
  rw [← head_reverse_any] at hu
  exact ⟨_, first_limitPattern w hverb hgap hspace hds hdigit hu hv⟩

theorem limitPhrase_of_mem {c : Cursor} (h : r ∈ limitPattern w c) :
    LimitPhrase w (c.behind.reverse ++ c.ahead) c.behind.length r.1 := by
  obtain ⟨q₁, h₁, h⟩ := mem_bind.1 h
  obtain ⟨q₂, h₂, h⟩ := mem_bind.1 h
  obtain ⟨q₃, h₃, h⟩ := mem_bind.1 h
  obtain ⟨q₄, h₄, h⟩ := mem_bind.1 h
  obtain ⟨q₅, h₅, h⟩ := mem_bind.1 h
  cases mem_pure.1 h
  obtain ⟨hq₁, hopen⟩ := mem_boundary.1 h₁
  rw [hq₁] at h₂
  obtain ⟨p, hp, h₂⟩ := mem_anyOf.1 h₂
  obtain ⟨verb, hverb, rfl⟩ := List.mem_map.1 hp
  obtain ⟨v₂, hv₂, hq₂⟩ := mem_literal.1 h₂
  rw [hq₂] at h₃
  obtain ⟨gap, v₃, hgap, hv₃, hspace, hq₃⟩ := mem_plus.1 h₃
  rw [hq₃] at h₄
  obtain ⟨v₄, hds, hv₄, hdigit, hq₄⟩ := mem_run.1 h₄
  dsimp only at hv₃ hv₄
  obtain ⟨-, hclose⟩ := mem_boundary.1 h₅
  rw [hq₄] at hclose
  dsimp only at hclose
  have hlast : (q₄.1.reverse ++ (gap.reverse ++ (verb.reverse ++ c.behind))).head?.any w.isWord =
      true := by
    obtain ⟨x, xs, hx⟩ := List.exists_cons_of_ne_nil (List.reverse_ne_nil_iff.2 hds)
    rw [hx]
    exact w.digit_word x (hdigit x (List.mem_reverse.1 (hx ▸ List.mem_cons_self)))
  have hfirst : c.ahead.head?.any w.isWord = true := by
    obtain ⟨x, xs, rfl, hx⟩ := limitVerbs_lower hverb
    rw [hv₂]
    exact isWord_of_isLower w.toWordClass hx
  rw [hlast] at hclose
  rw [hfirst] at hopen
  refine ⟨c.behind.reverse, verb, gap, v₄, ?_, List.length_reverse, hverb, ⟨hgap, hspace⟩,
    ⟨hds, hdigit⟩, ?_, ?_⟩
  · rw [hv₂, hv₃, hv₄]
  · rw [← head_reverse_any, List.reverse_reverse, ← Bool.not_eq_true]
    exact hopen
  · rw [← Bool.not_eq_true]
    exact fun h => hclose h.symm

theorem search_limit (h : search (limitPattern w) text = some m) :
    LimitPhrase w text m.start.behind.length m.value ∧
      ∀ start ds, LimitPhrase w text start ds → m.start.behind.length ≤ start := by
  constructor
  · obtain ⟨u, v, ht, hs, hf⟩ := searchFrom_some h
    have hp := limitPhrase_of_mem (mem_of_first hf)
    rw [hs, List.append_nil, List.reverse_reverse, ← ht] at hp
    rw [hs, List.append_nil]
    exact hp
  · intro start ds hp
    obtain ⟨stop, hf⟩ := hp.first
    rw [← List.append_nil (text.take start).reverse] at hf
    obtain ⟨m', hm', hle⟩ := searchFrom_le (text.take start) hf
    rw [List.take_append_drop] at hm'
    cases h.symm.trans hm'
    rw [List.length_take, List.length_nil] at hle
    omega

theorem search_no_limit (h : search (limitPattern w) text = none) :
    ¬ LimitPhrase w text start ds := by
  intro hp
  obtain ⟨stop, hf⟩ := hp.first
  rw [← List.append_nil (text.take start).reverse] at hf
  obtain ⟨m', hm', -⟩ := searchFrom_le (text.take start) hf
  rw [List.take_append_drop] at hm'
  cases h.symm.trans hm'

theorem LimitPhrase.unique (h : LimitPhrase w text start ds)
    (h' : LimitPhrase w text start ds') : ds = ds' := by
  obtain ⟨stop, hf⟩ := h.first
  obtain ⟨stop', hf'⟩ := h'.first
  rw [hf] at hf'
  exact (Prod.mk.inj (Option.some.inj hf')).1

/-- A limit is extracted exactly where the phrase that states it can be read. -/
theorem extractLimit_ok_iff (w : DigitClass) (question : String) :
    (∃ l, extractLimit w question = .ok l) ↔ LimitReadable w question.toList := by
  cases hs : search (limitPattern w) question.toList with
  | none =>
    apply iff_of_true
    · apply Exists.intro none
      rw [extractLimit, hs]
    · intro start ds hp
      exact absurd hp (search_no_limit hs)
  | some m =>
    obtain ⟨hp, hfirst⟩ := search_limit hs
    have hreadable : LimitReadable w question.toList ↔
        m.value.length ≤ maxIntDigits ∧ 0 < w.toNat m.value := by
      constructor
      · intro h
        exact h _ _ hp hfirst
      · intro h start ds hp' hfirst'
        have he : start = m.start.behind.length :=
          le_antisymm (hfirst' _ _ hp) (hfirst _ _ hp')
        rw [he] at hp'
        rw [hp'.unique hp]
        exact h
    rw [extractLimit, hs, hreadable]
    dsimp only
    rw [int]
    by_cases hlen : m.value.length ≤ maxIntDigits
    · rw [if_pos hlen, ok_bind, limitExpression, and_iff_right hlen]
      by_cases hpos : 0 < w.toNat m.value
      · rw [dif_pos hpos]
        exact iff_of_true ⟨_, rfl⟩ hpos
      · rw [dif_neg hpos]
        apply iff_of_false _ hpos
        rintro ⟨l, hl⟩
        cases hl
    · rw [if_neg hlen]
      apply iff_of_false
      · rintro ⟨l, hl⟩
        cases hl
      · exact fun h => hlen h.1

end QueryMind.Nlu
