import QueryMind.Lib.Lines
import QueryMind.Lib.Pattern

namespace QueryMind.Sql
open Lib Lib.Pattern
set_option autoImplicit true

inductive ExtractionMethod
  | fencedSqlBlock | fencedGenericBlock | rawText
  deriving DecidableEq, Repr

def ExtractionMethod.value : ExtractionMethod → String
  | .fencedSqlBlock => "fenced_sql_block"
  | .fencedGenericBlock => "fenced_generic_block"
  | .rawText => "raw_text"

structure ExtractionResult where
  sql : String
  method : ExtractionMethod
  deriving DecidableEq, Repr

def fence : List Char := ['`', '`', '`']

/-- The letters `sql` in either case, where the long s is an s. -/
def sqlTag : List (Char → Bool) :=
  [fun c => c == 's' || c == 'S' || c == 'ſ', fun c => c == 'q' || c == 'Q',
    fun c => c == 'l' || c == 'L']

def sqlFencePattern : Pattern (List Char) := do
  literal fence
  classes sqlTag
  let _ ← greedy Text.isSpace
  let body ← lazily (fun _ => true)
  literal fence
  pure body

def genericFencePattern (w : WordClass) : Pattern (List Char) := do
  literal fence
  let _ ← greedy w.isWord
  let _ ← greedy Text.isSpace
  let body ← lazily (fun _ => true)
  literal fence
  pure body

def extractionResult (candidate : List Char) (method : ExtractionMethod) :
    Except String ExtractionResult :=
  let sql := Text.strip (.ofList candidate)
  if sql.isEmpty then
    .error ("Extraction via '" ++ method.value ++ "' produced no usable SQL text.")
  else .ok ⟨sql, method⟩

def extract (w : WordClass) (rawContent : String) : Except String ExtractionResult :=
  match search sqlFencePattern rawContent.toList with
  | some m => extractionResult m.value .fencedSqlBlock
  | none =>
    match search (genericFencePattern w) rawContent.toList with
    | some m => extractionResult m.value .fencedGenericBlock
    | none => extractionResult rawContent.toList .rawText

section
variable (w : WordClass)

theorem isWord_tick : w.isWord '`' = false := w.ascii '`' (by decide)

/-- The block that a fence with the tag of SQL opens at the start of a text. -/
def sqlBlock (xs : List Char) : Option (List Char) :=
  if fence <+: xs then
    if fits sqlTag (xs.drop 3) then
      (cut fence (((xs.drop 3).drop 3).dropWhile Text.isSpace)).map Prod.fst
    else none
  else none

/-- The block that any fence opens at the start of a text. -/
def genericBlock (xs : List Char) : Option (List Char) :=
  if fence <+: xs then
    (cut fence (((xs.drop 3).dropWhile w.isWord).dropWhile Text.isSpace)).map Prod.fst
  else none

theorem tick_of_mem_fence (h : c ∈ fence) : c = '`' := by
  simpa [fence] using h

theorem not_mem_fence {p : Char → Bool} (hp : p '`' = false) (hx : p x = true) : x ∉ fence := by
  intro hf
  rw [tick_of_mem_fence hf, hp] at hx
  cases hx

theorem cut_fence_append {p : Char → Bool} (hp : p '`' = false) (u v : List Char)
    (hu : ∀ x ∈ u, p x = true) (h : (cut fence v).map Prod.fst = none) :
    (cut fence (u ++ v)).map Prod.fst = none := by
  rw [Option.map_eq_none_iff, cut_eq_none_iff] at h ⊢
  intro hi
  rcases infix_of_infix_append hi fun x hx => not_mem_fence hp (hu x hx) with hn | hv
  · cases hn
  · exact h hv

theorem reads_sqlFence : Reads sqlFencePattern sqlBlock :=
  reads_literal (reads_classes (reads_greedy (reads_until fence id) (cut_fence_append rfl)) sqlTag)
    fence

theorem reads_genericFence : Reads (genericFencePattern w) (genericBlock w) := by
  apply reads_literal (g := fun xs =>
    (cut fence ((xs.dropWhile w.isWord).dropWhile Text.isSpace)).map Prod.fst)
  apply reads_greedy (g := fun xs => (cut fence (xs.dropWhile Text.isSpace)).map Prod.fst)
  · exact reads_greedy (reads_until fence id) (cut_fence_append rfl)
  · intro u v hu h
    rw [Option.map_eq_none_iff, cut_eq_none_iff] at h ⊢
    intro hi
    have hi' : fence <:+: u ++ v := hi.trans (List.dropWhile_suffix _).isInfix
    have hword : ∀ x ∈ u, x ∉ fence := fun x hx => not_mem_fence (isWord_tick w) (hu x hx)
    rcases infix_of_infix_append hi' hword with hn | hv
    · cases hn
    · have hspace : ∀ x ∈ fence, Text.isSpace x = false := by
        intro x hx
        rw [tick_of_mem_fence hx]
        rfl
      rcases infix_dropWhile hv hspace with hn | hd
      · cases hn
      · exact h hd

def candidate (raw : List Char) : List Char :=
  match scan sqlBlock raw with
  | some block => block
  | none => (scan (genericBlock w) raw).getD raw

theorem extract_eq (raw : String) :
    ∃ method, extract w raw = extractionResult (candidate w raw.toList) method := by
  rw [extract, candidate, ← search_reads reads_sqlFence, ← search_reads (reads_genericFence w)]
  cases search sqlFencePattern raw.toList with
  | some m => exact ⟨_, rfl⟩
  | none =>
    cases search (genericFencePattern w) raw.toList with
    | some m => exact ⟨_, rfl⟩
    | none => exact ⟨_, rfl⟩

theorem extract_sql_iff (hs : Text.strip sql ≠ "") (raw : String) :
    (extract w raw).map ExtractionResult.sql = .ok (Text.strip sql) ↔
      Text.stripChars (candidate w raw.toList) = Text.stripChars sql.toList := by
  obtain ⟨method, he⟩ := extract_eq w raw
  rw [he, extractionResult]
  have hstrip : Text.strip (.ofList (candidate w raw.toList)) = Text.strip sql ↔
      Text.stripChars (candidate w raw.toList) = Text.stripChars sql.toList := by
    rw [Text.strip, Text.strip, String.toList_ofList, String.ofList_inj]
  rw [← hstrip]
  split
  · rename_i hempty
    rw [String.isEmpty_iff] at hempty
    rw [hempty]
    exact iff_of_false (fun h => by cases h) fun h => hs h.symm
  · exact ⟨fun h => Except.ok.inj h, fun h => congrArg Except.ok h⟩

end

abbrev ticks (n : Nat) : List Char := List.replicate n '`'

theorem ticks_succ (n : Nat) : ticks (n + 1) = '`' :: ticks n := rfl

theorem ticks_add (m n : Nat) : ticks (m + n) = ticks m ++ ticks n :=
  List.replicate_append_replicate.symm

theorem ticks_fence (n : Nat) (r : List Char) :
    ticks n ++ (fence ++ r) = fence ++ (ticks n ++ r) := by
  have hf : fence = ticks 3 := rfl
  rw [hf, ← List.append_assoc, ← List.append_assoc, ← ticks_add, ← ticks_add, Nat.add_comm]

theorem not_prefix_fence (hn : ¬ fence <:+: front) (hl : front.getLast? ≠ some '`')
    (hu : u <:+ front) (hne : u ≠ []) (x : List Char) : ¬ fence <+: u ++ x := by
  intro hp
  have hlast : u.getLast? ≠ some '`' := by
    obtain ⟨t, rfl⟩ := hu
    rwa [List.getLast?_append_of_ne_nil _ hne] at hl
  match u, hne with
  | [a], _ =>
    obtain ⟨rfl, _⟩ := List.cons_prefix_cons.1 hp
    exact hlast rfl
  | [a, b], _ =>
    obtain ⟨_, hp⟩ := List.cons_prefix_cons.1 hp
    obtain ⟨rfl, _⟩ := List.cons_prefix_cons.1 hp
    exact hlast rfl
  | a :: b :: c :: u, _ =>
    apply hn
    apply List.IsInfix.trans _ hu.isInfix
    apply List.IsPrefix.isInfix
    exact List.prefix_of_prefix_length_le hp (List.prefix_append _ x) (Nat.le_add_left 3 _)

theorem not_fence_append (hn : ¬ fence <:+: front) (hl : front.getLast? ≠ some '`')
    (hx : ¬ fence <:+: x) : ¬ fence <:+: front ++ x := by
  intro hi
  obtain ⟨z, hz, hp⟩ := infix_iff_suffix.1 hi
  rcases suffix_append_cases hz with hz | ⟨u, hu, hne, rfl⟩
  · exact hx (infix_iff_suffix.2 ⟨z, hz, hp⟩)
  · exact not_prefix_fence hn hl hu hne x hp

theorem fence_reverse : fence <:+: l.reverse ↔ fence <:+: l := by
  rw [← List.reverse_infix, List.reverse_reverse]
  rfl

theorem not_fence_ticks (hk : k < 3) : ¬ fence <:+: ticks k := by
  intro hi
  have hle := hi.length_le
  rw [List.length_replicate] at hle
  exact absurd hle (by simpa [fence] using hk)

theorem not_fence_ticks_append (hk : k < 3) (hn : ¬ fence <:+: back) (hh : back.head? ≠ some '`') :
    ¬ fence <:+: ticks k ++ back := by
  rw [← fence_reverse, List.reverse_append, List.reverse_replicate]
  apply not_fence_append
  · rwa [fence_reverse]
  · rwa [List.getLast?_reverse]
  · exact not_fence_ticks hk

theorem ticks_lt (h : ¬ fence <:+: ticks k) : k < 3 := by
  by_contra hk
  apply h
  apply List.IsPrefix.isInfix
  obtain ⟨i, rfl⟩ := Nat.exists_eq_add_of_le (Nat.le_of_not_lt hk)
  rw [ticks_add]
  exact List.prefix_append fence _

theorem cut_fence (hn : ¬ fence <:+: u) (hl : u.getLast? ≠ some '`') (v : List Char) :
    cut fence (u ++ (fence ++ v)) = some (u, v) :=
  cut_append v (not_fence_append hn hl (not_fence_ticks (k := 2) (by decide)))

theorem sqlBlock_fence (r : List Char) : sqlBlock (fence ++ r) =
    if fits sqlTag r then (cut fence ((r.drop 3).dropWhile Text.isSpace)).map Prod.fst else none :=
  if_pos (List.prefix_append fence r)

theorem genericBlock_fence (w : WordClass) (r : List Char) : genericBlock w (fence ++ r) =
    (cut fence ((r.dropWhile w.isWord).dropWhile Text.isSpace)).map Prod.fst :=
  if_pos (List.prefix_append fence r)

theorem sqlBlock_none (h : ∀ r, z = fence ++ r → fits sqlTag r = true → ¬ fence <:+: r) :
    sqlBlock z = none := by
  by_cases hp : fence <+: z
  · obtain ⟨r, rfl⟩ := hp
    rw [sqlBlock_fence]
    by_cases hf : fits sqlTag r = true
    · rw [if_pos hf, Option.map_eq_none_iff, cut_eq_none_iff]
      intro hi
      apply h r rfl hf
      exact hi.trans ((List.dropWhile_suffix _).trans (List.drop_suffix 3 r)).isInfix
    · exact if_neg hf
  · exact if_neg hp

theorem ticks_append_eq (hh : x.head? ≠ some '`') (h : ticks i ++ x = fence ++ r) :
    3 ≤ i ∧ r = ticks (i - 3) ++ x := by
  match i with
  | 0 =>
    exact absurd (show x.head? = some '`' by rw [show x = fence ++ r from h]; rfl) hh
  | 1 =>
    have hx : x = '`' :: '`' :: r := List.cons.inj h |>.2
    exact absurd (show x.head? = some '`' by rw [hx]; rfl) hh
  | 2 =>
    have hx : x = '`' :: r := (List.cons.inj (List.cons.inj h).2).2
    exact absurd (show x.head? = some '`' by rw [hx]; rfl) hh
  | i + 3 =>
    exact ⟨Nat.le_add_left 3 i, ((List.cons.inj (List.cons.inj (List.cons.inj h).2).2).2).symm⟩

theorem sqlBlock_ticks_none (hh : x.head? ≠ some '`') (hx : fits sqlTag x = true → ¬ fence <:+: x) :
    sqlBlock (ticks i ++ x) = none := by
  apply sqlBlock_none
  intro r hr hf
  obtain ⟨_, rfl⟩ := ticks_append_eq hh hr
  cases hi : i - 3 with
  | zero =>
    rw [hi] at hf
    exact hx hf
  | succ n =>
    rw [hi] at hf
    cases hf

theorem sqlBlock_tail (hq : ¬ fence <:+: q) (hh : q.head? ≠ some '`') (hz : z <:+ ticks l ++ q) :
    sqlBlock z = none := by
  rcases suffix_append_cases hz with hz | ⟨w, hw, _, rfl⟩
  · apply sqlBlock_none
    rintro r rfl _ _
    exact hq ((List.prefix_append fence r).isInfix.trans hz.isInfix)
  · obtain ⟨i, rfl⟩ := suffix_replicate hw
    exact sqlBlock_ticks_none hh fun _ => hq

/-- A text that begins and ends in something else than a backtick, and holds no fence. -/
structure Unfenced (m : List Char) : Prop where
  ne_nil : m ≠ []
  head : m.head? ≠ some '`'
  last : m.getLast? ≠ some '`'
  no_fence : ¬ fence <:+: m

theorem Unfenced.head_append (hm : Unfenced m) (x : List Char) : (m ++ x).head? ≠ some '`' := by
  rw [List.head?_append_of_ne_nil _ hm.ne_nil]
  exact hm.head

theorem fits_unfenced (m x : List Char) :
    fits sqlTag (m ++ '`' :: x) = fits sqlTag m := by
  apply fits_stop
  decide

theorem scan_sql_none (hp : ¬ fence <:+: p) (hpl : p.getLast? ≠ some '`') (hm : Unfenced m)
    (hf : fits sqlTag m = false) (hq : ¬ fence <:+: q) (hqh : q.head? ≠ some '`') (n l : Nat) :
    scan sqlBlock (p ++ (ticks n ++ (m ++ (ticks (l + 1) ++ q)))) = none := by
  apply scan_none
  intro z hz
  rcases suffix_append_cases hz with hz | ⟨u, hu, hne, rfl⟩
  · rcases suffix_append_cases hz with hz | ⟨u, hu, _, rfl⟩
    · rcases suffix_append_cases hz with hz | ⟨u, hu, hne, rfl⟩
      · exact sqlBlock_tail hq hqh hz
      · exact if_neg (not_prefix_fence hm.no_fence hm.last hu hne _)
    · obtain ⟨i, rfl⟩ := suffix_replicate hu
      apply sqlBlock_ticks_none (hm.head_append _)
      intro hf'
      rw [ticks_succ, List.cons_append, fits_unfenced, hf] at hf'
      cases hf'
  · exact if_neg (not_prefix_fence hp hpl hu hne _)

theorem scan_sql (hp : ¬ fence <:+: p) (hpl : p.getLast? ≠ some '`') (hf : fits sqlTag r = true)
    (hc : cut fence ((r.drop 3).dropWhile Text.isSpace) = some (block, rest)) (n : Nat) :
    scan sqlBlock (p ++ (ticks n ++ (fence ++ r))) = some block := by
  rw [scan_append fun u hu hne => if_neg (not_prefix_fence hp hpl hu hne _), scan_append]
  · apply scan_some
    rw [sqlBlock_fence, if_pos hf, hc]
    rfl
  · intro u hu hne
    obtain ⟨i, rfl⟩ := suffix_replicate hu
    cases i with
    | zero => exact absurd rfl hne
    | succ i =>
      rw [ticks_fence, sqlBlock_fence]
      rfl

theorem scan_generic (w : WordClass) (hp : ¬ fence <:+: p) (hpl : p.getLast? ≠ some '`')
    (hc : cut fence ((r.dropWhile w.isWord).dropWhile Text.isSpace) = some (block, rest)) :
    scan (genericBlock w) (p ++ (fence ++ r)) = some block := by
  rw [scan_append fun u hu hne => if_neg (not_prefix_fence hp hpl hu hne _)]
  apply scan_some
  rw [genericBlock_fence, hc]
  rfl

theorem Unfenced.suffix (hm : Unfenced m) (hu : u <:+ m) :
    ¬ fence <:+: u ∧ u.getLast? ≠ some '`' := by
  refine ⟨fun hi => hm.no_fence (hi.trans hu.isInfix), ?_⟩
  by_cases hne : u = []
  · rw [hne]
    simp
  · obtain ⟨x, rfl⟩ := hu
    have hl := hm.last
    rwa [List.getLast?_append_of_ne_nil _ hne] at hl

theorem dropWhile_fence {p : Char → Bool} (hp : p '`' = false) (u v : List Char) :
    (u ++ (fence ++ v)).dropWhile p = u.dropWhile p ++ (fence ++ v) := dropWhile_append_cons hp u _

theorem candidate_sql (w : WordClass) (h : scan sqlBlock raw = some block) :
    candidate w raw = block := by
  rw [candidate, h]

theorem candidate_generic (w : WordClass) (h : scan sqlBlock raw = none)
    (hg : scan (genericBlock w) raw = some block) : candidate w raw = block := by
  rw [candidate, h, hg]
  rfl

def fencedBody (sql : List Char) : List Char := '\n' :: (sql ++ ['\n'])

theorem stripChars_fencedBody (sql : List Char) :
    Text.stripChars (fencedBody sql) = Text.stripChars sql := by
  have hn : ∀ c ∈ ['\n'], Text.isSpace c = true := by
    intro c hc
    rw [List.mem_singleton.1 hc]
    rfl
  exact (Text.stripChars_blanks_append hn (sql ++ ['\n'])).trans
    (Text.stripChars_append_blanks hn sql)

theorem nonblanks_fencedBody (sql : List Char) :
    Text.nonblanks (fencedBody sql) = Text.nonblanks sql := by
  rw [← Text.nonblanks_stripChars, stripChars_fencedBody, Text.nonblanks_stripChars]

theorem unfenced_tagged (w : WordClass) (ht : ∀ c ∈ tag, w.isWord c = true)
    (hs : ¬ fence <:+: sql) : Unfenced (tag ++ fencedBody sql) where
  ne_nil := List.append_ne_nil_of_right_ne_nil _ (List.cons_ne_nil _ _)
  head := by
    cases tag with
    | nil => simp [fencedBody]
    | cons c tag =>
      intro hc
      have hw := ht c List.mem_cons_self
      rw [Option.some.inj hc, isWord_tick] at hw
      cases hw
  last := by
    rw [fencedBody, ← List.cons_append, ← List.append_assoc, List.getLast?_append]
    simp
  no_fence := by
    intro hi
    rcases infix_of_infix_append hi fun c hc => not_mem_fence (isWord_tick w) (ht c hc) with hn | hi
    · cases hn
    · rcases List.infix_cons_iff.1 hi with hp | hi
      · exact absurd (List.cons_prefix_cons.1 hp).1 (by decide)
      · rw [← fence_reverse, List.reverse_append] at hi
        rcases List.infix_cons_iff.1 hi with hp | hi
        · exact absurd (List.cons_prefix_cons.1 hp).1 (by decide)
        · exact hs (fence_reverse.1 hi)

theorem dropWhile_ticks {p : Char → Bool} (hp : p '`' = false) (k : Nat) (x : List Char) :
    (ticks (k + 1) ++ x).dropWhile p = ticks (k + 1) ++ x :=
  List.dropWhile_cons_of_neg (by rw [hp]; exact Bool.false_ne_true)

theorem exists_ticks_end (l : List Char) : ∃ p k, l = p ++ ticks k ∧ p.getLast? ≠ some '`' :=
  exists_trailing '`' l

theorem exists_closing (hq : ¬ fence <:+: after) (j : Nat) :
    ∃ l r, ticks j ++ (fence ++ after) = ticks (l + 1) ++ r ∧ ¬ fence <:+: r ∧
      r.head? ≠ some '`' := by
  obtain ⟨q, r, rfl, hr⟩ := exists_leading '`' after
  refine ⟨j + 2 + q, r, ?_, fun hi => hq (hi.trans (List.suffix_append _ _).isInfix), hr⟩
  have hf : fence = ticks 3 := rfl
  have hl : j + 2 + q + 1 = j + (3 + q) := by omega
  rw [hl, ticks_add, ticks_add, hf, List.append_assoc, List.append_assoc]

theorem candidate_run (w : WordClass) (hp : ¬ fence <:+: p) (hpl : p.getLast? ≠ some '`')
    (hm : Unfenced m) (hf : fits sqlTag m = false) (hq : ¬ fence <:+: after)
    (htail : tail = ticks j ++ (fence ++ after)) (n : Nat)
    (hc : cut fence (((ticks n ++ (m ++ tail)).dropWhile w.isWord).dropWhile Text.isSpace) =
      some (block, rest)) :
    candidate w (p ++ (fence ++ (ticks n ++ (m ++ tail)))) = block := by
  obtain ⟨l, r, hl, hrf, hr⟩ := exists_closing hq j
  apply candidate_generic w _ (scan_generic w hp hpl hc)
  have hrun : p ++ (fence ++ (ticks n ++ (m ++ tail))) =
      p ++ (ticks (n + 3) ++ (m ++ (ticks (l + 1) ++ r))) := by
    have hfence : fence = ticks 3 := rfl
    rw [htail, hl, ← ticks_fence, ticks_add n 3, hfence, List.append_assoc (ticks n)]
  rw [hrun]
  exact scan_sql_none hp hpl hm hf hrf hr (n + 3) l

/-- The tag of a fence is recognised whole: it is that of SQL, or it is no extension of it and the
prose before the fence adds no backtick. -/
def TagRead (before tag : List Char) : Prop :=
  if fits sqlTag tag then tag.length = 3 else before.getLast? ≠ some '`'

theorem nonblanks_ticks (k : Nat) : Text.nonblanks (ticks k) = k := by
  rw [Text.nonblanks_of_none, List.length_replicate]
  intro c hc
  rw [List.eq_of_mem_replicate hc]
  rfl

theorem getLast?_ticks (p : List Char) (k : Nat) :
    (p ++ ticks (k + 1)).getLast? = some '`' := by
  rw [ticks_add k 1, ← List.append_assoc]
  exact List.getLast?_concat

theorem tagged_iff (w : WordClass) (hp : ¬ fence <:+: before) (hs : ¬ fence <:+: sql)
    (hq : ¬ fence <:+: after) (ht : ∀ c ∈ tag, w.isWord c = true) :
    Text.stripChars (candidate w
        (before ++ (fence ++ ((tag ++ fencedBody sql) ++ (fence ++ after))))) =
        Text.stripChars sql ↔ TagRead before tag := by
  have hm := unfenced_tagged w ht hs
  obtain ⟨p, k, rfl, hpl⟩ := exists_ticks_end before
  have hpf : ¬ fence <:+: p := fun hi => hp (hi.trans (List.prefix_append _ _).isInfix)
  rw [TagRead, List.append_assoc p]
  by_cases hf : fits sqlTag tag = true
  · rw [if_pos hf]
    have h3 : 3 ≤ tag.length := fits_length hf
    obtain ⟨huf, hul⟩ := hm.suffix (((List.dropWhile_suffix Text.isSpace).trans
      (List.drop_suffix 3 (tag ++ fencedBody sql))))
    have hblock : cut fence ((((tag ++ fencedBody sql) ++ (fence ++ after)).drop 3).dropWhile
        Text.isSpace) = some (((tag ++ fencedBody sql).drop 3).dropWhile Text.isSpace, after) := by
      rw [List.drop_append_of_le_length (by rw [List.length_append]; omega), dropWhile_fence rfl]
      exact cut_fence huf hul after
    have hr := fits_append (fits_append hf (fencedBody sql)) (fence ++ after)
    rw [candidate_sql w (scan_sql hpf hpl hr hblock k), Text.stripChars_dropWhile,
      List.drop_append_of_le_length h3]
    constructor
    · intro h
      have hn := congrArg Text.nonblanks h
      have hd : ∀ c ∈ tag.drop 3, Text.isSpace c = false := by
        intro c hc
        by_contra hs
        have hw := ht c (List.mem_of_mem_drop hc)
        rw [w.space c (by simpa using hs)] at hw
        cases hw
      rw [Text.nonblanks_stripChars, Text.nonblanks_stripChars, Text.nonblanks_append,
        nonblanks_fencedBody, Text.nonblanks_of_none hd, List.length_drop] at hn
      omega
    · intro h
      rw [List.drop_of_length_le (Nat.le_of_eq h), List.nil_append, stripChars_fencedBody]
  · rw [if_neg hf]
    rw [Bool.not_eq_true] at hf
    have hfm : fits sqlTag (tag ++ fencedBody sql) = false := by
      rw [fencedBody, fits_stop (by decide), hf]
    have htail : fence ++ after = ticks 0 ++ (fence ++ after) := rfl
    cases k with
    | zero =>
      have hword : (((tag ++ fencedBody sql) ++ (fence ++ after)).dropWhile w.isWord).dropWhile
          Text.isSpace = (fencedBody sql).dropWhile Text.isSpace ++ (fence ++ after) := by
        have hn : w.isWord '\n' = false := w.space _ rfl
        rw [List.append_assoc, List.dropWhile_append_of_pos ht, fencedBody, List.cons_append,
          List.dropWhile_cons_of_neg (by rw [hn]; exact Bool.false_ne_true), ← List.cons_append,
          dropWhile_fence rfl]
      obtain ⟨huf, hul⟩ := hm.suffix ((List.dropWhile_suffix Text.isSpace).trans
        (List.suffix_append tag (fencedBody sql)))
      have hc := cut_fence huf hul after
      rw [← hword] at hc
      show Text.stripChars (candidate w (p ++ (fence ++ (ticks 0 ++ ((tag ++ fencedBody sql) ++
        (fence ++ after)))))) = Text.stripChars sql ↔ (p ++ []).getLast? ≠ some '`'
      rw [List.append_nil, candidate_run w hpf hpl hm hfm hq htail 0 hc,
        Text.stripChars_dropWhile, stripChars_fencedBody]
      exact iff_of_true rfl hpl
    | succ k =>
      have hk : k + 1 < 3 := ticks_lt fun hi => hp (hi.trans (List.suffix_append _ _).isInfix)
      have hc : cut fence (((ticks (k + 1) ++ ((tag ++ fencedBody sql) ++
          (fence ++ after))).dropWhile w.isWord).dropWhile Text.isSpace) =
          some (ticks (k + 1) ++ (tag ++ fencedBody sql), after) := by
        rw [dropWhile_ticks (isWord_tick w), dropWhile_ticks rfl, ← List.append_assoc]
        apply cut_fence (not_fence_ticks_append hk hm.no_fence hm.head)
        rw [List.getLast?_append_of_ne_nil _ hm.ne_nil]
        exact hm.last
      rw [ticks_fence, candidate_run w hpf hpl hm hfm hq htail (k + 1) hc]
      apply iff_of_false
      · intro h
        have hn := congrArg Text.nonblanks h
        rw [Text.nonblanks_stripChars, Text.nonblanks_stripChars, Text.nonblanks_append,
          Text.nonblanks_append, nonblanks_fencedBody, nonblanks_ticks] at hn
        omega
      · intro h
        exact h (getLast?_ticks p k)

def blankTicks (blanks : List Char) (k n : Nat) : List Char :=
  (List.replicate n (blanks ++ ticks k)).flatten

theorem blankTicks_succ (blanks : List Char) (k n : Nat) :
    blankTicks blanks k (n + 1) = blanks ++ (ticks k ++ blankTicks blanks k n) := by
  rw [blankTicks, List.replicate_succ, List.flatten_cons, List.append_assoc]
  rfl

theorem blankTicks_add (blanks : List Char) (k m n : Nat) :
    blankTicks blanks k (m + n) = blankTicks blanks k m ++ blankTicks blanks k n := by
  rw [blankTicks, ← List.replicate_append_replicate, List.flatten_append]
  rfl

theorem blankTicks_one (blanks : List Char) (k : Nat) :
    blankTicks blanks k 1 = blanks ++ ticks k := by
  rw [blankTicks_succ]
  exact congrArg (blanks ++ ·) (List.append_nil _)

theorem nil_of_ticks (hx : ∀ c ∈ x, Text.isSpace c = true) (h : ticks (i + 1) ++ u = x ++ v) :
    x = [] := by
  cases x with
  | nil => rfl
  | cons c x =>
    have hc := hx c List.mem_cons_self
    rw [← (List.cons.inj h).1] at hc
    cases hc

theorem nil_of_blank_last (hx : ∀ c ∈ x, Text.isSpace c = true)
    (hl : ∀ c, (u ++ x).getLast? = some c → Text.isSpace c = false) : x = [] := by
  by_contra hn
  have hs := hl (x.getLast hn) (by
    rw [List.getLast?_append_of_ne_nil _ hn, List.getLast?_eq_some_getLast hn])
  rw [hx _ (List.getLast_mem hn)] at hs
  cases hs

theorem not_blanks_of_ticks (hw : ∀ c ∈ w, Text.isSpace c = true) (hwn : w ≠ [])
    (h : u ++ (w ++ v) = ticks k) : False := by
  obtain ⟨c, hc⟩ := List.exists_mem_of_ne_nil w hwn
  have hct : c ∈ ticks k := by
    rw [← h]
    exact List.mem_append_right _ (List.mem_append_left _ hc)
  have hs := hw c hc
  rw [List.eq_of_mem_replicate hct] at hs
  cases hs

theorem eq_ticks_of_moves (hw : ∀ c ∈ w, Text.isSpace c = true) (hwn : w ≠ [])
    (hz : ∀ c ∈ z, Text.isSpace c = true) (hy : ∀ c, y.getLast? = some c → Text.isSpace c = false)
    (hp : y <+: ticks (k + 1) ++ w) (h : ticks (k + 1) ++ (w ++ y) = y ++ (z ++ ticks (k + 1))) :
    y = ticks (k + 1) ∧ w = z := by
  have hyt : y <+: ticks (k + 1) := by
    rcases List.prefix_or_prefix_of_prefix hp (List.prefix_append _ w) with hyt | ⟨v, rfl⟩
    · exact hyt
    · have hv : v <+: w := (List.prefix_append_right_inj _).1 hp
      rw [nil_of_blank_last (fun c hc => hw c (hv.subset hc)) hy, List.append_nil]
  obtain ⟨v, hv⟩ := hyt
  have hvt : v <:+ ticks (k + 1) := ⟨y, hv⟩
  rw [← hv, List.append_assoc, hv] at h
  have h' : v ++ (w ++ y) = z ++ ticks (k + 1) := List.append_cancel_left h
  obtain ⟨i, rfl⟩ := suffix_replicate hvt
  cases i with
  | zero =>
    have hyk : y = ticks (k + 1) := (List.append_nil y).symm.trans hv
    rw [hyk] at h'
    exact ⟨hyk, List.append_cancel_right h'⟩
  | succ i =>
    rw [nil_of_ticks hz h', List.nil_append] at h'
    exact (not_blanks_of_ticks hw hwn h').elim

theorem repeats_of_moves (hw : ∀ c ∈ w, Text.isSpace c = true) (hwn : w ≠ [])
    (hz : ∀ c ∈ z, Text.isSpace c = true) (y : List Char)
    (hy : ∀ c, y.getLast? = some c → Text.isSpace c = false)
    (h : ticks (k + 1) ++ (w ++ y) = y ++ (z ++ ticks (k + 1))) :
    ∃ n, w ++ (y ++ (z ++ ticks (k + 1))) = blankTicks w (k + 1) n := by
  have hle : y <+: ticks (k + 1) ++ (w ++ y) := h ▸ List.prefix_append y _
  have hle' : ticks (k + 1) ++ w <+: ticks (k + 1) ++ (w ++ y) := by
    rw [← List.append_assoc]
    exact List.prefix_append _ y
  rcases List.prefix_or_prefix_of_prefix hle hle' with hp | hp
  · obtain ⟨rfl, rfl⟩ := eq_ticks_of_moves hw hwn hz hy hp h
    exact ⟨2, by rw [blankTicks_succ, blankTicks_one]⟩
  · obtain ⟨y', rfl⟩ := hp
    have hy'n : y' ≠ [] := by
      rintro rfl
      rw [List.append_nil] at hy
      exact hwn (nil_of_blank_last hw hy)
    have hlen : y'.length < (ticks (k + 1) ++ w ++ y').length := by
      rw [List.length_append, List.length_append, List.length_replicate]
      omega
    have hy' (c : Char) (hc : y'.getLast? = some c) : Text.isSpace c = false := by
      apply hy
      rw [List.getLast?_append_of_ne_nil _ hy'n, hc]
    have h' : ticks (k + 1) ++ (w ++ y') = y' ++ (z ++ ticks (k + 1)) := by
      apply (List.append_right_inj (ticks (k + 1) ++ w)).1
      simpa only [List.append_assoc] using h
    obtain ⟨n, hn⟩ := repeats_of_moves hw hwn hz y' hy' h'
    refine ⟨n + 1, ?_⟩
    rw [blankTicks_succ, ← hn]
    simp only [List.append_assoc]
termination_by y.length

/-- What is read after a run of backticks, up to the fence in the backticks that end the text. -/
def runBlock (w : WordClass) (m : List Char) : Nat → List Char
  | 0 => (m.dropWhile w.isWord).dropWhile Text.isSpace
  | n + 1 => if n + 1 < 3 then ticks (n + 1) ++ m else []

theorem cut_runBlock (w : WordClass) (hm : Unfenced m) (n j : Nat) (after : List Char) :
    ∃ rest, cut fence (((ticks n ++ (m ++ (ticks j ++ (fence ++ after)))).dropWhile
      w.isWord).dropWhile Text.isSpace) = some (runBlock w m n, rest) := by
  rw [ticks_fence]
  cases n with
  | zero =>
    have hd : ((m ++ (fence ++ (ticks j ++ after))).dropWhile w.isWord).dropWhile Text.isSpace =
        (m.dropWhile w.isWord).dropWhile Text.isSpace ++ (fence ++ (ticks j ++ after)) := by
      rw [dropWhile_fence (isWord_tick w), dropWhile_fence rfl]
    obtain ⟨huf, hul⟩ := hm.suffix ((List.dropWhile_suffix Text.isSpace).trans
      (List.dropWhile_suffix (l := m) w.isWord))
    have hc := cut_fence huf hul (ticks j ++ after)
    rw [← hd] at hc
    exact ⟨_, hc⟩
  | succ n =>
    rw [dropWhile_ticks (isWord_tick w), dropWhile_ticks rfl, runBlock]
    by_cases hn : n + 1 < 3
    · rw [if_pos hn, ← List.append_assoc]
      refine ⟨_, cut_fence (not_fence_ticks_append hn hm.no_fence hm.head) ?_ _⟩
      rw [List.getLast?_append_of_ne_nil _ hm.ne_nil]
      exact hm.last
    · rw [if_neg hn]
      obtain ⟨i, hi⟩ := Nat.exists_eq_add_of_le (Nat.le_of_not_lt hn)
      rw [hi, ticks_add, List.append_assoc]
      exact ⟨_, cut_prefix fence _⟩

theorem candidate_core (w : WordClass) (hp : ¬ fence <:+: p) (hpl : p.getLast? ≠ some '`')
    (hm : Unfenced m) (hf : fits sqlTag m = false) (hq : ¬ fence <:+: after) (k i j : Nat) :
    candidate w ((p ++ ticks k) ++ (fence ++ ((ticks i ++ (m ++ ticks j)) ++ (fence ++ after)))) =
      runBlock w m (k + i) := by
  obtain ⟨rest, hc⟩ := cut_runBlock w hm (k + i) j after
  rw [← candidate_run w hp hpl hm hf hq rfl (k + i) hc, ticks_add k i]
  simp only [List.append_assoc]
  rw [ticks_fence]

theorem candidate_ticks (w : WordClass) (hp : ¬ fence <:+: p) (hpl : p.getLast? ≠ some '`')
    (hq : ¬ fence <:+: after) (k i : Nat) :
    candidate w ((p ++ ticks k) ++ (fence ++ (ticks i ++ (fence ++ after)))) = [] := by
  have hrun : (p ++ ticks k) ++ (fence ++ (ticks i ++ (fence ++ after))) =
      p ++ (fence ++ (ticks (k + i) ++ (fence ++ after))) := by
    rw [List.append_assoc, ticks_fence, ticks_add k i, List.append_assoc]
  rw [hrun]
  have hd : ((ticks (k + i) ++ (fence ++ after)).dropWhile w.isWord).dropWhile Text.isSpace =
      fence ++ (ticks (k + i) ++ after) := by
    rw [ticks_fence]
    exact (congrArg _ (dropWhile_ticks (isWord_tick w) 2 _)).trans (dropWhile_ticks rfl 2 _)
  have hc := cut_prefix fence (ticks (k + i) ++ after)
  rw [← hd] at hc
  apply candidate_generic w _ (scan_generic w hp hpl hc)
  apply scan_none
  intro z hz
  rcases suffix_append_cases hz with hz | ⟨u, hu, hne, rfl⟩
  · obtain ⟨l, r, hl, hrf, hr⟩ := exists_closing hq (k + i)
    have hz' : z <:+ ticks (3 + (l + 1)) ++ r := by
      rw [ticks_add, List.append_assoc, ← hl]
      exact hz
    exact sqlBlock_tail hrf hr hz'
  · exact if_neg (not_prefix_fence hp hpl hu hne _)

theorem isSpace_of_fits (hf : fits sqlTag (a :: l) = true) : Text.isSpace a = false := by
  rw [sqlTag, fits, Bool.and_eq_true, Bool.or_eq_true, Bool.or_eq_true, beq_iff_eq, beq_iff_eq,
    beq_iff_eq] at hf
  rcases hf.1 with (rfl | rfl) | rfl <;> decide

theorem nonblanks_drop_lt (hf : fits sqlTag l = true) :
    Text.nonblanks (l.drop 3) < Text.nonblanks l := by
  cases l with
  | nil => cases hf
  | cons a l =>
    have ha := isSpace_of_fits hf
    have hle : Text.nonblanks (l.drop 2) ≤ Text.nonblanks l := (List.drop_sublist 2 l).countP_le
    have hcons : Text.nonblanks (a :: l) = Text.nonblanks l + 1 :=
      List.countP_cons_of_pos (by rw [ha]; rfl)
    rw [hcons]
    exact Nat.lt_succ_of_le hle

theorem candidate_letters (w : WordClass) (hp : ¬ fence <:+: p) (hpl : p.getLast? ≠ some '`')
    (hf : fits sqlTag l = true) (k i : Nat) (after : List Char) :
    Text.nonblanks (candidate w ((p ++ ticks k) ++
      (fence ++ ((ticks i ++ l) ++ (fence ++ after))))) < Text.nonblanks l := by
  have hrun : (p ++ ticks k) ++ (fence ++ ((ticks i ++ l) ++ (fence ++ after))) =
      p ++ (ticks (k + i) ++ (fence ++ (l ++ (fence ++ after)))) := by
    rw [ticks_add k i]
    simp only [List.append_assoc]
    rw [← ticks_fence i]
  have hd : ((l ++ (fence ++ after)).drop 3).dropWhile Text.isSpace =
      (l.drop 3).dropWhile Text.isSpace ++ (fence ++ after) := by
    have h3 : 3 ≤ l.length := fits_length hf
    rw [List.drop_append_of_le_length h3, dropWhile_fence rfl]
  obtain ⟨a, rest, hc, ha⟩ := exists_cut fence ((l.drop 3).dropWhile Text.isSpace) after
  rw [← hd] at hc
  rw [hrun, candidate_sql w (scan_sql hp hpl (fits_append hf _) hc _)]
  apply Nat.lt_of_le_of_lt (Text.nonblanks_le ha)
  rw [Text.nonblanks_dropWhile]
  exact nonblanks_drop_lt hf

theorem trailing_unique (hu : u.getLast? ≠ some '`') (hv : v.getLast? ≠ some '`')
    (h : u ++ ticks a = v ++ ticks b) : u = v ∧ a = b := by
  have hd (x : List Char) (hx : x.getLast? ≠ some '`') (n : Nat) :
      (x ++ ticks n).rdropWhile (· == '`') = x := by
    rw [Text.rdropWhile_append_of_all, List.rdropWhile_eq_self_iff]
    · intro hne hl
      apply hx
      rw [List.getLast?_eq_some_getLast hne, beq_iff_eq.1 hl]
    · intro c hc
      rw [List.eq_of_mem_replicate hc]
      rfl
  have huv : u = v := by rw [← hd u hu a, h, hd v hv b]
  subst huv
  have hlen := congrArg List.length h
  simp only [List.length_append, List.length_replicate] at hlen
  exact ⟨rfl, by omega⟩

theorem strip_block_zero (w : WordClass) (m : List Char) (j : Nat) :
    Text.stripChars (runBlock w m 0) = Text.stripChars (m ++ ticks j) ↔
      j = 0 ∧ m.head?.any w.isWord = false := by
  rw [runBlock, Text.stripChars_dropWhile]
  constructor
  · intro h
    have hn := congrArg Text.nonblanks h
    rw [Text.nonblanks_stripChars, Text.nonblanks_stripChars, Text.nonblanks_append,
      nonblanks_ticks] at hn
    have hle : Text.nonblanks (m.dropWhile w.isWord) ≤ Text.nonblanks m :=
      (List.dropWhile_sublist _).countP_le
    refine ⟨by omega, ?_⟩
    cases m with
    | nil => rfl
    | cons c m =>
      by_contra hc
      have hw : w.isWord c = true := by simpa using hc
      have hs : Text.isSpace c = false := by
        by_contra hs
        rw [w.space c (by simpa using hs)] at hw
        cases hw
      have hle' : Text.nonblanks (m.dropWhile w.isWord) ≤ Text.nonblanks m :=
        (List.dropWhile_sublist _).countP_le
      have hcons : Text.nonblanks (c :: m) = Text.nonblanks m + 1 :=
        List.countP_cons_of_pos (by rw [hs]; rfl)
      rw [List.dropWhile_cons_of_pos hw] at hn
      omega
  · rintro ⟨rfl, hh⟩
    have hd : m.dropWhile w.isWord = m := by
      cases m with
      | nil => rfl
      | cons c m => exact List.dropWhile_cons_of_neg (by simpa using hh)
    rw [hd]
    exact congrArg _ (List.append_nil m).symm

theorem strip_ticks_append (k : Nat) (x : List Char) :
    Text.stripChars (ticks (k + 1) ++ x) = ticks (k + 1) ++ x.rdropWhile Text.isSpace := by
  rw [Text.stripChars, dropWhile_ticks rfl]
  by_cases hx : ∃ c ∈ x, Text.isSpace c = false
  · exact Text.rdropWhile_append hx
  · have hall : ∀ c ∈ x, Text.isSpace c = true := by simpa using hx
    have hn : x.rdropWhile Text.isSpace = [] := List.rdropWhile_eq_nil_iff.2 hall
    rw [Text.rdropWhile_append_of_all hall, hn, List.append_nil, List.rdropWhile_eq_self_iff]
    intro hne hs
    rw [List.eq_of_mem_replicate (List.getLast_mem hne)] at hs
    cases hs

theorem strip_append_ticks (k : Nat) (x : List Char) :
    Text.stripChars (x ++ ticks (k + 1)) = x.dropWhile Text.isSpace ++ ticks (k + 1) := by
  have hd : (x ++ ticks (k + 1)).dropWhile Text.isSpace =
      x.dropWhile Text.isSpace ++ ticks (k + 1) := dropWhile_append_cons rfl x (ticks k)
  rw [Text.stripChars, hd, List.rdropWhile_eq_self_iff]
  intro hne hs
  have hl := List.getLast?_eq_some_getLast hne
  rw [getLast?_ticks] at hl
  rw [← Option.some.inj hl] at hs
  cases hs

theorem repeats_of_strip (hm : Unfenced m)
    (h : ticks (k + 1) ++ m.rdropWhile Text.isSpace = m.dropWhile Text.isSpace ++ ticks (k + 1)) :
    ∃ blanks n, (∀ c ∈ blanks, Text.isSpace c = true) ∧ blanks ≠ [] ∧
      m ++ ticks (k + 1) = blankTicks blanks (k + 1) (n + 1) := by
  have hsplit := List.takeWhile_append_dropWhile (p := Text.isSpace) (l := m)
  have hw : ∀ c ∈ m.takeWhile Text.isSpace, Text.isSpace c = true :=
    fun c hc => List.mem_takeWhile_imp hc
  by_cases hy : m.dropWhile Text.isSpace = []
  · rw [hy, List.append_nil] at hsplit
    rw [hsplit] at hw
    exact ⟨m, 0, hw, hm.ne_nil, (blankTicks_one m (k + 1)).symm⟩
  · generalize m.takeWhile Text.isSpace = w at hsplit hw
    generalize hyd : m.dropWhile Text.isSpace = y at hsplit hy h
    have hns : ∃ c ∈ y, Text.isSpace c = false := by
      subst hyd
      exact ⟨_, List.head_mem hy, List.head_dropWhile_not Text.isSpace hy⟩
    subst hsplit
    rw [Text.rdropWhile_append hns] at h
    have hwn : w ≠ [] := by
      rintro rfl
      have hh := congrArg List.head? h
      rw [List.head?_append_of_ne_nil _ hy] at hh
      exact hm.head hh.symm
    have hz : ∀ c ∈ y.rtakeWhile Text.isSpace, Text.isSpace c = true :=
      fun c hc => List.mem_rtakeWhile_imp hc
    have hl (c : Char) (hc : (y.rdropWhile Text.isSpace).getLast? = some c) :
        Text.isSpace c = false := by
      have hne : y.rdropWhile Text.isSpace ≠ [] := by
        intro hn
        rw [hn] at hc
        cases hc
      rw [List.getLast?_eq_some_getLast hne] at hc
      rw [← Option.some.inj hc]
      simpa using List.rdropWhile_last_not Text.isSpace y hne
    have hyz := List.rdropWhile_append_rtakeWhile (p := Text.isSpace) (l := y)
    have hmove : ticks (k + 1) ++ (w ++ y.rdropWhile Text.isSpace) =
        y.rdropWhile Text.isSpace ++ (y.rtakeWhile Text.isSpace ++ ticks (k + 1)) := by
      rw [← List.append_assoc (y.rdropWhile _), hyz]
      exact h
    obtain ⟨n, hn⟩ := repeats_of_moves hw hwn hz _ hl hmove
    rw [← List.append_assoc (y.rdropWhile _), hyz, ← List.append_assoc] at hn
    cases n with
    | zero =>
      have hnil := (List.append_eq_nil_iff.1 hn).2
      cases hnil
    | succ n => exact ⟨w, n, hw, hwn, hn⟩

/-- Backticks of the prose are part of the block, and it strips to the text only where the text
repeats them behind blanks. -/
theorem strip_block_succ (hm : Unfenced m) (k i j : Nat) :
    Text.stripChars (ticks (k + 1 + i) ++ m) = Text.stripChars (ticks i ++ (m ++ ticks j)) ↔
      i = 0 ∧ ∃ blanks n, (∀ c ∈ blanks, Text.isSpace c = true) ∧ blanks ≠ [] ∧
        m ++ ticks j = blankTicks blanks (k + 1) (n + 1) := by
  constructor
  · intro h
    have hj : j = k + 1 := by
      have hn := congrArg Text.nonblanks h
      simp only [Text.nonblanks_stripChars, Text.nonblanks_append, nonblanks_ticks] at hn
      omega
    subst hj
    cases i with
    | succ i =>
      have hl : Text.stripChars (ticks (k + 1 + (i + 1)) ++ m) =
          ticks (i + 1) ++ (ticks (k + 1) ++ m.rdropWhile Text.isSpace) := by
        rw [← List.append_assoc, ← ticks_add, Nat.add_comm (i + 1)]
        exact strip_ticks_append (k + 1 + i) m
      have hr : Text.stripChars (ticks (i + 1) ++ (m ++ ticks (k + 1))) =
          ticks (i + 1) ++ (m ++ ticks (k + 1)) := by
        rw [← List.append_assoc, strip_append_ticks, dropWhile_ticks rfl]
      rw [hl, hr] at h
      have hm' := congrArg List.head? (List.append_cancel_left h)
      rw [List.head?_append_of_ne_nil _ hm.ne_nil] at hm'
      exact absurd hm'.symm hm.head
    | zero =>
      refine ⟨rfl, ?_⟩
      have h' : ticks (k + 1) ++ m.rdropWhile Text.isSpace =
          m.dropWhile Text.isSpace ++ ticks (k + 1) := by
        rw [← strip_ticks_append, ← strip_append_ticks]
        exact h
      exact repeats_of_strip hm h'
  · rintro ⟨rfl, blanks, n, hb, hbn, he⟩
    have hlast : (blankTicks blanks (k + 1) n ++ blanks).getLast? ≠ some '`' := by
      rw [List.getLast?_append_of_ne_nil _ hbn, List.getLast?_eq_some_getLast hbn]
      intro hl
      have hs := hb _ (List.getLast_mem hbn)
      rw [Option.some.inj hl] at hs
      cases hs
    have he' : m ++ ticks j = (blankTicks blanks (k + 1) n ++ blanks) ++ ticks (k + 1) := by
      rw [he, blankTicks_add, blankTicks_one, List.append_assoc]
    obtain ⟨hmb, _⟩ := trailing_unique hm.last hlast he'
    have hs : Text.stripChars (m ++ ticks j) =
        Text.stripChars (ticks (k + 1) ++ blankTicks blanks (k + 1) n) := by
      rw [he, blankTicks_succ]
      exact Text.stripChars_blanks_append hb _
    show Text.stripChars (ticks (k + 1) ++ m) = Text.stripChars (m ++ ticks j)
    rw [hs, hmb, ← List.append_assoc]
    exact Text.stripChars_append_blanks hb _

/-- An untagged fence on one line is read whole: no backtick touches it, and the SQL begins with no
word that could be a tag. -/
def OneLineRead (w : WordClass) (before sql : List Char) : Prop :=
  before.getLast? ≠ some '`' ∧ sql.getLast? ≠ some '`' ∧ sql.head?.any w.isWord = false ∧
    fits sqlTag (sql.dropWhile (· == '`')) = false

/-- The SQL is nothing but blanks, each followed by as many backticks as end the prose: the block
that begins in the prose and ends before the last backticks then strips to the same text. -/
def Coincides (before sql : List Char) : Prop :=
  ∃ p k blanks n, before = p ++ ticks (k + 1) ∧ p.getLast? ≠ some '`' ∧
    (∀ c ∈ blanks, Text.isSpace c = true) ∧ blanks ≠ [] ∧ sql = blankTicks blanks (k + 1) (n + 1)

theorem getLast?_append_ticks (hl : x.getLast? ≠ some '`') (j : Nat) :
    (x ++ ticks j).getLast? ≠ some '`' ↔ j = 0 := by
  cases j with
  | zero =>
    rw [show ticks 0 = [] from rfl, List.append_nil]
    exact iff_of_true hl rfl
  | succ j =>
    rw [getLast?_ticks]
    exact iff_of_false (fun h => h rfl) (Nat.succ_ne_zero j)

theorem coincides_iff (hpl : p.getLast? ≠ some '`') (k : Nat) (sql : List Char) :
    Coincides (p ++ ticks k) sql ↔ ∃ i, k = i + 1 ∧ ∃ blanks n,
      (∀ c ∈ blanks, Text.isSpace c = true) ∧ blanks ≠ [] ∧
        sql = blankTicks blanks (i + 1) (n + 1) := by
  constructor
  · rintro ⟨p', i, blanks, n, hp, hpl', hb, hbn, hs⟩
    obtain ⟨_, rfl⟩ := trailing_unique hpl hpl' hp
    exact ⟨i, rfl, blanks, n, hb, hbn, hs⟩
  · rintro ⟨i, rfl, blanks, n, hb, hbn, hs⟩
    exact ⟨p, i, blanks, n, rfl, hpl, hb, hbn, hs⟩

theorem head?_blankTicks (hb : ∀ c ∈ blanks, Text.isSpace c = true) (hbn : blanks ≠ []) :
    ∃ c, (blankTicks blanks k (n + 1)).head? = some c ∧ Text.isSpace c = true := by
  rw [blankTicks_succ, List.head?_append_of_ne_nil _ hbn, List.head?_eq_some_head hbn]
  exact ⟨_, rfl, hb _ (List.head_mem hbn)⟩

theorem blank_of_coincides (h : Coincides before sql) :
    ∃ c, sql.head? = some c ∧ Text.isSpace c = true := by
  obtain ⟨_, _, _, _, _, _, hb, hbn, rfl⟩ := h
  exact head?_blankTicks hb hbn

theorem not_coincides_ticks (i : Nat) (x before : List Char) :
    ¬ Coincides before (ticks (i + 1) ++ x) := by
  intro h
  obtain ⟨c, hc, hs⟩ := blank_of_coincides h
  rw [← Option.some.inj hc] at hs
  cases hs

theorem dropWhile_ticks_core (hm : Unfenced m) (i j : Nat) :
    (ticks i ++ (m ++ ticks j)).dropWhile (· == '`') = m ++ ticks j := by
  rw [List.dropWhile_append_of_pos]
  · obtain ⟨c, m, rfl⟩ := List.exists_cons_of_ne_nil hm.ne_nil
    apply List.dropWhile_cons_of_neg
    simpa using hm.head
  · intro c hc
    rw [List.eq_of_mem_replicate hc]
    rfl

theorem fits_core (m : List Char) (j : Nat) : fits sqlTag (m ++ ticks j) = fits sqlTag m := by
  cases j with
  | zero => rw [show ticks 0 = [] from rfl, List.append_nil]
  | succ j => exact fits_unfenced m (ticks j)

theorem exists_ticks_core (hs : ¬ fence <:+: sql) :
    (∃ i, sql = ticks i) ∨ ∃ i m j, sql = ticks i ++ (m ++ ticks j) ∧ Unfenced m := by
  rcases exists_core '`' sql with ⟨i, rfl⟩ | ⟨i, m, j, rfl, hmn, hmh, hml⟩
  · exact .inl ⟨i, rfl⟩
  · refine .inr ⟨i, m, j, rfl, hmn, hmh, hml, fun hi => hs (hi.trans ?_)⟩
    exact (List.prefix_append _ _).isInfix.trans (List.suffix_append _ _).isInfix

theorem oneLineRead_core (w : WordClass) (hpl : p.getLast? ≠ some '`') (hm : Unfenced m)
    (k i j : Nat) : OneLineRead w (p ++ ticks k) (ticks i ++ (m ++ ticks j)) ↔
      k = 0 ∧ j = 0 ∧ (i = 0 → m.head?.any w.isWord = false) ∧ fits sqlTag m = false := by
  have hl : (ticks i ++ m).getLast? ≠ some '`' := by
    rw [List.getLast?_append_of_ne_nil _ hm.ne_nil]
    exact hm.last
  have hh : (ticks i ++ (m ++ ticks j)).head?.any w.isWord = false ↔
      (i = 0 → m.head?.any w.isWord = false) := by
    cases i with
    | zero =>
      show (m ++ ticks j).head?.any w.isWord = false ↔ _
      rw [List.head?_append_of_ne_nil _ hm.ne_nil]
      exact ⟨fun h _ => h, fun h => h rfl⟩
    | succ i => exact iff_of_true (isWord_tick w) fun h => absurd h (Nat.succ_ne_zero i)
  rw [OneLineRead, getLast?_append_ticks hpl, hh, dropWhile_ticks_core hm, fits_core,
    ← List.append_assoc, getLast?_append_ticks hl]

theorem strip_ne (h : Text.nonblanks u ≠ Text.nonblanks v) :
    Text.stripChars u ≠ Text.stripChars v := by
  intro he
  have hn := congrArg Text.nonblanks he
  rw [Text.nonblanks_stripChars, Text.nonblanks_stripChars] at hn
  exact h hn

theorem oneLine_core_iff (w : WordClass) (hp : ¬ fence <:+: p) (hpl : p.getLast? ≠ some '`')
    (hk : k < 3) (hm : Unfenced m) (hi : i < 3) (hq : ¬ fence <:+: after) (j : Nat) :
    Text.stripChars (candidate w ((p ++ ticks k) ++ (fence ++ ((ticks i ++ (m ++ ticks j)) ++
        (fence ++ after))))) = Text.stripChars (ticks i ++ (m ++ ticks j)) ↔
      OneLineRead w (p ++ ticks k) (ticks i ++ (m ++ ticks j)) ∨
        Coincides (p ++ ticks k) (ticks i ++ (m ++ ticks j)) := by
  rw [oneLineRead_core w hpl hm]
  by_cases hf : fits sqlTag m = true
  · have hfm : fits sqlTag (m ++ ticks j) = true := (fits_core m j).trans hf
    have hlt := candidate_letters w hp hpl hfm k i after
    apply iff_of_false
    · apply strip_ne
      rw [Text.nonblanks_append (ticks i)]
      omega
    · rintro (h | h)
      · rw [hf] at h
        cases h.2.2.2
      · cases i with
        | zero =>
          obtain ⟨c, hc, hs⟩ := blank_of_coincides h
          obtain ⟨l, hl⟩ := List.head?_eq_some_iff.1 hc
          have hfc : fits sqlTag (c :: l) = true := by
            rw [← hl]
            exact hfm
          rw [isSpace_of_fits hfc] at hs
          cases hs
        | succ i => exact not_coincides_ticks i _ _ h
  · rw [Bool.not_eq_true] at hf
    rw [candidate_core w hp hpl hm hf hq]
    cases k with
    | zero =>
      have hc : ¬ Coincides (p ++ ticks 0) (ticks i ++ (m ++ ticks j)) := by
        rw [coincides_iff hpl]
        rintro ⟨n, hn, _⟩
        cases hn
      rw [or_iff_left hc, Nat.zero_add]
      cases i with
      | zero =>
        show Text.stripChars (runBlock w m 0) = Text.stripChars (m ++ ticks j) ↔ _
        rw [strip_block_zero]
        exact ⟨fun h => ⟨rfl, h.1, fun _ => h.2, hf⟩, fun h => ⟨h.2.1, h.2.2.1 rfl⟩⟩
      | succ i =>
        rw [runBlock, if_pos hi]
        constructor
        · intro h
          refine ⟨rfl, ?_, fun h => absurd h (Nat.succ_ne_zero i), hf⟩
          have hn := congrArg Text.nonblanks h
          simp only [Text.nonblanks_stripChars, Text.nonblanks_append, nonblanks_ticks] at hn
          omega
        · rintro ⟨_, rfl, _⟩
          rw [show ticks 0 = [] from rfl, List.append_nil]
    | succ k =>
      have ho : ¬ (k + 1 = 0 ∧ j = 0 ∧ (i = 0 → m.head?.any w.isWord = false) ∧
          fits sqlTag m = false) := fun h => Nat.succ_ne_zero k h.1
      rw [or_iff_right ho]
      have hki : k + 1 + i = (k + i) + 1 := by omega
      rw [hki, runBlock, ← hki]
      cases i with
      | zero =>
        rw [if_pos hk, strip_block_succ hm, coincides_iff hpl]
        constructor
        · rintro ⟨_, h⟩
          exact ⟨k, rfl, h⟩
        · rintro ⟨_, hn, h⟩
          cases hn
          exact ⟨rfl, h⟩
      | succ i =>
        apply iff_of_false _ (not_coincides_ticks i _ _)
        by_cases hn : k + 1 + (i + 1) < 3
        · rw [if_pos hn, strip_block_succ hm]
          exact fun h => Nat.succ_ne_zero i h.1
        · rw [if_neg hn]
          apply strip_ne
          rw [Text.nonblanks_append, nonblanks_ticks]
          show 0 ≠ _
          omega

theorem oneLine_iff (w : WordClass) (hp : ¬ fence <:+: before) (hs : ¬ fence <:+: sql)
    (hq : ¬ fence <:+: after) (hne : Text.stripChars sql ≠ []) :
    Text.stripChars (candidate w (before ++ (fence ++ (sql ++ (fence ++ after))))) =
        Text.stripChars sql ↔ OneLineRead w before sql ∨ Coincides before sql := by
  obtain ⟨p, k, rfl, hpl⟩ := exists_ticks_end before
  have hpf : ¬ fence <:+: p := fun hi => hp (hi.trans (List.prefix_append _ _).isInfix)
  have hk : k < 3 := ticks_lt fun hi => hp (hi.trans (List.suffix_append _ _).isInfix)
  rcases exists_ticks_core hs with ⟨i, rfl⟩ | ⟨i, m, j, rfl, hm⟩
  · rw [candidate_ticks w hpf hpl hq]
    cases i with
    | zero => exact absurd rfl hne
    | succ i =>
      apply iff_of_false
      · apply strip_ne
        rw [nonblanks_ticks]
        exact (Nat.succ_ne_zero i).symm
      · rintro (h | h)
        · exact h.2.1 (getLast?_ticks [] i)
        · rw [← List.append_nil (ticks (i + 1))] at h
          exact not_coincides_ticks i [] _ h
  · have hi : i < 3 := ticks_lt fun hi => hs (hi.trans (List.prefix_append _ _).isInfix)
    exact oneLine_core_iff w hpf hpl hk hm hi hq j

/-- Exactly when a fenced text comes back: under any tag, and untagged on one line. -/
theorem extract_fenced_iff (w : WordClass) {before sql after : String}
    (hb : ¬ Lines.Contains before "```") (hs : ¬ Lines.Contains sql "```")
    (ha : ¬ Lines.Contains after "```") (hne : Text.strip sql ≠ "") :
    (∀ tag : String, (∀ c ∈ tag.toList, w.isWord c = true) →
      ((extract w (before ++ "```" ++ tag ++ "\n" ++ sql ++ "\n```" ++ after)).map
          ExtractionResult.sql = .ok (Text.strip sql) ↔ TagRead before.toList tag.toList)) ∧
    ((extract w (before ++ "```" ++ sql ++ "```" ++ after)).map ExtractionResult.sql =
        .ok (Text.strip sql) ↔
      OneLineRead w before.toList sql.toList ∨ Coincides before.toList sql.toList) := by
  have hfence : "```".toList = fence := rfl
  rw [Lines.Contains, hfence] at hb hs ha
  apply And.intro
  · intro tag ht
    rw [extract_sql_iff w hne, ← tagged_iff w hb hs ha ht]
    have hraw : (before ++ "```" ++ tag ++ "\n" ++ sql ++ "\n```" ++ after).toList =
        before.toList ++ (fence ++ ((tag.toList ++ fencedBody sql.toList) ++
          (fence ++ after.toList))) := by
      have hn : "\n".toList = ['\n'] := rfl
      have hnf : "\n```".toList = '\n' :: fence := rfl
      simp only [String.toList_append, hfence, hn, hnf, fencedBody, List.append_assoc,
        List.cons_append, List.nil_append]
    rw [hraw]
  · have hne' : Text.stripChars sql.toList ≠ [] := by
      intro h
      apply hne
      rw [Text.strip, h]
    rw [extract_sql_iff w hne, ← oneLine_iff w hb hs ha hne']
    have hraw : (before ++ "```" ++ sql ++ "```" ++ after).toList =
        before.toList ++ (fence ++ (sql.toList ++ (fence ++ after.toList))) := by
      simp only [String.toList_append, hfence, List.append_assoc]
    rw [hraw]

theorem extract_fenced_select :
    (∀ tag : String, (∀ c ∈ tag.toList, asciiWord.isWord c = true) →
      ((extract asciiWord ("As asked: " ++ "```" ++ tag ++ "\n" ++ "SELECT 1;" ++ "\n```" ++
          "Done.")).map ExtractionResult.sql = .ok (Text.strip "SELECT 1;") ↔
        TagRead "As asked: ".toList tag.toList)) ∧
    ((extract asciiWord ("As asked: " ++ "```" ++ "SELECT 1;" ++ "```" ++ "Done.")).map
        ExtractionResult.sql = .ok (Text.strip "SELECT 1;") ↔
      OneLineRead asciiWord "As asked: ".toList "SELECT 1;".toList ∨
        Coincides "As asked: ".toList "SELECT 1;".toList) :=
  extract_fenced_iff asciiWord (by decide +kernel) (by decide +kernel) (by decide +kernel)
    (by decide +kernel)

/-- The tag of another dialect, a backtick that ends the prose and the first word of an untagged
line all end up on the wrong side. -/
theorem extract_misreads :
    (extract asciiWord "```sqlite\nSELECT 1;\n```").map ExtractionResult.sql =
        .ok "ite\nSELECT 1;" ∧
      (extract asciiWord "as `a````\nSELECT 1;\n```").map ExtractionResult.sql =
        .ok "`\nSELECT 1;" ∧
      (extract asciiWord "```SELECT 1;```").map ExtractionResult.sql = .ok "1;" ∧
      Text.strip "SELECT 1;" = "SELECT 1;" := by decide +kernel

end QueryMind.Sql
