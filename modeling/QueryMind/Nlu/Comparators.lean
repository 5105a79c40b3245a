import QueryMind.Lib.Words
import QueryMind.Nlu.Filters

namespace QueryMind.Nlu
open Lib Lib.Pattern
set_option autoImplicit true

def IsWord (t : List Char) : Prop := t ≠ [] ∧ ∀ c ∈ t, isLower c = true

theorem isWord_iff (t : List Char) : (!t.isEmpty && t.all isLower) = true ↔ IsWord t := by
  rw [Bool.and_eq_true, Bool.not_eq_true', List.isEmpty_eq_false_iff, List.all_eq_true]
  exact Iff.rfl

instance (t : List Char) : Decidable (IsWord t) := decidable_of_iff _ (isWord_iff t)

/-- What `_NUMBER` matches, where it ends in a digit. -/
def IsNumber (w : DigitClass) (v : List Char) : Prop :=
  ∃ sign d ds frac, v = sign ++ (d :: (ds ++ frac)) ∧ (sign = [] ∨ sign = ['$']) ∧
    w.isDigit d = true ∧ (∀ c ∈ ds, (w.isDigit c || c == ',') = true) ∧
    (frac = [] ∨ ∃ fs, frac = '.' :: fs ∧ fs ≠ [] ∧ ∀ c ∈ fs, w.isDigit c = true) ∧
    v.getLast?.any w.isDigit = true

def Readable (w : DigitClass) (t : List Char) : Prop := IsWord t ∨ IsNumber w t

theorem isDigit_of_lower (w : DigitClass) (h : isLower c = true) : w.isDigit c = false := by
  have hz : c ≤ 'z' := of_decide_eq_true (Bool.and_eq_true_iff.1 h).2
  have ha : 'a' ≤ c := of_decide_eq_true (Bool.and_eq_true_iff.1 h).1
  have hn : c.toNat ≤ 'z'.toNat := hz
  have hm : 'a'.toNat ≤ c.toNat := ha
  have h122 : 'z'.toNat = 122 := rfl
  have h97 : 'a'.toNat = 97 := rfl
  have hd : ¬ c.isDigit = true := by
    intro hd
    have hrange := Text.isDigit_range hd
    omega
  rw [DigitClass.isDigit, w.ascii_digit c (by omega), if_neg hd]
  rfl

theorem isLower_of_digit (w : DigitClass) (h : w.isDigit c = true) : isLower c = false := by
  rw [← Bool.not_eq_true]
  intro hl
  rw [isDigit_of_lower w hl] at h
  cases h

theorem isSpace_of_digit (w : DigitClass) (h : w.isDigit c = true) : Text.isSpace c = false := by
  rw [← Bool.not_eq_true]
  intro hs
  rw [w.isDigit_of_space hs] at h
  cases h

theorem IsNumber.mem (h : IsNumber w v) (hc : c ∈ v) :
    w.isDigit c = true ∨ c = '$' ∨ c = ',' ∨ c = '.' := by
  obtain ⟨sign, d, ds, frac, rfl, hsign, hd, hds, hfrac, -⟩ := h
  rcases List.mem_append.1 hc with hc | hc
  · rcases hsign with rfl | rfl
    · cases hc
    · exact .inr (.inl (List.mem_singleton.1 hc))
  · rcases List.mem_cons.1 hc with rfl | hc
    · exact .inl hd
    · rcases List.mem_append.1 hc with hc | hc
      · rcases Bool.or_eq_true_iff.1 (hds c hc) with h | h
        · exact .inl h
        · exact .inr (.inr (.inl (beq_iff_eq.1 h)))
      · rcases hfrac with rfl | ⟨fs, rfl, -, hfs⟩
        · cases hc
        · rcases List.mem_cons.1 hc with rfl | hc
          · exact .inr (.inr (.inr rfl))
          · exact .inl (hfs c hc)

theorem IsNumber.not_lower (h : IsNumber w v) (hc : c ∈ v) : isLower c = false := by
  rcases h.mem hc with hd | rfl | rfl | rfl
  · exact isLower_of_digit w hd
  · rfl
  · rfl
  · rfl

theorem IsNumber.ne_nil (h : IsNumber w v) : v ≠ [] := by
  obtain ⟨sign, d, ds, frac, rfl, -⟩ := h
  rintro he
  cases (List.append_eq_nil_iff.1 he).2

theorem IsNumber.not_word (h : IsNumber w v) : ¬ IsWord v := by
  rintro ⟨-, hl⟩
  obtain ⟨c, v, rfl⟩ := List.exists_cons_of_ne_nil h.ne_nil
  have hc := h.not_lower (c := c) List.mem_cons_self
  rw [hl c List.mem_cons_self] at hc
  cases hc

theorem IsWord.token (h : IsWord t) : IsToken t :=
  ⟨h.1, fun c hc => isSpace_of_isLower (h.2 c hc)⟩

theorem IsNumber.token (h : IsNumber w v) : IsToken v := by
  refine ⟨h.ne_nil, fun c hc => ?_⟩
  rcases h.mem hc with hd | rfl | rfl | rfl
  · exact isSpace_of_digit w hd
  · rfl
  · rfl
  · rfl

theorem Readable.token (h : Readable w t) : IsToken t := h.elim IsWord.token IsNumber.token

theorem Readable.head_lower (h : Readable w t) (v : List Char) :
    (t ++ v).head?.any isLower = decide (IsWord t) := by
  rcases h with h | h
  · obtain ⟨c, t, rfl⟩ := List.exists_cons_of_ne_nil h.1
    rw [decide_eq_true h]
    exact h.2 c List.mem_cons_self
  · obtain ⟨c, t, rfl⟩ := List.exists_cons_of_ne_nil h.ne_nil
    rw [decide_eq_false h.not_word]
    exact h.not_lower List.mem_cons_self

theorem lowerWord_eq : lowerWord = run isLower := rfl

theorem head_spaced_lower (us : List (List Char)) : (spaced us).head?.any isLower = false :=
  head_spaced rfl us

/-- The words that some tokens begin with, up to a number of them. -/
def leading : Nat → List (List Char) → List (List Char)
  | 0, _ => []
  | _ + 1, [] => []
  | n + 1, u :: us => if IsWord u then u :: leading n us else []

theorem leading_append (n : Nat) (us : List (List Char)) :
    leading n us ++ us.drop (leading n us).length = us := by
  induction us generalizing n with
  | nil => cases n <;> rfl
  | cons u us ih =>
    cases n with
    | zero => rfl
    | succ n =>
      rw [leading]
      split
      · rw [List.length_cons, List.drop_succ_cons, List.cons_append, ih]
      · rfl

def Total (f : Pattern β) : Prop := ∀ c, (first f c).isSome = true

theorem first_nextWord {f : Unit → Pattern β} (hu : IsWord u)
    (h : first (f ()) ⟨u.reverse ++ (' ' :: behind), spaced us⟩ = some r) :
    first (nextWord >>= f) ⟨behind, spaced (u :: us)⟩ = some r := by
  simp only [nextWord, spacedWord, bind_assoc, pure_then]
  rw [spaced_cons, first_satisfy_bind, if_pos (by rfl), lowerWord_eq]
  exact first_run hu.1 hu.2 (head_spaced_lower us) h

theorem first_no_nextWord (f : Unit → Pattern β) (hu : Readable w u) (hn : ¬ IsWord u) :
    first (nextWord >>= f) ⟨behind, spaced (u :: us)⟩ = none := by
  simp only [nextWord, spacedWord, bind_assoc, pure_then]
  rw [spaced_cons, first_satisfy_bind, if_pos (by rfl), lowerWord_eq]
  apply first_run_none
  rw [hu.head_lower, decide_eq_false hn]

theorem first_moreWords {f : Unit → Pattern β} (hf : Total (f ())) (n : Nat)
    (us : List (List Char)) (hus : ∀ u ∈ us, Readable w u) :
    first (upTo n nextWord >>= f) ⟨behind, spaced us⟩ =
      first (f ()) ⟨(spaced (leading n us)).reverse ++ behind,
        spaced (us.drop (leading n us).length)⟩ := by
  induction n generalizing us behind with
  | zero => exact first_upTo_zero _ f _
  | succ n ih =>
    rw [first_upTo_succ]
    cases us with
    | nil => rfl
    | cons u us =>
      obtain ⟨hu, hus⟩ := List.forall_mem_cons.1 hus
      rw [leading]
      by_cases hw : IsWord u
      · rw [if_pos hw]
        obtain ⟨r, hr⟩ := Option.isSome_iff_exists.1
          (hf ⟨(spaced (leading n us)).reverse ++ (u.reverse ++ (' ' :: behind)),
            spaced (us.drop (leading n us).length)⟩)
        have hnext : first (upTo n nextWord >>= f)
            ⟨u.reverse ++ (' ' :: behind), spaced us⟩ = some r := (ih us hus).trans hr
        rw [first_nextWord (f := fun _ => upTo n nextWord >>= f) hw hnext, Option.some_or,
          spaced_cons, List.length_cons, List.drop_succ_cons, List.reverse_cons,
          List.reverse_append, List.append_assoc, List.append_assoc]
        exact hr.symm
      · rw [if_neg hw, first_no_nextWord _ hu hw]
        rfl

def valueTokens (kind : ValueKind) : List (List Char) → Option (List (List Char))
  | [] => none
  | u :: us =>
    if IsWord u then if kind = .number then none else some (u :: leading 3 us)
    else if kind = .words then none else some [u]

theorem first_filterWords {f : Unit → Pattern β} (hf : Total (f ())) (hu : IsWord u)
    (hus : ∀ u ∈ us, Readable w u) :
    first (filterWords >>= f) ⟨behind, u ++ spaced us⟩ =
      first (f ()) ⟨(spaced (leading 3 us)).reverse ++ (u.reverse ++ behind),
        spaced (us.drop (leading 3 us).length)⟩ := by
  obtain ⟨r, hr⟩ := Option.isSome_iff_exists.1
    (hf ⟨(spaced (leading 3 us)).reverse ++ (u.reverse ++ behind),
      spaced (us.drop (leading 3 us).length)⟩)
  rw [hr, filterWords, bind_assoc, lowerWord_eq]
  apply first_run hu.1 hu.2 (head_spaced_lower us)
  exact (first_moreWords hf 3 us hus).trans hr

theorem first_no_filterWords (f : Unit → Pattern β) (hu : Readable w u) (hn : ¬ IsWord u)
    (v : List Char) : first (filterWords >>= f) ⟨behind, u ++ v⟩ = none := by
  rw [filterWords, bind_assoc, lowerWord_eq]
  apply first_run_none
  rw [hu.head_lower, decide_eq_false hn]

theorem digit_ne (w : DigitClass) (h : w.isDigit c = true) : c ≠ '$' ∧ c ≠ ',' ∧ c ≠ '.' := by
  have hnot (d : Char) (hd : d.toNat < 128) (hd' : d.isDigit = false) : w.isDigit d = false := by
    rw [DigitClass.isDigit, w.ascii_digit d hd, hd']
    rfl
  refine ⟨?_, ?_, ?_⟩
  · rintro rfl
    rw [hnot '$' (by decide) rfl] at h
    cases h
  · rintro rfl
    rw [hnot ',' (by decide) rfl] at h
    cases h
  · rintro rfl
    rw [hnot '.' (by decide) rfl] at h
    cases h

theorem first_unsigned {w : DigitClass} {f : Unit → Pattern β} (hd : w.isDigit d = true)
    (hds : ∀ c ∈ ds, (w.isDigit c || c == ',') = true)
    (hfrac : frac = [] ∨ ∃ fs, frac = '.' :: fs ∧ fs ≠ [] ∧ ∀ c ∈ fs, w.isDigit c = true)
    (us : List (List Char))
    (h : first (f ()) ⟨frac.reverse ++ (ds.reverse ++ (d :: behind)), spaced us⟩ = some r) :
    first ((do
      let _ ← satisfy w.isDigit
      let _ ← greedy fun c => w.isDigit c || c == ','
      upTo 1 (do literal ['.']; plus w.isDigit)) >>= f)
      ⟨behind, d :: (ds ++ (frac ++ spaced us))⟩ = some r := by
  have hblank : (spaced us).head?.any (fun c => w.isDigit c || c == ',') = false := by
    apply head_spaced
    rw [w.isDigit_of_space rfl]
    rfl
  simp only [Pattern.bind_assoc]
  rw [first_satisfy_bind, if_pos hd]
  apply first_greedy_run hds
  · rcases hfrac with rfl | ⟨fs, rfl, -⟩
    · exact hblank
    · show (w.isDigit '.' || '.' == ',') = false
      rw [Bool.or_eq_false_iff, ← Bool.not_eq_true]
      exact ⟨fun hdot => (digit_ne w hdot).2.2 rfl, rfl⟩
  · rw [first_upTo_succ, bind_assoc, first_literal_bind]
    rcases hfrac with rfl | ⟨fs, rfl, hne, hfs⟩
    · have hdot : ¬ ['.'] <+: [] ++ spaced us := by
        cases us with
        | nil =>
          intro hp
          cases List.prefix_nil.1 hp
        | cons u us => exact fun hp => absurd (List.cons_prefix_cons.1 hp).1 (by decide)
      rw [if_neg hdot]
      exact h
    · have hdot : ['.'] <+: '.' :: fs ++ spaced us := ⟨fs ++ spaced us, rfl⟩
      rw [if_pos hdot]
      have hstop : (spaced us).head?.any w.isDigit = false :=
        head_spaced (w.isDigit_of_space rfl) us
      have hrun : first (plus w.isDigit >>= fun _ =>
          upTo 0 (do literal ['.']; plus w.isDigit) >>= f)
          ⟨'.' :: (ds.reverse ++ (d :: behind)), fs ++ spaced us⟩ = some r := by
        apply first_plus_run hne hfs hstop
        rw [first_upTo_zero]
        rw [List.reverse_cons, List.append_assoc] at h
        exact h
      exact (congrArg (Option.or · _) hrun).trans (Option.some_or ..)

theorem first_filterNumber {f : Unit → Pattern β} (hn : IsNumber w v) (us : List (List Char))
    (h : first (f ()) ⟨v.reverse ++ behind, spaced us⟩ = some r) :
    first (filterNumber w >>= f) ⟨behind, v ++ spaced us⟩ = some r := by
  obtain ⟨sign, d, ds, frac, rfl, hsign, hd, hds, hfrac, -⟩ := hn
  rw [filterNumber, bind_assoc, first_upTo_succ, first_literal_bind]
  rcases hsign with rfl | rfl
  · have hdollar : ¬ ['$'] <+: [] ++ (d :: (ds ++ frac)) ++ spaced us := by
      intro hp
      exact (digit_ne w hd).1 (List.cons_prefix_cons.1 hp).1.symm
    rw [if_neg hdollar, Option.none_or]
    have htext : [] ++ (d :: (ds ++ frac)) ++ spaced us = d :: (ds ++ (frac ++ spaced us)) := by
      simp only [List.nil_append, List.cons_append, List.append_assoc]
    rw [htext]
    apply first_unsigned hd hds hfrac us
    simpa only [List.nil_append, List.reverse_cons, List.reverse_append, List.append_assoc,
      List.cons_append] using h
  · rw [if_pos ⟨d :: (ds ++ frac) ++ spaced us, rfl⟩]
    have hsigned : first (f ()) ⟨frac.reverse ++ (ds.reverse ++ (d :: '$' :: behind)), spaced us⟩ =
        some r := by
      simpa only [List.nil_append, List.reverse_cons, List.reverse_append, List.append_assoc,
        List.cons_append] using h
    have hrun := first_unsigned hd hds hfrac us hsigned
    have htext : (['$'] ++ (d :: (ds ++ frac)) ++ spaced us).drop 1 =
        d :: (ds ++ (frac ++ spaced us)) := by
      simp only [List.cons_append, List.nil_append, List.drop_succ_cons, List.drop_zero,
        List.append_assoc]
    rw [List.length_singleton, htext, first_upTo_zero]
    exact (congrArg (Option.or · _) hrun).trans (Option.some_or ..)

theorem first_no_filterNumber (f : Unit → Pattern β) (hu : IsWord u) (v : List Char) :
    first (filterNumber w >>= f) ⟨behind, u ++ v⟩ = none := by
  obtain ⟨c, u, rfl⟩ := List.exists_cons_of_ne_nil hu.1
  have hc := hu.2 c List.mem_cons_self
  have hdollar : ¬ ['$'] <+: c :: u ++ v := by
    intro hp
    rw [← (List.cons_prefix_cons.1 hp).1] at hc
    cases hc
  have hd : ¬ w.isDigit c = true := by
    rw [isDigit_of_lower w hc]
    exact Bool.false_ne_true
  rw [filterNumber, bind_assoc, first_upTo_succ, first_literal_bind, if_neg hdollar,
    Option.none_or, bind_assoc, List.cons_append, first_satisfy_bind, if_neg hd]

/-- What a match has read when it has taken some tokens for its value. -/
def readValue (field behind : List Char) (vs rest : List (List Char)) :
    (List Char × List Char) × Cursor :=
  ((field, joined vs), ⟨(joined vs).reverse ++ behind, spaced rest⟩)

theorem first_wordsValue (field : List Char) (hu : IsWord u) (hus : ∀ u ∈ us, Readable w u) :
    first (filterWords >>= fun _ =>
      withText ⟨behind, u ++ spaced us⟩ fun v => pure (field, v)) ⟨behind, u ++ spaced us⟩ =
      some (readValue field behind (u :: leading 3 us) (us.drop (leading 3 us).length)) := by
  have htext : u ++ spaced us =
      joined (u :: leading 3 us) ++ spaced (us.drop (leading 3 us).length) := by
    rw [joined_cons, List.append_assoc, ← spaced_append, leading_append]
  rw [first_filterWords (fun c => rfl) hu hus, htext, first_withText, readValue, joined_cons,
    List.reverse_append, List.append_assoc]
  rfl

theorem first_numberValue (field : List Char) (hu : IsNumber w u) (us : List (List Char)) :
    first (filterNumber w >>= fun _ =>
      withText ⟨behind, u ++ spaced us⟩ fun v => pure (field, v)) ⟨behind, u ++ spaced us⟩ =
      some (readValue field behind [u] us) := by
  apply first_filterNumber hu us
  rw [first_withText, readValue, joined_cons, spaced_nil, List.append_nil]
  rfl

theorem first_value (kind : ValueKind) (field : List Char) (hu : Readable w u)
    (hus : ∀ u ∈ us, Readable w u) :
    first (group (kind.pattern w) >>= fun v => pure (field, v)) ⟨behind, joined (u :: us)⟩ =
      (valueTokens kind (u :: us)).map fun vs =>
        readValue field behind vs ((u :: us).drop vs.length) := by
  rw [first_group_bind, joined_cons, valueTokens]
  by_cases hw : IsWord u
  · rw [if_pos hw]
    cases kind with
    | number => exact first_no_filterNumber _ hw _
    | words => exact first_wordsValue field hw hus
    | wordsOrNumber =>
      rw [ValueKind.pattern, first_or_bind, first_wordsValue field hw hus]
      rfl
  · have hn : IsNumber w u := hu.resolve_left hw
    rw [if_neg hw]
    cases kind with
    | number => exact first_numberValue field hn us
    | words => exact first_no_filterWords _ hu hw _
    | wordsOrNumber =>
      rw [ValueKind.pattern, first_or_bind, first_no_filterWords _ hu hw, Option.none_or]
      exact first_numberValue field hn us

def wordsOf (phrase : String) : List (List Char) := phrase.toList.splitOn ' '

def takePhrase (x : Comparator) (us : List (List Char)) :
    Option (List (List Char) × List (List Char)) :=
  x.phrases.findSome? fun p =>
    if wordsOf p <+: us then
      (valueTokens x.value (us.drop (wordsOf p).length)).map fun vs => (wordsOf p, vs)
    else none

/-- What a comparator takes of some tokens. -/
structure Taken where
  field : List (List Char)
  phrase : List (List Char)
  value : List (List Char)
  deriving DecidableEq, Repr

def takeClause (x : Comparator) (us : List (List Char)) : Option Taken :=
  [3, 2, 1].findSome? fun n =>
    if n ≤ us.length ∧ ∀ t ∈ us.take n, IsWord t then
      (takePhrase x (us.drop n)).map fun r => ⟨us.take n, r.1, r.2⟩
    else none

theorem phrases_words :
    ∀ x ∈ comparatorPatterns, ∀ p ∈ x.phrases, ∀ t ∈ wordsOf p, IsWord t := by
  decide +kernel

theorem phrase_tokens (hx : x ∈ comparatorPatterns) (hp : p ∈ x.phrases) :
    ∀ t ∈ wordsOf p, IsToken t := fun t ht => (phrases_words x hx p hp t ht).token

theorem wordsOf_ne_nil (p : String) : wordsOf p ≠ [] := List.splitOn_ne_nil ' ' p.toList

theorem joined_wordsOf (p : String) : joined (wordsOf p) = p.toList := joined_splitOn p.toList

def phraseAndValue (w : DigitClass) (x : Comparator) (field : List Char) :
    Pattern (List Char × List Char) := do
  blanks
  anyOf ((x.phrases.map String.toList).map literal)
  blanks
  let value ← group (x.value.pattern w)
  pure (field, value)

theorem findSome?_congr {l : List α} {f g : α → Option β} (h : ∀ a ∈ l, f a = g a) :
    l.findSome? f = l.findSome? g := by
  induction l with
  | nil => rfl
  | cons a l ih =>
    obtain ⟨ha, hl⟩ := List.forall_mem_cons.1 h
    rw [List.findSome?_cons, List.findSome?_cons, ha, ih hl]

theorem first_onePhrase (kind : ValueKind) (field : List Char) {ts : List (List Char)}
    (hts : ∀ t ∈ ts, IsToken t) (hne : ts ≠ []) (hus : ∀ u ∈ us, Readable w u) (hne' : us ≠ []) :
    first (literal (joined ts) >>= fun _ => blanks >>= fun _ => group (kind.pattern w) >>=
      fun v => pure (field, v)) ⟨behind, joined us⟩ =
      (if ts <+: us then
        (valueTokens kind (us.drop ts.length)).map fun vs => (ts, vs)
      else none).map fun r =>
        readValue field (' ' :: ((joined r.1).reverse ++ behind)) r.2
          (us.drop (r.1.length + r.2.length)) := by
  rw [blanks, first_phrase _ hts hne (fun u hu => (hus u hu).token) hne']
  by_cases hp : ts <+: us
  · rw [if_pos hp, if_pos hp, Option.map_map]
    cases hd : us.drop ts.length with
    | nil =>
      rw [first_no_blank rfl]
      rfl
    | cons v vs =>
      have hvs : ∀ u ∈ v :: vs, Readable w u := fun u hu =>
        hus u (List.mem_of_mem_drop (hd ▸ hu))
      obtain ⟨hv, hvs⟩ := List.forall_mem_cons.1 hvs
      rw [first_blank _ hv.token, ← joined_cons, first_value kind field hv hvs]
      congr
      funext vs'
      rw [← hd, List.drop_drop]
      rfl
  · rw [if_neg hp, if_neg hp]
    rfl

theorem first_phraseAndValue (hx : x ∈ comparatorPatterns) (field : List Char)
    (hus : ∀ u ∈ us, Readable w u) :
    first (phraseAndValue w x field) ⟨behind, spaced us⟩ =
      (takePhrase x us).map fun r =>
        readValue field (' ' :: ((joined r.1).reverse ++ (' ' :: behind))) r.2
          (us.drop (r.1.length + r.2.length)) := by
  cases us with
  | nil =>
    have hnone : takePhrase x [] = none := by
      rw [takePhrase, List.findSome?_eq_none_iff]
      intro p hp
      rw [if_neg fun h => wordsOf_ne_nil p (List.prefix_nil.1 h)]
    rw [hnone]
    exact first_no_blank rfl
  | cons u us =>
    rw [phraseAndValue, blanks, first_blank _ (hus u List.mem_cons_self).token, ← joined_cons,
      first_anyOf_bind, List.findSome?_map, List.findSome?_map, takePhrase, List.map_findSome?]
    apply findSome?_congr
    intro p hp
    show first (literal p.toList >>= _) _ = _
    rw [← joined_wordsOf p]
    exact first_onePhrase x.value field (phrase_tokens hx hp) (wordsOf_ne_nil p) hus
      (List.cons_ne_nil u us)

def AfterWord (g : Pattern β) : Prop :=
  ∀ b ahead, ahead.head?.any Text.isSpace = false → first g ⟨b, ahead⟩ = none

theorem first_lastWord {g : Pattern β} (hg : AfterWord g) (hu : IsWord u)
    (us : List (List Char)) :
    first (lowerWord >>= fun _ => g) ⟨behind, joined (u :: us)⟩ =
      first g ⟨u.reverse ++ behind, spaced us⟩ := by
  rw [lowerWord_eq, joined_cons]
  apply first_run_whole hu.1 hu.2 (head_spaced_lower us)
  intro _ x b xs hx
  exact hg b (x :: xs) (isSpace_of_isLower hx)

theorem first_no_word (f : List Char → Pattern β) (hu : Readable w u) (hn : ¬ IsWord u)
    (us : List (List Char)) :
    first (lowerWord >>= f) ⟨behind, joined (u :: us)⟩ = none := by
  rw [lowerWord_eq, joined_cons]
  apply first_run_none
  rw [hu.head_lower, decide_eq_false hn]

theorem afterWord_blanks (f : Unit → Pattern β) : AfterWord (blanks >>= f) :=
  fun _ _ h => first_no_blank h

theorem first_fieldWord (f : Unit → Pattern β) (hu : IsWord u) (hv : IsToken v)
    (us : List (List Char)) :
    first (fieldWord >>= f) ⟨behind, joined (u :: v :: us)⟩ =
      first (f ()) ⟨' ' :: (u.reverse ++ behind), joined (v :: us)⟩ := by
  rw [fieldWord, Pattern.bind_assoc, first_lastWord (afterWord_blanks f) hu, blanks,
    first_blank f hv, joined_cons]

theorem first_no_fieldWord (f : Unit → Pattern β) (hu : Readable w u) :
    first (fieldWord >>= f) ⟨behind, joined [u]⟩ = none := by
  rw [fieldWord, Pattern.bind_assoc]
  by_cases hw : IsWord u
  · rw [first_lastWord (afterWord_blanks f) hw]
    exact afterWord_blanks f _ _ rfl
  · exact first_no_word _ hu hw []

def afterField (g : Pattern β) (us : List (List Char)) (behind : List Char) (n : Nat) :
    Option (β × Cursor) :=
  if n ≤ us.length ∧ ∀ t ∈ us.take n, IsWord t then
    first g ⟨(joined (us.take n)).reverse ++ behind, spaced (us.drop n)⟩
  else none

/-- How many words a field may have, with some that are optional. -/
def fieldLengths : Nat → List Nat
  | 0 => [1]
  | k + 1 => (fieldLengths k).map Nat.succ ++ [1]

theorem fieldLengths_pos (k : Nat) : ∀ n ∈ fieldLengths k, 1 ≤ n := by
  induction k with
  | zero => decide
  | succ k ih =>
    intro n hn
    rcases List.mem_append.1 hn with hn | hn
    · obtain ⟨m, -, rfl⟩ := List.mem_map.1 hn
      exact Nat.succ_pos m
    · exact (List.mem_singleton.1 hn).ge

theorem afterField_one {g : Pattern β} (hg : AfterWord g) (hu : Readable w u)
    (us : List (List Char)) :
    first (lowerWord >>= fun _ => g) ⟨behind, joined (u :: us)⟩ =
      afterField g (u :: us) behind 1 := by
  have hone : (1 ≤ (u :: us).length ∧ ∀ t ∈ (u :: us).take 1, IsWord t) ↔ IsWord u := by
    rw [List.take_succ_cons, List.take_zero, List.forall_mem_singleton]
    exact and_iff_right (Nat.succ_pos _)
  rw [afterField]
  by_cases hw : IsWord u
  · rw [if_pos (hone.2 hw), first_lastWord hg hw, List.take_succ_cons, List.take_zero,
      joined_cons, spaced_nil, List.append_nil]
    rfl
  · rw [if_neg (hone.not.2 hw), first_no_word _ hu hw]

theorem afterField_succ (g : Pattern β) (hn : 1 ≤ n) (u v : List Char) (us : List (List Char)) :
    afterField g (u :: v :: us) behind (n + 1) =
      if IsWord u then afterField g (v :: us) (' ' :: (u.reverse ++ behind)) n else none := by
  obtain ⟨n, rfl⟩ := Nat.exists_eq_add_of_le' hn
  have hwords : (n + 1 + 1 ≤ (u :: v :: us).length ∧
      ∀ t ∈ (u :: v :: us).take (n + 1 + 1), IsWord t) ↔
        IsWord u ∧ n + 1 ≤ (v :: us).length ∧ ∀ t ∈ (v :: us).take (n + 1), IsWord t := by
    rw [List.take_succ_cons, List.forall_mem_cons, List.length_cons, Nat.succ_le_succ_iff]
    exact and_left_comm
  rw [afterField, afterField]
  by_cases hw : IsWord u
  · rw [if_pos hw]
    by_cases hrest : n + 1 ≤ (v :: us).length ∧ ∀ t ∈ (v :: us).take (n + 1), IsWord t
    · rw [if_pos (hwords.2 ⟨hw, hrest⟩), if_pos hrest, List.take_succ_cons, List.take_succ_cons,
        joined_cons, joined_cons, spaced_cons, List.reverse_append, List.reverse_cons,
        List.append_assoc, List.append_assoc]
      rfl
    · rw [if_neg fun h => hrest (hwords.1 h).2, if_neg hrest]
  · rw [if_neg fun h => hw (hwords.1 h).1, if_neg hw]

theorem first_fieldWords {g : Pattern β} (hg : AfterWord g) (k : Nat) (hne : us ≠ [])
    (hus : ∀ u ∈ us, Readable w u) :
    first (upTo k fieldWord >>= fun _ => lowerWord >>= fun _ => g) ⟨behind, joined us⟩ =
      (fieldLengths k).findSome? (afterField g us behind) := by
  induction k generalizing us behind with
  | zero =>
    obtain ⟨u, us, rfl⟩ := List.exists_cons_of_ne_nil hne
    rw [first_upTo_zero, afterField_one hg (hus u List.mem_cons_self), fieldLengths,
      List.findSome?_singleton]
  | succ k ih =>
    obtain ⟨u, us, rfl⟩ := List.exists_cons_of_ne_nil hne
    obtain ⟨hu, hus⟩ := List.forall_mem_cons.1 hus
    rw [first_upTo_succ, afterField_one hg hu, fieldLengths, List.findSome?_append,
      List.findSome?_singleton, List.findSome?_map]
    congr
    cases us with
    | nil =>
      rw [first_no_fieldWord _ hu, eq_comm, List.findSome?_eq_none_iff]
      intro n hn
      apply if_neg
      rintro ⟨hle, -⟩
      have hpos := fieldLengths_pos k n hn
      rw [List.length_singleton] at hle
      omega
    | cons v us =>
      have hv := (hus v List.mem_cons_self).token
      have hshift : (fieldLengths k).findSome? (afterField g (u :: v :: us) behind ∘ Nat.succ) =
          (fieldLengths k).findSome? fun n =>
            if IsWord u then afterField g (v :: us) (' ' :: (u.reverse ++ behind)) n else none :=
        findSome?_congr fun n hn => afterField_succ g (fieldLengths_pos k n hn) u v us
      rw [hshift]
      by_cases hw : IsWord u
      · simp only [if_pos hw]
        rw [first_fieldWord _ hw hv]
        exact ih (List.cons_ne_nil v us) hus
      · simp only [if_neg hw]
        rw [fieldWord, Pattern.bind_assoc, first_no_word _ hu hw, eq_comm,
          List.findSome?_eq_none_iff]
        exact fun _ _ => rfl

theorem comparator_pattern_eq (w : DigitClass) (x : Comparator) :
    x.pattern w = group filterField >>= phraseAndValue w x := rfl

theorem valueTokens_ne_nil (h : valueTokens kind us = some vs) : vs ≠ [] := by
  rintro rfl
  cases us with
  | nil => cases h
  | cons u us =>
    rw [valueTokens] at h
    split at h
    · split at h <;> cases h
    · split at h <;> cases h

theorem takePhrase_some (h : takePhrase x us = some r) :
    ∃ p ∈ x.phrases, r.1 = wordsOf p ∧ wordsOf p <+: us ∧
      valueTokens x.value (us.drop (wordsOf p).length) = some r.2 := by
  obtain ⟨p, hp, h⟩ := List.exists_of_findSome?_eq_some h
  by_cases hpre : wordsOf p <+: us
  · rw [if_pos hpre] at h
    obtain ⟨vs, hvs, rfl⟩ := Option.map_eq_some_iff.1 h
    exact ⟨p, hp, rfl, hpre, hvs⟩
  · rw [if_neg hpre] at h
    cases h

theorem takePhrase_ne_nil (h : takePhrase x us = some r) : r.1 ≠ [] ∧ r.2 ≠ [] := by
  obtain ⟨p, -, hp, -, hv⟩ := takePhrase_some h
  rw [hp]
  exact ⟨wordsOf_ne_nil p, valueTokens_ne_nil hv⟩

theorem afterWord_phraseAndValue (w : DigitClass) (x : Comparator) (c : Cursor) :
    AfterWord (withText c (phraseAndValue w x)) :=
  fun b ahead h => afterWord_blanks _ b ahead h

theorem afterField_comparator (hx : x ∈ comparatorPatterns) (hn : 1 ≤ n)
    (hus : ∀ u ∈ us, Readable w u) :
    afterField (withText ⟨behind, joined us⟩ (phraseAndValue w x)) us behind n =
      (if n ≤ us.length ∧ ∀ t ∈ us.take n, IsWord t then
        (takePhrase x (us.drop n)).map fun r => (⟨us.take n, r.1, r.2⟩ : Taken)
      else none).map fun r =>
      ((joined r.field, joined r.value),
        ⟨(spaced (r.phrase ++ r.value)).reverse ++ ((joined r.field).reverse ++ behind),
          spaced (us.drop (r.field.length + (r.phrase.length + r.value.length)))⟩) := by
  rw [afterField]
  by_cases h : n ≤ us.length ∧ ∀ t ∈ us.take n, IsWord t
  · have hlen : (us.take n).length = n := by
      rw [List.length_take]
      exact Nat.min_eq_left h.1
    have hfield : us.take n ≠ [] := by
      intro he
      rw [he] at hlen
      exact absurd hlen (Nat.ne_of_lt hn)
    have htext : joined us = joined (us.take n) ++ spaced (us.drop n) := by
      rw [← joined_append hfield, List.take_append_drop]
    rw [if_pos h, if_pos h, htext, first_withText,
      first_phraseAndValue hx _ fun u hu => hus u (List.mem_of_mem_drop hu), Option.map_map]
    apply Option.map_congr
    intro r hr
    obtain ⟨hphrase, hvalue⟩ := takePhrase_ne_nil hr
    simp only [Function.comp_apply, readValue]
    rw [hlen, spaced_append, spaced_eq hphrase, spaced_eq hvalue, List.drop_drop,
      List.reverse_append, List.reverse_cons, List.reverse_cons]
    simp only [List.append_assoc, List.cons_append, List.nil_append]
  · rw [if_neg h, if_neg h]
    rfl

/-- A comparator matches some tokens as it takes them. -/
theorem first_comparator (hx : x ∈ comparatorPatterns) (hne : us ≠ [])
    (hus : ∀ u ∈ us, Readable w u) :
    first (x.pattern w) ⟨behind, joined us⟩ = (takeClause x us).map fun r =>
      ((joined r.field, joined r.value),
        ⟨(spaced (r.phrase ++ r.value)).reverse ++ ((joined r.field).reverse ++ behind),
          spaced (us.drop (r.field.length + (r.phrase.length + r.value.length)))⟩) := by
  have hlengths : fieldLengths 2 = [3, 2, 1] := rfl
  rw [comparator_pattern_eq, first_group_bind, filterField, Pattern.bind_assoc]
  simp only [Pattern.bind_assoc, pure_then]
  rw [first_fieldWords (afterWord_phraseAndValue w x _) 2 hne hus, takeClause,
    List.map_findSome?, ← hlengths]
  apply findSome?_congr
  intro n hn
  exact afterField_comparator hx (fieldLengths_pos 2 n hn) hus

end QueryMind.Nlu
