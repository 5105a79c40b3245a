import QueryMind.Nlu.Comparators

namespace QueryMind.Nlu
open Lib Lib.Pattern
set_option autoImplicit true

section
variable {w : DigitClass}

theorem first_comparator_none (x : Comparator) (h : ahead.head?.any isLower = false) :
    first (x.pattern w) ⟨behind, ahead⟩ = none := by
  rw [comparator_pattern_eq, first_group_bind, filterField, Pattern.bind_assoc]
  simp only [Pattern.bind_assoc, pure_then]
  rw [first_upTo_succ, fieldWord, Pattern.bind_assoc, lowerWord_eq, first_run_none h,
    first_run_none h]
  rfl

def Accepts (kind : ValueKind) (v : List Char) : Prop :=
  if IsWord v then kind ≠ .number else kind ≠ .words

/-- Words and a value after them, then other tokens; a word as a value ends the text. -/
structure IsBlock (w : DigitClass) (words : List (List Char)) (v : List Char)
    (rest : List (List Char)) : Prop where
  isWord : ∀ t ∈ words, IsWord t
  readable_value : Readable w v
  readable_rest : ∀ t ∈ rest, Readable w t
  ends : IsWord v → rest = []

/-- After the first of some words, no phrase of a comparator stands in front of another word. -/
def Apart (x : Comparator) (words : List (List Char)) : Prop :=
  ∀ p ∈ x.phrases, ∀ a b, a ≠ [] → words = a ++ (wordsOf p ++ b) → b ≠ [] → x.value = .number

theorem IsBlock.readable (h : IsBlock w words v rest) :
    ∀ t ∈ words ++ v :: rest, Readable w t := by
  intro t ht
  rcases List.mem_append.1 ht with ht | ht
  · exact .inl (h.isWord t ht)
  · rcases List.mem_cons.1 ht with rfl | ht
    · exact h.readable_value
    · exact h.readable_rest t ht

theorem IsBlock.value_iff (h : IsBlock w words v rest) (kind : ValueKind) :
    valueTokens kind (v :: rest) = some vs ↔ Accepts kind v ∧ vs = [v] := by
  rw [valueTokens, Accepts]
  by_cases hv : IsWord v
  · rw [if_pos hv, if_pos hv, h.ends hv]
    by_cases hk : kind = .number
    · rw [if_pos hk]
      exact iff_of_false (Option.some_ne_none vs).symm fun hn => hn.1 hk
    · rw [if_neg hk, and_iff_right hk, Option.some.injEq, eq_comm]
      rfl
  · rw [if_neg hv, if_neg hv]
    by_cases hk : kind = .words
    · rw [if_pos hk]
      exact iff_of_false (Option.some_ne_none vs).symm fun hn => hn.1 hk
    · rw [if_neg hk, and_iff_right hk, Option.some.injEq, eq_comm]

theorem IsBlock.tail (h : IsBlock w (t :: words) v rest) : IsBlock w words v rest :=
  ⟨fun u hu => h.isWord u (List.mem_cons_of_mem t hu), h.readable_value, h.readable_rest, h.ends⟩

theorem prefix_cases {a b c d : List α} (h : a ++ b = c ++ d) :
    (∃ e, c = a ++ e ∧ b = e ++ d) ∨ ∃ e, e ≠ [] ∧ a = c ++ e ∧ d = e ++ b := by
  rcases List.append_eq_append_iff.1 h with ⟨e, hc, hb⟩ | ⟨e, ha, hd⟩
  · exact .inl ⟨e, hc, hb⟩
  · cases e with
    | nil =>
      rw [List.append_nil] at ha
      exact .inl ⟨[], by rw [ha, List.append_nil], hd.symm⟩
    | cons x e => exact .inr ⟨x :: e, List.cons_ne_nil x e, ha, hd⟩

theorem takeClause_some (h : takeClause x us = some r) :
    ∃ p ∈ x.phrases, ∃ rest, us = r.field ++ (r.phrase ++ rest) ∧ r.phrase = wordsOf p ∧
      r.field ≠ [] ∧ r.field.length ≤ 3 ∧ (∀ t ∈ r.field, IsWord t) ∧
      valueTokens x.value rest = some r.value := by
  obtain ⟨n, hn, h⟩ := List.exists_of_findSome?_eq_some h
  have hn3 : 1 ≤ n ∧ n ≤ 3 := by
    simp only [List.mem_cons, List.not_mem_nil, or_false] at hn
    omega
  by_cases hw : n ≤ us.length ∧ ∀ t ∈ us.take n, IsWord t
  · rw [if_pos hw] at h
    obtain ⟨q, hq, rfl⟩ := Option.map_eq_some_iff.1 h
    obtain ⟨p, hp, hq1, hpre, hv⟩ := takePhrase_some hq
    obtain ⟨rest, hrest⟩ := hpre
    have hlen : (us.take n).length = n := by
      rw [List.length_take]
      exact Nat.min_eq_left hw.1
    refine ⟨p, hp, rest, ?_, hq1, ?_, hlen.trans_le hn3.2, hw.2, ?_⟩
    · dsimp only
      rw [hq1, hrest, List.take_append_drop]
    · dsimp only
      intro he
      rw [he] at hlen
      exact absurd hlen (Nat.ne_of_lt hn3.1)
    · rw [← hv, ← hrest, List.drop_left]
  · rw [if_neg hw] at h
    cases h

theorem IsBlock.taken (h : IsBlock w words v rest) (hx : x ∈ comparatorPatterns)
    (ha : Apart x words) (ht : takeClause x (words ++ v :: rest) = some r) :
    words = r.field ++ r.phrase ∧ r.value = [v] ∧ Accepts x.value v ∧
      r.field ≠ [] ∧ r.field.length ≤ 3 ∧ ∃ p ∈ x.phrases, r.phrase = wordsOf p := by
  obtain ⟨p, hp, us, hus, hphrase, hne, hlen, hfield, hvalue⟩ := takeClause_some ht
  rw [← List.append_assoc] at hus
  rcases prefix_cases hus.symm with ⟨e, he, hrest⟩ | ⟨e, hne', he, hrest⟩
  · cases e with
    | nil =>
      rw [List.append_nil] at he
      rw [List.nil_append] at hrest
      rw [hrest] at hvalue
      obtain ⟨haccepts, hv⟩ := (h.value_iff x.value).1 hvalue
      exact ⟨he, hv, haccepts, hne, hlen, p, hp, hphrase⟩
    | cons t e =>
      have hnumber : x.value = .number := by
        apply ha p hp r.field (t :: e) hne _ (List.cons_ne_nil t e)
        rw [he, hphrase, List.append_assoc]
      have hword : IsWord t := by
        apply h.isWord
        rw [he]
        exact List.mem_append_right _ List.mem_cons_self
      rw [hrest, List.cons_append, valueTokens, if_pos hword, if_pos hnumber] at hvalue
      cases hvalue
  · have hv : IsWord v := by
      obtain ⟨t, e, rfl⟩ := List.exists_cons_of_ne_nil hne'
      have hvt : v = t := (List.cons.inj hrest).1
      have hmem : t ∈ r.field ++ r.phrase := by
        rw [he]
        exact List.mem_append_right _ List.mem_cons_self
      rw [hvt]
      rcases List.mem_append.1 hmem with hmem | hmem
      · exact hfield t hmem
      · rw [hphrase] at hmem
        exact phrases_words x hx p hp t hmem
    obtain ⟨t, e, rfl⟩ := List.exists_cons_of_ne_nil hne'
    rw [h.ends hv] at hrest
    have hnil : us = [] := (List.append_eq_nil_iff.1 (List.cons.inj hrest).2.symm).2
    rw [hnil] at hvalue
    cases hvalue

theorem IsBlock.takes (h : IsBlock w (field ++ wordsOf p) v rest) (hp : p ∈ x.phrases)
    (hne : field ≠ []) (hlen : field.length ≤ 3) (ha : Accepts x.value v) :
    ∃ r, takeClause x ((field ++ wordsOf p) ++ v :: rest) = some r := by
  apply Option.isSome_iff_exists.1
  have hpos := List.length_pos_iff.2 hne
  rw [takeClause, List.findSome?_isSome_iff]
  refine ⟨field.length, ?_, ?_⟩
  · simp only [List.mem_cons, List.not_mem_nil, or_false]
    omega
  · rw [List.append_assoc, List.take_left, List.drop_left, if_pos, Option.isSome_map, takePhrase,
      List.findSome?_isSome_iff]
    · refine ⟨p, hp, ?_⟩
      rw [if_pos (List.prefix_append _ _), List.drop_left,
        (h.value_iff x.value).2 ⟨ha, rfl⟩]
      rfl
    · rw [List.length_append]
      exact ⟨Nat.le_add_right _ _, fun t ht => h.isWord t (List.mem_append_left _ ht)⟩

theorem Apart.tail (h : Apart x (t :: words)) : Apart x words := by
  intro p hp a b ha hw hb
  exact h p hp (t :: a) b (List.cons_ne_nil t a) (congrArg _ hw) hb

theorem Apart.head (h : Apart x (t :: words)) (u : List Char) : Apart x (u :: words) := by
  intro p hp a b ha hw hb
  obtain ⟨c, a, rfl⟩ := List.exists_cons_of_ne_nil ha
  exact h p hp (t :: a) b (List.cons_ne_nil t a) (congrArg _ (List.cons.inj hw).2) hb

theorem takeClause_single (x : Comparator) (u : List Char) : takeClause x [u] = none := by
  cases ht : takeClause x [u] with
  | none => rfl
  | some r =>
    obtain ⟨p, -, us, hus, hphrase, hne, -⟩ := takeClause_some ht
    have hlen := congrArg List.length hus
    have hpos := List.length_pos_iff.2 hne
    have hpos' := List.length_pos_iff.2 (wordsOf_ne_nil p)
    rw [hphrase, List.length_append, List.length_append, List.length_singleton] at hlen
    omega

/-- The match of a comparator in a block, at the first of its words where there is one. -/
def hit (x : Comparator) (v : List Char) (rest : List (List Char)) :
    List (List Char) → List Char → Option (Match (List Char × List Char))
  | [], _ => none
  | t :: words, behind =>
    match takeClause x (t :: (words ++ v :: rest)) with
    | some r => some ⟨(joined r.field, joined r.value),
        ⟨behind, joined (t :: (words ++ v :: rest))⟩,
        ⟨(joined (t :: (words ++ [v]))).reverse ++ behind, spaced rest⟩⟩
    | none => hit x v rest words (' ' :: (t.reverse ++ behind))

theorem finditer_value (h : IsBlock w [] v rest) (hx : x ∈ comparatorPatterns)
    (behind : List Char) :
    finditerFrom (x.pattern w) 0 behind (joined (v :: rest)) =
      finditerFrom (x.pattern w) 0 (v.reverse ++ behind) (spaced rest) := by
  rw [joined_cons]
  apply finditerFrom_append
  rintro a b rfl hb
  rcases h.readable_value with hv | hv
  · have hword : IsWord b := ⟨hb, fun c hc => hv.2 c (List.mem_append_right a hc)⟩
    have htokens : ∀ u ∈ [b], Readable w u := List.forall_mem_singleton.2 (.inl hword)
    rw [h.ends hv, spaced_nil, ← spaced_nil, ← joined_cons,
      first_comparator hx (List.cons_ne_nil b []) htokens, takeClause_single]
    rfl
  · apply first_comparator_none
    obtain ⟨c, b, rfl⟩ := List.exists_cons_of_ne_nil hb
    exact hv.not_lower (List.mem_append_right a List.mem_cons_self)

theorem finditer_word (h : IsBlock w (t :: words) v rest) (hx : x ∈ comparatorPatterns)
    (ha : Apart x (t :: words)) (hn : takeClause x (t :: (words ++ v :: rest)) = none)
    (behind : List Char) :
    finditerFrom (x.pattern w) 0 behind (joined (t :: (words ++ v :: rest))) =
      finditerFrom (x.pattern w) 0 (' ' :: (t.reverse ++ behind))
        (joined (words ++ v :: rest)) := by
  have hne : words ++ v :: rest ≠ [] :=
    fun he => absurd (List.append_eq_nil_iff.1 he).2 (List.cons_ne_nil v rest)
  have hword := h.isWord t List.mem_cons_self
  have hblank : finditerFrom (x.pattern w) 0 (t.reverse ++ behind)
      ([' '] ++ joined (words ++ v :: rest)) =
        finditerFrom (x.pattern w) 0 (' ' :: (t.reverse ++ behind))
          (joined (words ++ v :: rest)) := by
    apply finditerFrom_append
    intro a b hab hb
    apply first_comparator_none
    have hspace : b.head? = some ' ' := by
      rcases List.append_eq_singleton_iff.1 hab.symm with ⟨-, rfl⟩ | ⟨-, rfl⟩
      · rfl
      · exact absurd rfl hb
    rw [List.head?_append, hspace]
    rfl
  rw [joined_cons, finditerFrom_append t _ _, spaced_eq hne]
  · exact hblank
  · rintro a b rfl hb
    have hword' : IsWord b := ⟨hb, fun c hc => hword.2 c (List.mem_append_right a hc)⟩
    have hblock : IsBlock w (b :: words) v rest :=
      ⟨List.forall_mem_cons.2 ⟨hword', h.tail.isWord⟩, h.readable_value, h.readable_rest, h.ends⟩
    have hreadable : ∀ u ∈ b :: (words ++ v :: rest), Readable w u := hblock.readable
    rw [← joined_cons, first_comparator hx (List.cons_ne_nil _ _) hreadable]
    cases ht : takeClause x (b :: (words ++ v :: rest)) with
    | none => rfl
    | some r =>
      obtain ⟨hw, -, haccepts, hne', hlen, p, hp, hphrase⟩ := hblock.taken hx (ha.head b) ht
      obtain ⟨c, field, hf⟩ := List.exists_cons_of_ne_nil hne'
      rw [hf, hphrase, List.cons_append] at hw
      rw [hf] at hlen
      have hblock' : IsBlock w ((a ++ b) :: field ++ wordsOf p) v rest := by
        rw [List.cons_append, ← (List.cons.inj hw).2]
        exact h
      obtain ⟨r', hr'⟩ := hblock'.takes hp (List.cons_ne_nil _ _) hlen haccepts
      rw [List.cons_append, ← (List.cons.inj hw).2] at hr'
      rw [List.cons_append, hn] at hr'
      cases hr'

/-- In a block a comparator is found once at most, and the search goes on behind the value. -/
theorem finditer_block (h : IsBlock w words v rest) (hx : x ∈ comparatorPatterns)
    (ha : Apart x words) (behind : List Char) :
    finditerFrom (x.pattern w) 0 behind (joined (words ++ v :: rest)) =
      (hit x v rest words behind).toList ++
        finditerFrom (x.pattern w) 0 ((joined (words ++ [v])).reverse ++ behind) (spaced rest) := by
  induction words generalizing behind with
  | nil =>
    rw [hit, List.nil_append, List.nil_append, finditer_value h hx behind, joined_cons, spaced_nil,
      List.append_nil]
    rfl
  | cons t words ih =>
    rw [hit]
    cases ht : takeClause x (t :: (words ++ v :: rest)) with
    | some r =>
      obtain ⟨hw, hv, -, hne, -⟩ := h.taken hx ha ht
      have hreadable : ∀ u ∈ t :: (words ++ v :: rest), Readable w u := h.readable
      have hfirst : first (x.pattern w) ⟨behind, joined (t :: (words ++ v :: rest))⟩ = _ :=
        first_comparator hx (List.cons_ne_nil _ _) hreadable
      have hwords : t :: (words ++ [v]) = r.field ++ (r.phrase ++ r.value) := by
        rw [hv, ← List.append_assoc, ← hw]
        rfl
      have htokens : t :: (words ++ v :: rest) = (t :: (words ++ [v])) ++ rest := by
        simp only [List.cons_append, List.append_assoc, List.nil_append]
      have hjoined : joined (t :: (words ++ [v])) =
          joined r.field ++ spaced (r.phrase ++ r.value) := by
        rw [hwords, joined_append hne]
      have hlen : (t :: (words ++ [v])).length =
          r.field.length + (r.phrase.length + r.value.length) := by
        rw [hwords, List.length_append, List.length_append]
      rw [ht, Option.map_some, htokens, ← hlen, List.drop_left, ← List.append_assoc,
        ← List.reverse_append, ← hjoined, joined_append (List.cons_ne_nil _ _)] at hfirst
      rw [List.cons_append, htokens, joined_append (List.cons_ne_nil _ _),
        finditerFrom_match _ hfirst]
      · rfl
      · rw [joined_cons]
        intro he
        exact (h.isWord t List.mem_cons_self).1 (List.append_eq_nil_iff.1 he).1
    | none =>
      have hne : words ++ [v] ≠ [] :=
        fun he => absurd (List.append_eq_nil_iff.1 he).2 (List.cons_ne_nil v [])
      rw [List.cons_append, finditer_word h hx ha ht, ih h.tail ha.tail, List.cons_append,
        joined_cons t (words ++ [v]), spaced_eq hne, List.reverse_append, List.reverse_cons]
      simp only [List.append_assoc, List.cons_append, List.nil_append]

/-- Where a block is matched, as what and how far. -/
structure HitAt (x : Comparator) (words : List (List Char)) (v behind : List Char)
    (m : Match (List Char × List Char)) (skipped field : List (List Char)) (p : String) : Prop where
  words_eq : words = skipped ++ (field ++ wordsOf p)
  phrase_mem : p ∈ x.phrases
  accepts : Accepts x.value v
  field_ne_nil : field ≠ []
  field_length : field.length ≤ 3
  whole : skipped = [] ∨ field.length = 3
  value_eq : m.value = (joined field, v)
  start_le : behind.length ≤ m.span.1
  start_lt : m.span.1 < m.span.2
  stop_eq : m.span.2 = (joined (words ++ [v])).length + behind.length

theorem hit_some (h : IsBlock w words v rest) (hx : x ∈ comparatorPatterns) (ha : Apart x words)
    (hm : hit x v rest words behind = some m) :
    ∃ skipped field p, HitAt x words v behind m skipped field p := by
  induction words generalizing behind with
  | nil => cases hm
  | cons t words ih =>
    rw [hit] at hm
    cases ht : takeClause x (t :: (words ++ v :: rest)) with
    | some r =>
      obtain ⟨hw, hv, haccepts, hne, hlen, p, hp, hphrase⟩ := h.taken hx ha ht
      rw [ht] at hm
      cases hm
      have hlength : 0 < (joined (t :: (words ++ [v]))).length := by
        rw [joined_cons, List.length_append]
        have hpos := List.length_pos_iff.2 (h.isWord t List.mem_cons_self).1
        omega
      refine ⟨[], r.field, p, ⟨?_, hp, haccepts, hne, hlen, .inl rfl, ?_, le_rfl, ?_, ?_⟩⟩
      · rw [List.nil_append, ← hphrase]
        exact hw
      · show (joined r.field, joined r.value) = _
        rw [hv, joined_cons, spaced_nil, List.append_nil]
      · show behind.length < ((joined (t :: (words ++ [v]))).reverse ++ behind).length
        rw [List.length_append, List.length_reverse]
        omega
      · show ((joined (t :: (words ++ [v]))).reverse ++ behind).length = _
        rw [List.length_append, List.length_reverse]
        rfl
    | none =>
      rw [ht] at hm
      obtain ⟨skipped, field, p, hat⟩ := ih h.tail ha.tail hm
      have hlength : (' ' :: (t.reverse ++ behind)).length = t.length + behind.length + 1 := by
        rw [List.length_cons, List.length_append, List.length_reverse]
      have hstart := hat.start_le
      have hstop := hat.stop_eq
      rw [hlength] at hstart hstop
      refine ⟨t :: skipped, field, p, ⟨congrArg _ hat.words_eq, hat.phrase_mem, hat.accepts,
        hat.field_ne_nil, hat.field_length, .inr ?_, hat.value_eq, by omega, hat.start_lt, ?_⟩⟩
      · rcases hat.whole with hs | hlen
        · by_contra hne
          have hlen : (t :: field).length ≤ 3 := by
            have hle := hat.field_length
            rw [List.length_cons]
            omega
          have hwords := hat.words_eq
          rw [hs, List.nil_append] at hwords
          have hblock : IsBlock w (t :: field ++ wordsOf p) v rest := by
            rw [List.cons_append, ← hwords]
            exact h
          obtain ⟨r, hr⟩ := hblock.takes hat.phrase_mem (List.cons_ne_nil t field) hlen hat.accepts
          rw [List.cons_append, ← hwords, List.cons_append, ht] at hr
          cases hr
        · exact hlen
      · have hne : words ++ [v] ≠ [] :=
          fun he => absurd (List.append_eq_nil_iff.1 he).2 (List.cons_ne_nil v [])
        rw [hstop, List.cons_append, joined_cons, spaced_eq hne, List.length_append,
          List.length_cons]
        omega

theorem hit_exists (h : IsBlock w (front ++ wordsOf p) v rest) (hne : front ≠ [])
    (hp : p ∈ x.phrases) (haccepts : Accepts x.value v) (behind : List Char) :
    ∃ m, hit x v rest (front ++ wordsOf p) behind = some m := by
  induction front generalizing behind with
  | nil => exact absurd rfl hne
  | cons t front ih =>
    rw [List.cons_append, hit]
    cases ht : takeClause x (t :: (front ++ wordsOf p ++ v :: rest)) with
    | some r => exact ⟨_, rfl⟩
    | none =>
      by_cases hlen : (t :: front).length ≤ 3
      · obtain ⟨r, hr⟩ := h.takes hp hne hlen haccepts
        rw [List.cons_append, List.cons_append, ht] at hr
        cases hr
      · apply ih h.tail
        rintro rfl
        exact hlen (Nat.le_add_left 1 2)

end

end QueryMind.Nlu
