import QueryMind.Nlu.Conjunctions

namespace QueryMind.Nlu
open Lib Lib.Pattern
set_option autoImplicit true

section
variable {w : DigitClass}

theorem valueTokens_prefix (h : valueTokens kind us = some vs) : ∃ left, us = vs ++ left := by
  cases us with
  | nil => cases h
  | cons u us =>
    rw [valueTokens] at h
    split at h
    · split at h
      · cases h
      · cases h
        exact ⟨_, congrArg _ (leading_append 3 us).symm⟩
    · split at h
      · cases h
      · cases h
        exact ⟨us, rfl⟩

/-- What a match has read of the tokens of a text: from inside of one of them, some words as the
field, then a phrase and a value. -/
structure ReadOff (x : Comparator) (us : List (List Char))
    (m : Match (List Char × List Char)) (A : List (List Char)) (t : List Char)
    (field : List (List Char)) (p : String) (value left : List (List Char)) : Prop where
  tokens : us = A ++ t :: (field ++ (wordsOf p ++ (value ++ left)))
  phrase_mem : p ∈ x.phrases
  value_tokens : valueTokens x.value (value ++ left) = some value
  value_eq : m.value.2 = joined value
  start_lt : m.span.1 < m.span.2
  stop_eq : m.span.2 + (spaced left).length = (joined us).length

theorem word_of_suffix (ht : Readable w t) (hs : t' <:+ t) (hl : t'.head?.any isLower = true) :
    IsWord t' := by
  cases t' with
  | nil => cases hl
  | cons c t' =>
    refine ⟨List.cons_ne_nil c t', fun d hd => ?_⟩
    rcases ht with ht | ht
    · exact ht.2 d (hs.subset hd)
    · have hc : isLower c = true := hl
      rw [ht.not_lower (hs.subset List.mem_cons_self)] at hc
      cases hc

theorem readOff (hx : x ∈ comparatorPatterns) (hus : ∀ u ∈ us, Readable w u)
    (hm : m ∈ finditer (x.pattern w) (joined us)) :
    ∃ A t field p value left, ReadOff x us m A t field p value left := by
  obtain ⟨u, v, huv, hstart, hfirst⟩ := stands_of_mem hm
  rw [List.append_nil] at hstart
  rw [hstart] at hfirst
  have hlower : v.head?.any isLower = true := by
    rw [← Bool.not_eq_false]
    intro hv
    rw [first_comparator_none x hv] at hfirst
    cases hfirst
  have hsolid : v.head?.any (fun c => !Text.isSpace c) = true := by
    cases v with
    | nil => cases hlower
    | cons c v =>
      show (!Text.isSpace c) = true
      rw [isSpace_of_isLower hlower]
      rfl
  obtain ⟨A, t, t', B, htokens, hsuffix, hne, rfl⟩ := suffix_of_joined huv hsolid
  have hB : ∀ u ∈ B, Readable w u := by
    intro u hu
    apply hus
    rw [htokens]
    exact List.mem_append_right _ (List.mem_cons_of_mem t hu)
  have hword : IsWord t' := by
    have ht : t ∈ us := by
      rw [htokens]
      exact List.mem_append_right _ List.mem_cons_self
    apply word_of_suffix (hus t ht) hsuffix
    obtain ⟨c, t', rfl⟩ := List.exists_cons_of_ne_nil hne
    rw [joined_cons] at hlower
    exact hlower
  rw [first_comparator hx (List.cons_ne_nil t' B)
    (List.forall_mem_cons.2 ⟨.inl hword, hB⟩)] at hfirst
  obtain ⟨r, hr, he⟩ := Option.map_eq_some_iff.1 hfirst
  obtain ⟨hvalue, hstop⟩ := Prod.mk.inj he
  obtain ⟨p, hp, rest, hrest, hphrase, hfield, -, hwords, hvt⟩ := takeClause_some hr
  obtain ⟨left, rfl⟩ := valueTokens_prefix hvt
  obtain ⟨f, field, hf⟩ := List.exists_cons_of_ne_nil hfield
  rw [hf] at hrest
  have hB' : B = field ++ (wordsOf p ++ (r.value ++ left)) := by
    rw [← hphrase]
    exact (List.cons.inj hrest).2
  have hlen : m.span.2 = (spaced r.phrase).length + (spaced r.value).length +
      ((joined r.field).length + u.length) := by
    rw [Match.span, ← hstop]
    simp only [List.length_append, List.length_reverse, spaced_append]
  have hpos : 0 < (joined r.field).length := by
    rw [hf, joined_cons, List.length_append]
    have hpos := List.length_pos_iff.2 (hwords f (hf ▸ List.mem_cons_self)).1
    omega
  refine ⟨A, t, field, p, r.value, left, ⟨?_, hp, hvt, ?_, ?_, ?_⟩⟩
  · rw [htokens, hB']
  · rw [← hvalue]
  · have hs : m.span.1 = u.length := by
      rw [Match.span, hstart]
      exact List.length_reverse
    omega
  · rw [huv, hrest, ← hf, joined_append hfield, hlen]
    simp only [List.length_append, spaced_append]
    omega

theorem filterOf_some (h : filterOf operator m = some e) :
    e.operator = operator ∧
      e.value = .ofList ((Text.stripChars m.value.2).rdropWhile isTrailing) := by
  rw [filterOf] at h
  obtain ⟨field, -, h⟩ := Option.bind_eq_some_iff.1 h
  dsimp only at h
  split at h
  · cases h
  · cases h
    exact ⟨rfl, rfl⟩

theorem ReadOff.value_single (h : ReadOff x us m A t field p value left)
    (hus : ∀ u ∈ us, Readable w u) (he : filterOf operator m = some e) (hv : Readable w v)
    (hev : e.value = .ofList v) : value = [v] := by
  have hvalue : ∀ u ∈ value, Readable w u := by
    intro u hu
    apply hus
    rw [h.tokens]
    simp only [List.mem_append, List.mem_cons]
    exact .inr (.inr (.inr (.inr (.inl hu))))
  have htext := (filterOf_some he).2.symm.trans hev
  rw [h.value_eq, joined_trimmed hvalue] at htext
  apply joined_inj (fun u hu => (hvalue u hu).token) (List.forall_mem_singleton.2 hv.token)
    (valueTokens_ne_nil h.value_tokens) (List.cons_ne_nil v [])
  rw [String.ofList_injective htext, joined_cons, spaced_nil, List.append_nil]

theorem words_before (hlead : ∀ t ∈ lead, IsWord t) (cs : List (Clause w))
    (h : clauseTokens lead cs = X ++ n :: R) (hn : IsNumber w n) :
    ∃ c ∈ cs, ∃ Y, X = Y ++ c.words := by
  induction cs generalizing lead X with
  | nil => exact absurd (List.append_eq_nil_iff.1 h.symm).2 (List.cons_ne_nil n R)
  | cons c cs ih =>
    rw [clauseTokens] at h
    have hwords : ∀ t ∈ lead ++ c.words, IsWord t := by
      intro t ht
      rcases List.mem_append.1 ht with ht | ht
      · exact hlead t ht
      · exact c.isWord t ht
    rcases prefix_cases h with ⟨e, rfl, he⟩ | ⟨e, hne, he, hr⟩
    · cases e with
      | nil =>
        rw [List.append_nil]
        exact ⟨c, List.mem_cons_self, lead, rfl⟩
      | cons v e =>
        obtain ⟨d, hd, Y, rfl⟩ := ih (List.forall_mem_singleton.2 and_word.1)
          (List.cons.inj he).2
        refine ⟨d, List.mem_cons_of_mem c hd, lead ++ c.words ++ v :: Y, ?_⟩
        simp only [List.append_assoc, List.cons_append]
    · obtain ⟨u, e, rfl⟩ := List.exists_cons_of_ne_nil hne
      rw [(List.cons.inj hr).1] at hn
      exact absurd (hwords u (he ▸ List.mem_append_right X List.mem_cons_self)) hn.not_word

theorem phrases_last :
    ∀ x ∈ comparatorPatterns, x.value ≠ .number → ∀ p ∈ x.phrases, ∀ y ∈ comparatorPatterns,
      ∀ q ∈ y.phrases, (wordsOf q).dropLast.getLast? ≠ (wordsOf p).getLast? := by
  decide +kernel

theorem not_phrase_end (hx : x ∈ comparatorPatterns) (hk : x.value ≠ .number)
    (hp : p ∈ x.phrases) (c : Clause w) (h : X ++ (wordsOf p ++ [v]) = Y ++ c.words) : False := by
  rw [Clause.words] at h
  obtain ⟨q, u, hq⟩ := (List.eq_nil_or_concat' (wordsOf c.phrase)).resolve_left
    (wordsOf_ne_nil c.phrase)
  obtain ⟨k, l, hkey⟩ := (List.eq_nil_or_concat' (wordsOf p)).resolve_left (wordsOf_ne_nil p)
  obtain ⟨f, g, hf⟩ := (List.eq_nil_or_concat' (wordsOf c.field)).resolve_left
    (wordsOf_ne_nil c.field)
  have hlast : X ++ wordsOf p = Y ++ (wordsOf c.field ++ q) := by
    rw [hq, ← List.append_assoc, ← List.append_assoc, ← List.append_assoc] at h
    rw [← List.append_assoc Y]
    exact (List.append_inj' h rfl).1
  rcases List.eq_nil_or_concat' q with rfl | ⟨q, e, rfl⟩
  · rw [List.append_nil, hkey, hf, ← List.append_assoc, ← List.append_assoc] at hlast
    have hlg : l = g := (List.cons.inj (List.append_inj' hlast rfl).2).1
    have hl : l ∈ keywords := phrases_keywords x hx p hp l (by rw [hkey]; simp)
    exact (vocabulary_words _ c.field_vocabulary g (by rw [hf]; simp)).2 (hlg ▸ hl)
  · rw [hkey, ← List.append_assoc, ← List.append_assoc, ← List.append_assoc] at hlast
    have hle : l = e := (List.cons.inj (List.append_inj' hlast rfl).2).1
    apply phrases_last x hx hk p hp _ c.listed _ c.phrase_mem
    rw [hq, hkey, List.dropLast_concat, List.getLast?_concat, List.getLast?_concat, hle]

theorem ReadOff.ends {cs : List (Clause w)}
    (h : ReadOff x (clauseTokens [] cs) m A t field p [v] left) (hx : x ∈ comparatorPatterns)
    (hv : IsWord v) : m.span.2 = (joined (clauseTokens [] cs)).length := by
  have hstop := h.stop_eq
  cases left with
  | nil => exact hstop
  | cons n left =>
    have hvalue := h.value_tokens
    rw [List.singleton_append, valueTokens, if_pos hv] at hvalue
    split at hvalue
    · cases hvalue
    · rename_i hk
      have hn : ¬ IsWord n := by
        intro hn
        rw [leading, if_pos hn] at hvalue
        cases hvalue
      have htokens : clauseTokens [] cs =
          (A ++ t :: field) ++ (wordsOf p ++ [v]) ++ n :: left := by
        rw [h.tokens]
        simp only [List.append_assoc, List.cons_append, List.nil_append]
      have hread : Readable w n := by
        apply readable_clauseTokens (List.forall_mem_nil _) cs
        rw [htokens]
        exact List.mem_append_right _ List.mem_cons_self
      obtain ⟨c, -, Y, hY⟩ := words_before (List.forall_mem_nil _) cs htokens
        (hread.resolve_left hn)
      exact (not_phrase_end hx hk h.phrase_mem c hY).elim

theorem operators_kind :
    ∀ x ∈ comparatorPatterns, ∀ y ∈ comparatorPatterns, x.operator = y.operator →
      y.value = .words → x.value = .words := by decide

theorem readOff_clause {cs : List (Clause w)} {c : Clause w}
    (hf : f ∈ findFilters w (conjunction cs).toList) (hr : f.2.reading = c.reading) :
    ∃ x ∈ comparatorPatterns, x.operator = c.comparator.operator ∧
      ∃ m A t field p left, f.1 = m.span ∧
        ReadOff x (clauseTokens [] cs) m A t field p [c.value] left := by
  obtain ⟨⟨operator, m⟩, hp, hclaim⟩ := (findFilters_read w _).occurs f hf
  rw [conjunction_toList] at hp
  obtain ⟨x, hx, hm⟩ := List.mem_flatMap.1 hp
  obtain ⟨m', hm', he⟩ := List.mem_map.1 hm
  obtain ⟨rfl, rfl⟩ := Prod.mk.inj he
  obtain ⟨hspan, hfilter⟩ := mem_claimedBy (Option.mem_toList.2 hclaim)
  obtain ⟨-, hoperator, hvalue⟩ : _ ∧ f.2.operator = _ ∧ f.2.value = _ := by
    simpa only [FilterExpression.reading, Clause.reading, Prod.mk.injEq] using hr
  have hus : ∀ u ∈ clauseTokens [] cs, Readable w u :=
    readable_clauseTokens (List.forall_mem_nil _) cs
  obtain ⟨A, t, field, p, value, left, hread⟩ := readOff hx hus hm'
  have hsingle := hread.value_single hus hfilter c.readable hvalue
  rw [hsingle] at hread
  exact ⟨x, hx, (filterOf_some hfilter).1.symm.trans hoperator, m', A, t, field, p, left, hspan,
    hread⟩

/-- A conjunction is read clause by clause where it is separable, and only there. -/
theorem extractFilters_conjunction_iff (cs : List (Clause w)) :
    (extractFilters w (conjunction cs)).map FilterExpression.reading = cs.map Clause.reading ↔
      Separable cs := by
  refine ⟨fun h => ?_, extractFilters_conjunction cs⟩
  rw [extractFilters_eq, List.map_map] at h
  have hperm := inOrder_perm (findFilters w (conjunction cs).toList)
  refine ⟨fun c hc hn hk => ?_, fun c hc => ?_⟩
  · have hmem : c.reading ∈ cs.map Clause.reading := List.mem_map_of_mem hc
    rw [← h] at hmem
    obtain ⟨f, hf, hr⟩ := List.mem_map.1 hmem
    obtain ⟨x, hx, hop, m, A, t, field, p, left, -, hread⟩ :=
      readOff_clause (hperm.mem_iff.1 hf) hr
    have hvalue := hread.value_tokens
    rw [List.singleton_append, valueTokens, if_neg hn.not_word,
      if_pos (operators_kind x hx _ c.listed hop hk)] at hvalue
    cases hvalue
  · by_contra hnot
    have hword : IsWord c.value := (c.value_read.resolve_left hnot).2
    obtain ⟨P, B, hcs⟩ := List.append_of_mem hc
    have hne : cs ≠ [] := by
      rintro rfl
      cases hc
    have hsplit : cs = P ++ c :: (B ++ [cs.getLast hne]) := by
      conv_lhs => rw [← List.dropLast_append_getLast hne, hcs]
      simp only [List.append_assoc, List.cons_append]
    obtain ⟨d, D, hd⟩ := List.exists_cons_of_ne_nil (List.concat_ne_nil (cs.getLast hne) B)
    rw [hd] at hsplit
    have hreadings := h
    conv at hreadings => rhs; rw [hsplit, List.map_append, List.map_cons, List.map_cons]
    obtain ⟨F, G, hFG, -, hG⟩ := List.map_eq_append_iff.1 hreadings
    obtain ⟨f, G, rfl, hf, hG⟩ := List.map_eq_cons_iff.1 hG
    obtain ⟨g, G, rfl, hg, -⟩ := List.map_eq_cons_iff.1 hG
    have hmem : ∀ k ∈ f :: g :: G, k ∈ findFilters w (conjunction cs).toList := by
      intro k hk
      apply hperm.mem_iff.1
      rw [hFG]
      exact List.mem_append_right F hk
    obtain ⟨x, hx, -, m, A, t, field, p, left, hfs, hread⟩ :=
      readOff_clause (hmem f List.mem_cons_self) hf
    obtain ⟨y, -, -, n, A', t', field', p', left', hgs, hread'⟩ :=
      readOff_clause (hmem g (List.mem_cons_of_mem f List.mem_cons_self)) hg
    have hend := hread.ends hx hword
    have hlt := hread'.start_lt
    have hle := hread'.stop_eq
    have hpairs := inOrder_sorted (findFilters w (conjunction cs).toList)
    have hdisjoint := inOrder_disjoint (findFilters_read w (conjunction cs).toList).disjoint
    rw [hFG] at hpairs hdisjoint
    have hstart : f.1.1 ≤ g.1.1 :=
      List.rel_of_pairwise_cons (List.pairwise_append.1 hpairs).2.1 List.mem_cons_self
    have happart : overlaps f.1 g.1 = false :=
      List.rel_of_pairwise_cons (List.pairwise_append.1 hdisjoint).2.1 List.mem_cons_self
    rw [overlaps, Bool.and_eq_false_iff, decide_eq_false_iff_not, decide_eq_false_iff_not, hfs,
      hgs] at happart
    rw [hfs, hgs] at hstart
    omega

end

end QueryMind.Nlu
