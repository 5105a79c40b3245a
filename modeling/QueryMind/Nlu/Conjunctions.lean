import QueryMind.Nlu.Blocks
import QueryMind.Nlu.Clauses
import QueryMind.Nlu.Spans

namespace QueryMind.Nlu
open Lib Lib.Pattern
set_option autoImplicit true

section
variable {w : DigitClass}

def Clause.words (c : Clause w) : List (List Char) := wordsOf c.field ++ wordsOf c.phrase

theorem Clause.field_vocabulary (c : Clause w) : (c.field, c.canonical) ∈ vocabulary :=
  mem_vocabulary c.known

theorem Clause.isWord (c : Clause w) : ∀ t ∈ c.words, IsWord t := by
  intro t ht
  rcases List.mem_append.1 ht with ht | ht
  · exact (vocabulary_words _ c.field_vocabulary t ht).1
  · exact phrases_words _ c.listed _ c.phrase_mem t ht

theorem Clause.readable (c : Clause w) : Readable w c.value :=
  c.value_read.elim .inr fun h => .inl h.2

/-- The tokens of some clauses, each of which but the first is behind an `and`. -/
def clauseTokens (lead : List (List Char)) : List (Clause w) → List (List Char)
  | [] => []
  | c :: cs => lead ++ c.words ++ c.value :: clauseTokens ["and".toList] cs

theorem Clause.text_eq (c : Clause w) : c.text = joined (c.words ++ [c.value]) := by
  rw [Clause.text, Clause.words, List.append_assoc, joined_append (wordsOf_ne_nil c.field),
    spaced_append, spaced_eq (wordsOf_ne_nil c.phrase), joined_wordsOf, joined_wordsOf,
    spaced_cons, spaced_nil, List.append_nil]
  rfl

theorem joined_cons_append (ts us : List (List Char)) (hne : ts ≠ []) (h : us ≠ []) :
    joined (ts ++ us) = joined ts ++ (' ' :: joined us) := by
  rw [joined_append hne, spaced_eq h]

theorem clauseTokens_ne_nil (lead : List (List Char)) (c : Clause w) (cs : List (Clause w)) :
    clauseTokens lead (c :: cs) ≠ [] :=
  fun he => absurd (List.append_eq_nil_iff.1 he).2 (List.cons_ne_nil _ _)

theorem clauseTokens_and (cs : List (Clause w)) (hne : cs ≠ []) :
    clauseTokens ["and".toList] cs = "and".toList :: clauseTokens [] cs := by
  obtain ⟨c, cs, rfl⟩ := List.exists_cons_of_ne_nil hne
  rw [clauseTokens, clauseTokens, List.append_assoc]
  rfl

theorem conjunction_toList (cs : List (Clause w)) :
    (conjunction cs).toList = joined (clauseTokens [] cs) := by
  rw [conjunction, String.toList_ofList]
  induction cs with
  | nil => rfl
  | cons c cs ih =>
    cases cs with
    | nil =>
      rw [List.map_singleton, List.intercalate_singleton, c.text_eq]
      rfl
    | cons d cs =>
      have hne : c.words ++ [c.value] ≠ [] :=
        fun he => absurd (List.append_eq_nil_iff.1 he).2 (List.cons_ne_nil _ _)
      have htokens : clauseTokens [] (c :: d :: cs) =
          (c.words ++ [c.value]) ++ ("and".toList :: clauseTokens [] (d :: cs)) := by
        rw [clauseTokens, clauseTokens_and _ (List.cons_ne_nil d cs)]
        simp only [List.nil_append, List.append_assoc, List.cons_append]
      rw [List.map_cons, List.map_cons, List.intercalate_cons_cons, ← List.map_cons, ih, htokens,
        joined_cons_append _ _ hne (List.cons_ne_nil _ _), joined_cons,
        spaced_eq (clauseTokens_ne_nil [] d cs), c.text_eq, List.append_assoc]
      rfl

/-- A clause where it stands in a text. -/
structure Site (w : DigitClass) where
  clause : Clause w
  lead : List (List Char)
  behind : List Char
  rest : List (List Char)

def Site.words (s : Site w) : List (List Char) := s.lead ++ s.clause.words

def Site.hit (s : Site w) (x : Comparator) : Option (Match (List Char × List Char)) :=
  Nlu.hit x s.clause.value s.rest s.words s.behind

def Site.stop (s : Site w) : List Char :=
  (joined (s.words ++ [s.clause.value])).reverse ++ s.behind

def sites (lead : List (List Char)) (behind : List Char) : List (Clause w) → List (Site w)
  | [] => []
  | c :: cs =>
    let site : Site w := ⟨c, lead, behind, clauseTokens ["and".toList] cs⟩
    site :: sites ["and".toList] (' ' :: site.stop) cs

/-- A clause whose value is read by its comparator alone. -/
structure Site.Alone (s : Site w) : Prop where
  lead_eq : s.lead = [] ∨ s.lead = ["and".toList]
  readable_rest : ∀ t ∈ s.rest, Readable w t
  ends : IsWord s.clause.value → s.rest = []
  accepts : Accepts s.clause.comparator.value s.clause.value

variable {s : Site w}

theorem and_word : IsWord "and".toList ∧ "and".toList ∉ keywords := by decide +kernel

theorem Site.Alone.lead_words (h : Site.Alone s) : ∀ t ∈ s.lead, IsWord t ∧ t ∉ keywords := by
  rcases h.lead_eq with he | he
  · rw [he]
    exact List.forall_mem_nil _
  · rw [he]
    exact List.forall_mem_singleton.2 and_word

theorem Site.Alone.block (h : Site.Alone s) : IsBlock w s.words s.clause.value s.rest := by
  refine ⟨?_, s.clause.readable, h.readable_rest, h.ends⟩
  intro t ht
  rcases List.mem_append.1 ht with ht | ht
  · exact (h.lead_words t ht).1
  · exact s.clause.isWord t ht

def Site.front (s : Site w) : List (List Char) := s.lead ++ wordsOf s.clause.field

theorem Site.words_eq (s : Site w) : s.words = s.front ++ wordsOf s.clause.phrase :=
  (List.append_assoc _ _ _).symm

theorem Site.Alone.front_words (h : Site.Alone s) : ∀ t ∈ s.front, t ∉ keywords := by
  intro t ht
  rcases List.mem_append.1 ht with ht | ht
  · exact (h.lead_words t ht).2
  · exact (vocabulary_words _ s.clause.field_vocabulary t ht).2

theorem Site.Alone.within (h : Site.Alone s) (hx : x ∈ comparatorPatterns) (hp : p ∈ x.phrases)
    (hw : s.words = a ++ (wordsOf p ++ b)) :
    ∃ e, a = s.front ++ e ∧ wordsOf s.clause.phrase = e ++ (wordsOf p ++ b) := by
  rw [s.words_eq] at hw
  rcases prefix_cases hw with ⟨e, ha, he⟩ | ⟨e, hne, hf, he⟩
  · exact ⟨e, ha, he⟩
  · obtain ⟨t, e, rfl⟩ := List.exists_cons_of_ne_nil hne
    obtain ⟨u, us, hu⟩ := List.exists_cons_of_ne_nil (wordsOf_ne_nil p)
    have hmem : u ∈ wordsOf p := hu ▸ List.mem_cons_self
    rw [hu] at he
    have htu : u = t := (List.cons.inj he).1
    have hkey := phrases_keywords x hx p hp u hmem
    rw [htu] at hkey
    apply absurd hkey (h.front_words t _)
    rw [hf]
    exact List.mem_append_right _ List.mem_cons_self

theorem Site.Alone.apart (h : Site.Alone s) (hx : x ∈ comparatorPatterns) : Apart x s.words := by
  intro p hp a b _ hw hb
  obtain ⟨e, -, he⟩ := h.within hx hp hw
  have htail : wordsOf p ++ b ∈ (wordsOf s.clause.phrase).tails := by
    rw [List.mem_tails, he]
    exact List.suffix_append _ _
  rcases phrases_inside x hx p hp _ s.clause.listed _ s.clause.phrase_mem _ htail
    (List.prefix_append _ _) with hlen | hnumber
  · rw [List.length_append] at hlen
    have hpos := List.length_pos_iff.2 hb
    omega
  · exact hnumber

theorem Site.Alone.hit_some (h : Site.Alone s) (hx : x ∈ comparatorPatterns)
    (hm : s.hit x = some m) :
    ∃ skipped field p, HitAt x s.words s.clause.value s.behind m skipped field p ∧
      ∃ e, skipped ++ field = s.front ++ e ∧ wordsOf s.clause.phrase = e ++ wordsOf p := by
  obtain ⟨skipped, field, p, hat⟩ := Nlu.hit_some h.block hx (h.apart hx) hm
  have hw : s.words = (skipped ++ field) ++ (wordsOf p ++ []) := by
    rw [List.append_nil, List.append_assoc]
    exact hat.words_eq
  obtain ⟨e, ha, he⟩ := h.within hx hat.phrase_mem hw
  rw [List.append_nil] at he
  exact ⟨skipped, field, p, hat, e, ha, he⟩

theorem Site.Alone.hit_before (h : Site.Alone s) (hpre : comparatorPatterns = pre ++ x :: post)
    (hm : s.hit x = some m) : s.clause.comparator = x ∨ s.clause.comparator ∈ pre := by
  have hx : x ∈ comparatorPatterns := by
    rw [hpre]
    exact List.mem_append_right _ List.mem_cons_self
  obtain ⟨skipped, field, p, hat, e, -, he⟩ := h.hit_some hx hm
  have hlisted := s.clause.listed
  rw [hpre] at hlisted
  rcases List.mem_append.1 hlisted with hc | hc
  · exact .inr hc
  · rcases List.mem_cons.1 hc with hc | hc
    · exact .inl hc
    · have horder := phrases_order
      rw [hpre] at horder
      have hnot := List.rel_of_pairwise_cons (List.pairwise_append.1 horder).2.1 hc p
        hat.phrase_mem s.clause.phrase s.clause.phrase_mem
      exact absurd (he ▸ List.suffix_append e _) hnot

theorem knownSuffix_words (h : knownField field = some canonical) :
    knownSuffix ((wordsOf field).map String.ofList) = some canonical := by
  obtain ⟨t, ts, ht⟩ := List.exists_cons_of_ne_nil (wordsOf_ne_nil field)
  have hjoin : " ".intercalate ((wordsOf field).map String.ofList) = field := by
    rw [intercalate_ofList, joined_wordsOf, String.ofList_toList]
  rw [ht, List.map_cons] at hjoin
  rw [ht, List.map_cons, knownSuffix, hjoin, h]
  rfl

theorem knownField_and (ts : List (List Char)) :
    knownField (" ".intercalate (("and".toList :: ts).map String.ofList)) = none := by
  cases h : knownField (" ".intercalate (("and".toList :: ts).map String.ofList)) with
  | none => rfl
  | some canonical =>
    apply absurd _ (vocabulary_and _ (mem_vocabulary h))
    rw [intercalate_ofList]
    show "and".toList <+: (String.ofList (joined ("and".toList :: ts))).toList
    rw [String.toList_ofList (l := joined _), joined_cons]
    exact List.prefix_append _ _

theorem resolveField_joined (h : ∀ t ∈ ts, IsWord t) :
    resolveField (joined ts) = knownSuffix (ts.map String.ofList) := by
  rw [resolveField, splitWords_joined fun t ht => (h t ht).token]

theorem Site.Alone.resolve (h : Site.Alone s) (hf : skipped ++ field = s.front)
    (hwhole : skipped = [] ∨ field.length = 3) :
    resolveField (joined field) = some s.clause.canonical := by
  have hwords : ∀ t ∈ field, IsWord t := by
    intro t ht
    apply h.block.isWord
    rw [s.words_eq, ← hf]
    exact List.mem_append_left _ (List.mem_append_right _ ht)
  have hlen : (wordsOf s.clause.field).length ≤ 3 :=
    vocabulary_length _ s.clause.field_vocabulary
  have hsmall {us : List (List Char)} (hu : us ++ field = wordsOf s.clause.field)
      (hw : us = [] ∨ field.length = 3) : field = wordsOf s.clause.field := by
    rcases hw with rfl | hthree
    · exact hu
    · rw [← hu, List.length_append] at hlen
      have hus : us = [] := List.eq_nil_iff_length_eq_zero.2 (by omega)
      rw [← hu, hus, List.nil_append]
  have hfield : field = wordsOf s.clause.field ∨
      field = "and".toList :: wordsOf s.clause.field := by
    rcases h.lead_eq with he | he
    · left
      apply hsmall _ hwhole
      rw [hf, Site.front, he, List.nil_append]
    · rw [Site.front, he, List.singleton_append] at hf
      cases skipped with
      | nil => exact .inr hf
      | cons t skipped =>
        left
        exact hsmall (List.cons.inj hf).2 (.inr (hwhole.resolve_left (List.cons_ne_nil t skipped)))
  rw [resolveField_joined hwords]
  rcases hfield with rfl | rfl
  · exact knownSuffix_words s.clause.known
  · rw [List.map_cons, knownSuffix, ← List.map_cons, knownField_and, Option.none_or]
    exact knownSuffix_words s.clause.known

def Site.claim (s : Site w) : Option Claimed :=
  (s.hit s.clause.comparator).bind (claimedBy s.clause.comparator.operator)

theorem isTrailing_lower (h : isLower c = true) : isTrailing c = false := by
  rw [isTrailing, ← Bool.not_eq_true]
  intro ht
  simp only [Bool.or_eq_true, beq_iff_eq] at ht
  rcases ht with ((rfl | rfl) | rfl) | rfl <;> cases h

theorem isTrailing_digit (w : DigitClass) (h : w.isDigit c = true) : isTrailing c = false := by
  rw [isTrailing, ← Bool.not_eq_true]
  intro ht
  simp only [Bool.or_eq_true, beq_iff_eq] at ht
  have hnot (d : Char) (hd : d.toNat < 128) (hd' : d.isDigit = false) : c ≠ d := by
    rintro rfl
    rw [DigitClass.isDigit, w.ascii_digit c hd, hd'] at h
    cases h
  rcases ht with ((ht | ht) | ht) | ht
  · exact hnot '.' (by decide) rfl ht
  · exact hnot ',' (by decide) rfl ht
  · exact hnot '?' (by decide) rfl ht
  · exact hnot '!' (by decide) rfl ht

theorem Readable.last (h : Readable w t) (hne : t ≠ []) :
    Text.isSpace (t.getLast hne) = false ∧ isTrailing (t.getLast hne) = false := by
  refine ⟨h.token.solid _ (List.getLast_mem hne), ?_⟩
  rcases h with h | ⟨-, -, -, -, -, -, -, -, -, hlast⟩
  · exact isTrailing_lower (h.2 _ (List.getLast_mem hne))
  · rw [List.getLast?_eq_some_getLast hne] at hlast
    exact isTrailing_digit w hlast

theorem dropWhile_joined (h : ∀ t ∈ ts, IsToken t) :
    (joined ts).dropWhile Text.isSpace = joined ts := by
  cases ts with
  | nil => rfl
  | cons t ts =>
    have ht := h t List.mem_cons_self
    obtain ⟨c, t, rfl⟩ := List.exists_cons_of_ne_nil ht.ne_nil
    rw [joined_cons, List.cons_append, List.dropWhile_cons_of_neg]
    rw [ht.solid c List.mem_cons_self]
    exact Bool.false_ne_true

theorem joined_concat (ts : List (List Char)) (t : List Char) :
    ∃ front, joined (ts ++ [t]) = front ++ t := by
  cases ts with
  | nil =>
    refine ⟨[], ?_⟩
    rw [List.nil_append, joined_cons, spaced_nil, List.append_nil]
    rfl
  | cons u us =>
    refine ⟨joined (u :: us) ++ [' '], ?_⟩
    rw [joined_append (List.cons_ne_nil u us), spaced_cons, spaced_nil, List.append_nil,
      List.append_assoc]
    rfl

theorem joined_trimmed (h : ∀ t ∈ ts, Readable w t) :
    (Text.stripChars (joined ts)).rdropWhile isTrailing = joined ts := by
  rw [Text.stripChars, dropWhile_joined fun t ht => (h t ht).token]
  rcases List.eq_nil_or_concat' ts with rfl | ⟨us, t, rfl⟩
  · rfl
  · have ht : Readable w t := h t (List.mem_append_right us List.mem_cons_self)
    obtain ⟨front, hfront⟩ := joined_concat us t
    have hlast (p : Char → Bool) (hp : p (t.getLast ht.token.ne_nil) = false) :
        (front ++ t).rdropWhile p = front ++ t := by
      rw [Text.rdropWhile_append ⟨_, List.getLast_mem _, hp⟩, List.rdropWhile_eq_self_iff.2]
      intro hne hl
      rw [hp] at hl
      cases hl
    obtain ⟨hspace, htrailing⟩ := ht.last ht.token.ne_nil
    rw [hfront, hlast _ hspace, hlast _ htrailing]

theorem Clause.value_trimmed (c : Clause w) :
    (Text.stripChars c.value).rdropWhile isTrailing = c.value := by
  have h := joined_trimmed (List.forall_mem_singleton.2 c.readable)
  rwa [joined_cons, spaced_nil, List.append_nil] at h

theorem joined_length_append (words : List (List Char)) (v behind : List Char) :
    ((joined (words ++ [v])).reverse ++ behind).length =
      (joined (words ++ [v])).length + behind.length := by
  rw [List.length_append, List.length_reverse]

theorem Site.Alone.claim_some (h : Site.Alone s) :
    ∃ f, s.claim = some f ∧ f.2.reading = s.clause.reading ∧ s.behind.length ≤ f.1.1 ∧
      f.1.1 < f.1.2 ∧ f.1.2 = s.stop.length := by
  have hfront : s.front ≠ [] := fun he =>
    wordsOf_ne_nil s.clause.field (List.append_eq_nil_iff.1 he).2
  have hblock := h.block
  rw [s.words_eq] at hblock
  obtain ⟨m, hm⟩ := hit_exists hblock hfront s.clause.phrase_mem h.accepts s.behind
  rw [← s.words_eq] at hm
  obtain ⟨skipped, field, p, hat, e, hf, he⟩ := h.hit_some s.clause.listed hm
  have hp : p = s.clause.phrase := phrases_apart _ s.clause.listed p hat.phrase_mem _
    s.clause.phrase_mem (he ▸ List.suffix_append e _)
  rw [hp] at he
  rw [List.self_eq_append_left.1 he, List.append_nil] at hf
  have hfilter : filterOf s.clause.comparator.operator m =
      some ⟨s.clause.canonical, s.clause.comparator.operator, .ofList s.clause.value,
        .ofList (Text.stripChars m.text)⟩ := by
    rw [filterOf, hat.value_eq, h.resolve hf hat.whole]
    show (if _ then _ else _) = _
    rw [s.clause.value_trimmed, if_neg s.clause.readable.token.ne_nil]
  refine ⟨(m.span, ⟨s.clause.canonical, s.clause.comparator.operator, .ofList s.clause.value,
    .ofList (Text.stripChars m.text)⟩), ?_, rfl, hat.start_le, hat.start_lt, ?_⟩
  · rw [Site.claim, Site.hit, hm, Option.bind_some, claimedBy, hfilter]
    rfl
  · rw [Site.stop, joined_length_append]
    exact hat.stop_eq

theorem Separable.tail (h : Separable (c :: cs)) : Separable cs := by
  refine ⟨fun d hd => h.1 d (List.mem_cons_of_mem c hd), fun d hd => h.2 d ?_⟩
  cases cs with
  | nil => cases hd
  | cons e cs => exact List.mem_cons_of_mem c hd

theorem readable_clauseTokens (hlead : ∀ t ∈ lead, Readable w t) (cs : List (Clause w)) :
    ∀ t ∈ clauseTokens lead cs, Readable w t := by
  induction cs generalizing lead with
  | nil => exact List.forall_mem_nil _
  | cons c cs ih =>
    have hand : ∀ t ∈ ["and".toList], Readable w t :=
      List.forall_mem_singleton.2 (.inl and_word.1)
    intro t ht
    rw [clauseTokens, List.append_assoc] at ht
    rcases List.mem_append.1 ht with ht | ht
    · exact hlead t ht
    · rcases List.mem_append.1 ht with ht | ht
      · exact .inl (c.isWord t ht)
      · rcases List.mem_cons.1 ht with rfl | ht
        · exact c.readable
        · exact ih hand t ht

theorem Separable.alone (h : Separable cs) (hlead : lead = [] ∨ lead = ["and".toList])
    (behind : List Char) : ∀ s ∈ sites lead behind cs, Site.Alone s := by
  induction cs generalizing lead behind with
  | nil => exact List.forall_mem_nil _
  | cons c cs ih =>
    refine List.forall_mem_cons.2 ⟨⟨hlead, ?_, ?_, ?_⟩, ih h.tail (.inr rfl) _⟩
    · exact readable_clauseTokens (List.forall_mem_singleton.2 (.inl and_word.1)) cs
    · intro hword
      cases cs with
      | nil => rfl
      | cons d cs => exact absurd hword (h.2 c List.mem_cons_self).not_word
    · show Accepts c.comparator.value c.value
      rw [Accepts]
      split
      · rename_i hword
        exact (c.value_read.resolve_left fun hn => hn.not_word hword).1
      · rename_i hnot
        exact h.1 c List.mem_cons_self (c.value_read.resolve_right fun hw => hnot hw.2)

theorem sites_clauses (lead : List (List Char)) (behind : List Char) (cs : List (Clause w)) :
    (sites lead behind cs).map Site.clause = cs := by
  induction cs generalizing lead behind with
  | nil => rfl
  | cons c cs ih => rw [sites, List.map_cons, ih]

theorem Site.behind_le (s : Site w) : s.behind.length ≤ s.stop.length := by
  rw [Site.stop, joined_length_append]
  exact Nat.le_add_left _ _

theorem sites_behind (lead : List (List Char)) (behind : List Char) (cs : List (Clause w)) :
    ∀ s ∈ sites lead behind cs, behind.length ≤ s.behind.length := by
  induction cs generalizing lead behind with
  | nil => exact List.forall_mem_nil _
  | cons c cs ih =>
    refine List.forall_mem_cons.2 ⟨le_rfl, fun s hs => ?_⟩
    have hle := ih _ _ s hs
    have hstop := (Site.mk c lead behind (clauseTokens ["and".toList] cs)).behind_le
    rw [List.length_cons] at hle
    exact hstop.trans ((Nat.le_succ _).trans hle)

theorem sites_pairwise (lead : List (List Char)) (behind : List Char) (cs : List (Clause w)) :
    (sites lead behind cs).Pairwise fun s t => s.stop.length < t.behind.length := by
  induction cs generalizing lead behind with
  | nil => exact .nil
  | cons c cs ih => exact List.pairwise_cons.2 ⟨sites_behind _ _ cs, ih _ _⟩

theorem finditer_spaced (x : Comparator) (behind : List Char) (us : List (List Char)) :
    finditerFrom (x.pattern w) 0 behind (spaced us) =
      finditerFrom (x.pattern w) 0 (' ' :: behind) (joined us) := by
  cases us with
  | nil =>
    show finditerFrom (x.pattern w) 0 behind [] = finditerFrom (x.pattern w) 0 (' ' :: behind) []
    rw [finditerFrom, finditerFrom, first_comparator_none x rfl, first_comparator_none x rfl]
  | cons u us =>
    rw [spaced_eq (List.cons_ne_nil u us), finditerFrom, first_comparator_none x rfl]

theorem finditer_sites (hx : x ∈ comparatorPatterns) (lead : List (List Char))
    (behind : List Char) (cs : List (Clause w))
    (h : ∀ s ∈ sites lead behind cs, Site.Alone s) :
    finditerFrom (x.pattern w) 0 behind (joined (clauseTokens lead cs)) =
      (sites lead behind cs).flatMap fun s => (s.hit x).toList := by
  induction cs generalizing lead behind with
  | nil =>
    show finditerFrom (x.pattern w) 0 behind [] = []
    rw [finditerFrom, first_comparator_none x rfl]
  | cons c cs ih =>
    obtain ⟨hs, hcs⟩ := List.forall_mem_cons.1 h
    have hblock := finditer_block hs.block hx (hs.apart hx) behind
    rw [finditer_spaced] at hblock
    rw [sites, List.flatMap_cons]
    exact hblock.trans (congrArg _ (ih _ _ hcs))

/-- Clauses that are read alone, each of which ends before the next one. -/
structure Separate (S : List (Site w)) : Prop where
  alone : ∀ s ∈ S, Site.Alone s
  apart : S.Pairwise fun s t => s.stop.length < t.behind.length

theorem Separate.claims_apart (h : Separate S) (hs : s ∈ S) (ht : t ∈ S)
    (hf : s.claim = some f) (hg : t.claim = some g) (ho : overlaps f.1 g.1 = true) : f = g := by
  have hsymm : Std.Symm fun s t : Site w => ∀ f g, s.claim = some f → t.claim = some g →
      overlaps f.1 g.1 = true → f = g :=
    ⟨fun s t h f g hf hg ho => (h g f hg hf ((overlaps_comm _ _).trans ho)).symm⟩
  have hpairs : S.Pairwise fun s t : Site w => ∀ f g, s.claim = some f → t.claim = some g →
      overlaps f.1 g.1 = true → f = g := by
    apply h.apart.imp_of_mem
    intro s t hs ht hlt f g hf hg ho
    obtain ⟨f', hf', -, -, -, hstop⟩ := (h.alone s hs).claim_some
    obtain ⟨g', hg', -, hstart, -, -⟩ := (h.alone t ht).claim_some
    rw [hf, Option.some.injEq] at hf'
    rw [hg, Option.some.injEq] at hg'
    rw [overlaps, Bool.and_eq_true, decide_eq_true_eq, decide_eq_true_eq, hf', hg'] at ho
    omega
  apply hpairs.forall_of_forall _ hs ht f g hf hg ho
  intro s _ f g hf hg _
  rw [hf, Option.some.injEq] at hg
  exact hg

/-- The filters found with some comparators are those of their clauses. -/
structure Visited (S : List (Site w)) (table : List Comparator) (found : List Claimed) : Prop where
  sound : ∀ f ∈ found, ∃ s ∈ S, s.claim = some f
  complete : ∀ s ∈ S, s.clause.comparator ∈ table → ∀ f, s.claim = some f → f ∈ found

theorem subset_addFilter (operator : ComparisonOperator) (found : List Claimed)
    (m : Match (List Char × List Char)) : found ⊆ addFilter operator found m := by
  rcases addFilter_cases operator found m with ⟨-, -, -, he⟩ | ⟨-, he⟩
  · rw [he]
    exact List.Subset.refl found
  · rw [he]
    exact List.subset_append_left _ _

def visit (x : Comparator) (found : List Claimed) (s : Site w) : List Claimed :=
  (s.hit x).toList.foldl (addFilter x.operator) found

theorem subset_visit (x : Comparator) (found : List Claimed) (s : Site w) :
    found ⊆ visit x found s := by
  rw [visit]
  cases s.hit x with
  | none => exact List.Subset.refl found
  | some m => exact subset_addFilter _ _ _

theorem Visited.mono (h : Visited S table found) (hsub : found ⊆ found')
    (hsound : ∀ f ∈ found', ∃ s ∈ S, s.claim = some f) : Visited S table found' :=
  ⟨hsound, fun s hs hc f hf => hsub (h.complete s hs hc f hf)⟩

theorem Visited.visit_other (h : Visited S pre found) (hS : Separate S) (hs : s ∈ S)
    (hpre : comparatorPatterns = pre ++ x :: post) (hc : s.clause.comparator ∈ pre) :
    visit x found s = found := by
  have hx : x ∈ comparatorPatterns := by
    rw [hpre]
    exact List.mem_append_right _ List.mem_cons_self
  rw [visit]
  cases hm : s.hit x with
  | none => rfl
  | some m =>
    obtain ⟨f, hf, -, -, hlt, hstop⟩ := (hS.alone s hs).claim_some
    obtain ⟨skipped, field, p, hat, -⟩ := (hS.alone s hs).hit_some hx hm
    apply addFilter_taken (h.complete s hs hc f hf)
    have hend := hat.stop_eq
    have hstart := hat.start_lt
    rw [Site.stop, joined_length_append] at hstop
    rw [overlaps, Bool.and_eq_true, decide_eq_true_eq, decide_eq_true_eq]
    omega

theorem Visited.visit_own (h : Visited S pre found) (hS : Separate S) (hs : s ∈ S)
    (hc : s.clause.comparator = x) :
    Visited S pre (visit x found s) ∧ ∀ f, s.claim = some f → f ∈ visit x found s := by
  obtain ⟨f, hf, -⟩ := (hS.alone s hs).claim_some
  have hclaim := hf
  rw [Site.claim, hc] at hclaim
  obtain ⟨m, hm, hmf⟩ := Option.bind_eq_some_iff.1 hclaim
  have hspan := (mem_claimedBy (Option.mem_toList.2 hmf)).1
  have hvisit : visit x found s = addFilter x.operator found m := by
    rw [visit, hm]
    rfl
  rw [hvisit, hf]
  rcases addFilter_cases x.operator found m with ⟨g, hg, ho, he⟩ | ⟨-, he⟩
  · rw [he]
    refine ⟨h, fun f' hf' => ?_⟩
    obtain ⟨t, ht, htg⟩ := h.sound g hg
    rw [← Option.some.inj hf', hS.claims_apart hs ht hf htg (hspan ▸ ho)]
    exact hg
  · rw [he, hmf]
    refine ⟨h.mono (List.subset_append_left _ _) fun f' hf' => ?_, fun f' hf' => ?_⟩
    · rcases List.mem_append.1 hf' with hf' | hf'
      · exact h.sound f' hf'
      · rw [List.mem_singleton.1 hf']
        exact ⟨s, hs, hf⟩
    · rw [← Option.some.inj hf']
      exact List.mem_append_right _ List.mem_cons_self

theorem Visited.step (h : Visited S pre found) (hS : Separate S) (hs : s ∈ S)
    (hpre : comparatorPatterns = pre ++ x :: post) :
    Visited S pre (visit x found s) ∧
      (s.clause.comparator = x → ∀ f, s.claim = some f → f ∈ visit x found s) := by
  cases hm : s.hit x with
  | none =>
    have hvisit : visit x found s = found := by
      rw [visit, hm]
      rfl
    refine ⟨hvisit.symm ▸ h, fun hc => (h.visit_own hS hs hc).2⟩
  | some m =>
    rcases (hS.alone s hs).hit_before hpre hm with hc | hc
    · exact ⟨(h.visit_own hS hs hc).1, fun _ => (h.visit_own hS hs hc).2⟩
    · rw [h.visit_other hS hs hpre hc]
      exact ⟨h, fun _ => h.complete s hs hc⟩

theorem Visited.run (h : Visited S pre found) (hS : Separate S)
    (hpre : comparatorPatterns = pre ++ x :: post) (more : List (Site w)) (hmore : more ⊆ S) :
    Visited S pre (more.foldl (visit x) found) ∧
      found ⊆ more.foldl (visit x) found ∧
      ∀ s ∈ more, s.clause.comparator = x → ∀ f, s.claim = some f →
        f ∈ more.foldl (visit x) found := by
  induction more generalizing found with
  | nil => exact ⟨h, List.Subset.refl found, List.forall_mem_nil _⟩
  | cons s more ih =>
    obtain ⟨hs, hmore⟩ := List.cons_subset.1 hmore
    obtain ⟨hnext, hown⟩ := h.step hS hs hpre
    obtain ⟨hrun, hsub, hothers⟩ := ih hnext hmore
    refine ⟨hrun, List.Subset.trans (subset_visit x found s) hsub,
      List.forall_mem_cons.2 ⟨fun hc f hf => hsub (hown hc f hf), hothers⟩⟩

variable {S : List (Site w)} {cs : List (Clause w)}

theorem Visited.table (h : Visited S pre found) (hS : Separate S)
    (hpre : comparatorPatterns = pre ++ post)
    (htext : ∀ x ∈ comparatorPatterns,
      finditer (x.pattern w) text = S.flatMap fun s => (s.hit x).toList) :
    Visited S comparatorPatterns (post.foldl (addComparator w text) found) := by
  induction post generalizing pre found with
  | nil =>
    rw [hpre, List.append_nil]
    exact h
  | cons x post ih =>
    have hx : x ∈ comparatorPatterns := by
      rw [hpre]
      exact List.mem_append_right _ List.mem_cons_self
    have hadd : addComparator w text found x = S.foldl (visit x) found := by
      rw [addComparator, htext x hx, List.foldl_flatMap]
      rfl
    obtain ⟨hrun, hsub, hown⟩ := h.run hS hpre S (List.Subset.refl S)
    rw [List.foldl_cons, hadd]
    have hnext : comparatorPatterns = (pre ++ [x]) ++ post := by
      rw [hpre, List.append_assoc]
      rfl
    apply ih _ hnext
    refine ⟨hrun.sound, fun s hs hc f hf => ?_⟩
    rcases List.mem_append.1 hc with hc | hc
    · exact hsub (h.complete s hs hc f hf)
    · exact hown s hs (List.mem_singleton.1 hc) f hf

theorem Separable.separate (h : Separable cs) : Separate (sites [] [] cs) :=
  ⟨h.alone (.inl rfl) [], sites_pairwise [] [] cs⟩

theorem Separable.visited (h : Separable cs) :
    Visited (sites [] [] cs) comparatorPatterns
      (findFilters w (conjunction cs).toList) := by
  have hnil : Visited (sites [] [] cs) [] [] :=
    ⟨List.forall_mem_nil _, fun s _ hc => absurd hc List.not_mem_nil⟩
  apply hnil.table h.separate rfl
  intro x hx
  rw [conjunction_toList]
  exact finditer_sites hx [] [] cs h.separate.alone

def Claimed.Before (f g : Claimed) : Prop := f.1.1 < g.1.1

instance : Std.Irrefl Claimed.Before := ⟨fun f => Nat.lt_irrefl f.1.1⟩

instance : Std.Antisymm Claimed.Before := ⟨fun _ _ h h' => absurd h (Nat.lt_asymm h')⟩

theorem Separate.claims_before (h : Separate S) :
    (S.filterMap Site.claim).Pairwise Claimed.Before := by
  rw [List.pairwise_filterMap]
  apply h.apart.imp_of_mem
  intro s t hs ht hlt f hf g hg
  obtain ⟨f', hf', -, -, hf₁, hf₂⟩ := (h.alone s hs).claim_some
  obtain ⟨g', hg', -, hg₁, -, -⟩ := (h.alone t ht).claim_some
  rw [hf, Option.some.injEq] at hf'
  rw [hg, Option.some.injEq] at hg'
  rw [Claimed.Before, hf', hg']
  omega

theorem Separate.readings (h : Separate S) :
    (S.filterMap Site.claim).map (fun f => f.2.reading) = S.map fun s => s.clause.reading := by
  have halone := h.alone
  clear h
  induction S with
  | nil => rfl
  | cons s S ih =>
    obtain ⟨hs, hS⟩ := List.forall_mem_cons.1 halone
    obtain ⟨f, hf, hr, -⟩ := hs.claim_some
    rw [List.filterMap_cons_some hf, List.map_cons, List.map_cons, ih hS, hr]

theorem inOrder_before (hd : Claimed.Disjoint found) (hlt : ∀ f ∈ found, f.1.1 < f.1.2) :
    (inOrder found).Pairwise Claimed.Before := by
  apply ((inOrder_disjoint hd).and (inOrder_sorted found)).imp_of_mem
  rintro f g hf hg ⟨ho, hle⟩
  have hf' := hlt f ((inOrder_perm found).mem_iff.1 hf)
  have hg' := hlt g ((inOrder_perm found).mem_iff.1 hg)
  rw [overlaps, Bool.and_eq_false_iff, decide_eq_false_iff_not, decide_eq_false_iff_not] at ho
  show f.1.1 < g.1.1
  omega

/-- A separable conjunction is read clause by clause. -/
theorem extractFilters_conjunction (cs : List (Clause w)) (h : Separable cs) :
    (extractFilters w (conjunction cs)).map FilterExpression.reading = cs.map Clause.reading := by
  have hvisited := h.visited
  have hlt : ∀ f ∈ findFilters w (conjunction cs).toList, f.1.1 < f.1.2 := by
    intro f hf
    obtain ⟨s, hs, hsf⟩ := hvisited.sound f hf
    obtain ⟨f', hf', -, -, hlt, -⟩ := (h.separate.alone s hs).claim_some
    rw [hsf, Option.some.injEq] at hf'
    rw [hf']
    exact hlt
  have hsites : inOrder (findFilters w (conjunction cs).toList) =
      (sites [] [] cs).filterMap Site.claim := by
    apply (inOrder_before (findFilters_read w _).disjoint hlt).eq_of_mem_iff
      h.separate.claims_before
    intro f
    rw [(inOrder_perm _).mem_iff, List.mem_filterMap]
    refine ⟨hvisited.sound f, ?_⟩
    rintro ⟨s, hs, hf⟩
    exact hvisited.complete s hs s.clause.listed f hf
  rw [extractFilters_eq, hsites, List.map_map]
  have hclauses := congrArg (List.map Clause.reading) (sites_clauses [] [] cs)
  rw [List.map_map] at hclauses
  exact h.separate.readings.trans hclauses

end

end QueryMind.Nlu
