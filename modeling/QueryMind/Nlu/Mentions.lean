import Mathlib.Data.List.Pairwise
import Mathlib.Order.Bounds.Basic
import QueryMind.Lib.Words
import QueryMind.Nlu.Vocabulary

namespace QueryMind.Nlu
open Lib Lib.Pattern
set_option autoImplicit true

def VocabularyMatch.span (m : VocabularyMatch) : Nat × Nat :=
  (m.position, m.position + m.matched.length)

section Standing
variable (w : WordClass) (text phrase : List Char)

/-- The text splits at the phrase, between word boundaries. -/
def OccursAt (place : Nat) : Prop :=
  ∃ before after, text = before ++ (phrase ++ after) ∧ before.length = place ∧
    before.getLast?.any w.isWord ≠ (phrase ++ after).head?.any w.isWord ∧
    (before ++ phrase).getLast?.any w.isWord ≠ after.head?.any w.isWord

/-- The places that a search for the phrase visits from left to right: where it stands and does not
overlap where it was visited before. -/
def VisitedAt (place : Nat) : Prop :=
  OccursAt w text phrase place ∧
    ∀ earlier, (_ : earlier < place) → VisitedAt earlier → earlier + phrase.length ≤ place
termination_by place

end Standing

/-- A phrase takes its first place that is visited and free of what was taken before, unless its
name has been found. -/
def takes (w : WordClass) (text : List Char) (before : Set VocabularyMatch) (p : String × String) :
    Set VocabularyMatch :=
  {m | m.name = p.2 ∧ m.matched = p.1 ∧ (∀ m' ∈ before, m'.name ≠ p.2) ∧
    IsLeast {place | VisitedAt w text p.1.toList place ∧
      ∀ m' ∈ before, overlaps (place, place + p.1.length) m'.span = false} m.position}

/-- What phrases take of a text, first come, first served. -/
def taken (w : WordClass) (text : List Char) (phrases : List (String × String)) :
    Set VocabularyMatch :=
  phrases.foldl (fun before p => before ∪ takes w text before p) ∅

def findNext (w : WordClass) (text : List Char) (found : List VocabularyMatch)
    (p : String × String) : List VocabularyMatch :=
  if found.any fun m => m.name == p.2 then found
  else
    match firstFree w text (found.map VocabularyMatch.span) p.1 with
    | some m => found ++ [⟨p.2, m.span.1, .ofList m.text⟩]
    | none => found

/-- What the loop has found when it comes to a phrase, from the phrases before it. -/
def foundBy (w : WordClass) (text : List Char) (phrases : List (String × String)) :
    List VocabularyMatch := phrases.foldl (findNext w text) []

theorem mem_phrasePattern {w : WordClass} (h : r ∈ phrasePattern w phrase c) :
    ∃ v, c.ahead = phrase.toList ++ v ∧ r.2 = ⟨phrase.toList.reverse ++ c.behind, v⟩ ∧
      c.behind.head?.any w.isWord ≠ c.ahead.head?.any w.isWord ∧
      (phrase.toList.reverse ++ c.behind).head?.any w.isWord ≠ v.head?.any w.isWord := by
  obtain ⟨q₁, h₁, h⟩ := mem_bind.1 h
  obtain ⟨q₂, h₂, h₃⟩ := mem_bind.1 h
  obtain ⟨he₁, hl⟩ := mem_boundary.1 h₁
  obtain ⟨he₃, hr⟩ := mem_boundary.1 h₃
  rw [he₁] at h₂
  obtain ⟨v, hv, hq⟩ := mem_literal.1 h₂
  rw [hq] at he₃ hr
  exact ⟨v, hv, he₃, hl, hr⟩

theorem first_phrasePattern {w : WordClass} {behind v : List Char} {phrase : String}
    (hl : behind.head?.any w.isWord ≠ (phrase.toList ++ v).head?.any w.isWord)
    (hr : (phrase.toList.reverse ++ behind).head?.any w.isWord ≠ v.head?.any w.isWord) :
    first (phrasePattern w phrase) ⟨behind, phrase.toList ++ v⟩ =
      some ((), ⟨phrase.toList.reverse ++ behind, v⟩) := by
  rw [phrasePattern, first_boundary_bind, if_neg (by rw [beq_iff_eq]; exact hl),
    first_literal_bind, if_pos (List.prefix_append _ _), List.take_left, List.drop_left, first,
    boundary, if_neg (by rw [beq_iff_eq]; exact hr)]
  rfl

theorem phrase_text (h : m ∈ finditer (phrasePattern w phrase) text) :
    m.text = phrase.toList ∧ m.span.2 = m.span.1 + phrase.length := by
  obtain ⟨v, hv, hs, -⟩ := mem_phrasePattern (le_of_mem_finditerFrom h).2
  have hs' : m.stop = ⟨phrase.toList.reverse ++ m.start.behind, v⟩ := hs
  constructor
  · rw [Match.text, Cursor.textTo, hs', hv, List.length_append, Nat.add_sub_cancel,
      List.take_left]
  · show m.stop.behind.length = m.start.behind.length + phrase.length
    rw [hs', List.length_append, List.length_reverse, String.length_toList]
    omega

theorem span_matched (h : m ∈ finditer (phrasePattern w phrase) text) (name : String) :
    (⟨name, m.span.1, .ofList m.text⟩ : VocabularyMatch).span = m.span := by
  obtain ⟨ht, hs⟩ := phrase_text h
  show (m.span.1, m.span.1 + (String.ofList m.text).length) = m.span
  rw [ht, String.ofList_toList, ← hs]

theorem Stands.occursAt (h : Stands (phrasePattern w phrase) [] text m) :
    OccursAt w text phrase.toList m.start.behind.length ∧
      m.start.behind.length + m.start.ahead.length = text.length ∧
      m.start.behind.length + phrase.length + m.stop.ahead.length = text.length := by
  obtain ⟨before, rest, rfl, hm, hp⟩ := h
  obtain ⟨after, ha, hs, hl, hr⟩ := mem_phrasePattern (mem_of_first hp)
  have hs' : m.stop.ahead = after := congrArg Cursor.ahead hs
  rw [hm] at ha hl hr ⊢
  rw [hs']
  dsimp only at ha hl hr ⊢
  rw [List.append_nil] at hl hr ⊢
  rw [ha] at hl ⊢
  rw [List.head?_reverse] at hl
  rw [← List.reverse_append, List.head?_reverse] at hr
  simp only [List.length_reverse, List.length_append, String.length_toList]
  exact ⟨⟨before, after, rfl, rfl, hl, hr⟩, trivial, by omega⟩

theorem OccursAt.stands (h : OccursAt w text phrase.toList place) :
    ∃ m, Stands (phrasePattern w phrase) [] text m ∧ m.start.behind.length = place := by
  obtain ⟨before, after, rfl, rfl, hl, hr⟩ := h
  rw [← List.head?_reverse] at hl
  rw [← List.head?_reverse, List.reverse_append] at hr
  refine ⟨⟨(), ⟨before.reverse, phrase.toList ++ after⟩,
    ⟨phrase.toList.reverse ++ before.reverse, after⟩⟩, ?_, List.length_reverse⟩
  refine ⟨before, phrase.toList ++ after, rfl, ?_, first_phrasePattern hl hr⟩
  rw [List.append_nil]

theorem apart_of_mem (hm : m ∈ finditer (phrasePattern w phrase) text)
    (hn : n ∈ finditer (phrasePattern w phrase) text) (hlt : m.span.1 < n.span.1) :
    m.span.1 + phrase.length ≤ n.span.1 := by
  have hboth := (pairwise_finditerFrom (phrasePattern w phrase) 0 [] text).and
    (apart_finditerFrom (phrasePattern w phrase) 0 [] text)
  have hsymm : Std.Symm fun m n : Match Unit =>
      (m.start.behind.length < n.start.behind.length →
        n.start.ahead.length ≤ m.stop.ahead.length) ∧
      (n.start.behind.length < m.start.behind.length →
        m.start.ahead.length ≤ n.stop.ahead.length) := ⟨fun m n h => ⟨h.2, h.1⟩⟩
  have hpair := hboth.imp fun {m n} h => show
      (m.start.behind.length < n.start.behind.length →
        n.start.ahead.length ≤ m.stop.ahead.length) ∧
      (n.start.behind.length < m.start.behind.length →
        m.start.ahead.length ≤ n.stop.ahead.length) from
    ⟨fun _ => h.2, fun hlt => absurd hlt (Nat.lt_asymm h.1)⟩
  have hne : m ≠ n := by
    rintro rfl
    exact Nat.lt_irrefl _ hlt
  have hle := (hpair.forall hm hn hne).1 hlt
  have hlm := (Stands.occursAt (stands_of_mem hm)).2.2
  have hln := (Stands.occursAt (stands_of_mem hn)).2.1
  show m.start.behind.length + phrase.length ≤ n.start.behind.length
  omega

/-- The search for a phrase finds the places that it visits. -/
theorem visitedAt_iff : VisitedAt w text phrase.toList place ↔
    ∃ s ∈ finditer (phrasePattern w phrase) text, s.span.1 = place := by
  induction place using Nat.strong_induction_on with
  | h place ih =>
    rw [VisitedAt]
    constructor
    · rintro ⟨ho, hvisited⟩
      obtain ⟨m, hm, rfl⟩ := ho.stands
      have hpast : m.start.ahead.length + 0 ≤ text.length := by
        rw [← (Stands.occursAt hm).2.1]
        exact Nat.le_add_left _ _
      rcases Stands.found_or_covered hm hpast with hmem | ⟨n, hn, hstop, hstart⟩
      · exact ⟨m, hmem, rfl⟩
      · obtain ⟨-, hln, hln'⟩ := Stands.occursAt (stands_of_mem hn)
        have hlm := (Stands.occursAt hm).2.1
        have hlt : n.span.1 < m.start.behind.length := by
          show n.start.behind.length < _
          omega
        have hle := hvisited _ hlt ((ih _ hlt).2 ⟨n, hn, rfl⟩)
        rw [String.length_toList] at hle
        have hle' : n.start.behind.length + phrase.length ≤ m.start.behind.length := hle
        omega
    · rintro ⟨s, hs, rfl⟩
      refine ⟨(Stands.occursAt (stands_of_mem hs)).1, ?_⟩
      intro earlier hlt hv
      obtain ⟨n, hn, rfl⟩ := (ih _ hlt).1 hv
      rw [String.length_toList]
      exact apart_of_mem hn hs hlt

theorem firstFree_mem (h : firstFree w text claimed phrase = some m) :
    m ∈ finditer (phrasePattern w phrase) text := List.mem_of_find?_eq_some h

theorem findPhrases_eq (w : WordClass) (text : List Char) (found : List VocabularyMatch)
    (phrases : List (String × String)) :
    findPhrases w text (found.map VocabularyMatch.span) found phrases =
      phrases.foldl (findNext w text) found := by
  induction phrases generalizing found with
  | nil => rfl
  | cons p phrases ih =>
    obtain ⟨phrase, name⟩ := p
    rw [findPhrases, List.foldl_cons, findNext]
    split
    · exact ih found
    · cases hf : firstFree w text (found.map VocabularyMatch.span) phrase with
      | none => exact ih found
      | some m =>
        dsimp only
        rw [← ih, List.map_append, List.map_singleton, span_matched (firstFree_mem hf)]

theorem findVocabularyMatches_perm (w : WordClass) (text : List Char)
    (vocabulary : List (String × String)) :
    (findVocabularyMatches w text vocabulary).Perm (foundBy w text (byLength vocabulary)) := by
  rw [findVocabularyMatches]
  have he := findPhrases_eq w text [] (byLength vocabulary)
  rw [List.map_nil] at he
  rw [he]
  exact List.perm_insertionSort _ _

theorem overlaps_comm (s t : Nat × Nat) : overlaps s t = overlaps t s := Bool.and_comm _ _

/-- What holds of the matches found from some phrases. -/
structure Found (w : WordClass) (text : List Char) (phrases : List (String × String))
    (found : List VocabularyMatch) : Prop where
  names : (found.map VocabularyMatch.name).Nodup
  disjoint : found.Pairwise fun m n => overlaps m.span n.span = false
  listed : ∀ m ∈ found, (m.matched, m.name) ∈ phrases
  occurs : ∀ m ∈ found, OccursAt w text m.matched.toList m.position

theorem Found.add (h : Found w text phrases found) (hn : ∀ m ∈ found, m.name ≠ p.2)
    (hf : firstFree w text (found.map VocabularyMatch.span) p.1 = some m) :
    Found w text (phrases ++ [p]) (found ++ [⟨p.2, m.span.1, .ofList m.text⟩]) := by
  have hm := firstFree_mem hf
  have ht : String.ofList m.text = p.1 := by rw [(phrase_text hm).1, String.ofList_toList]
  have hs := span_matched hm p.2
  have hfree := List.find?_some hf
  simp only [List.any_map, Bool.not_eq_true', List.any_eq_false, Function.comp_apply,
    Bool.not_eq_true] at hfree
  refine ⟨?_, ?_, ?_, ?_⟩
  · rw [List.map_append, List.map_singleton, List.nodup_append]
    refine ⟨h.names, List.nodup_singleton _, ?_⟩
    intro x hx y hy hxy
    obtain ⟨m', hm', rfl⟩ := List.mem_map.1 hx
    exact hn m' hm' (hxy.trans (List.mem_singleton.1 hy))
  · refine List.pairwise_append.2 ⟨h.disjoint, List.pairwise_singleton _ _, ?_⟩
    intro m' hm' x hx
    rw [List.mem_singleton.1 hx, hs, overlaps_comm]
    exact hfree m' hm'
  · intro m' hm'
    rcases List.mem_append.1 hm' with hm' | hm'
    · exact List.mem_append_left _ (h.listed m' hm')
    · rw [List.mem_singleton.1 hm']
      dsimp only
      rw [ht]
      exact List.mem_append_right _ (List.mem_singleton.2 rfl)
  · intro m' hm'
    rcases List.mem_append.1 hm' with hm' | hm'
    · exact h.occurs m' hm'
    · rw [List.mem_singleton.1 hm']
      dsimp only
      rw [ht]
      exact (Stands.occursAt (stands_of_mem hm)).1

theorem Found.next (h : Found w text phrases found) (p : String × String) :
    Found w text (phrases ++ [p]) (findNext w text found p) := by
  have hlisted : ∀ m ∈ found, (m.matched, m.name) ∈ phrases ++ [p] :=
    fun m hm => List.mem_append_left _ (h.listed m hm)
  rw [findNext]
  split
  · exact ⟨h.names, h.disjoint, hlisted, h.occurs⟩
  · rename_i hn
    cases hf : firstFree w text (found.map VocabularyMatch.span) p.1 with
    | none => exact ⟨h.names, h.disjoint, hlisted, h.occurs⟩
    | some m =>
      apply h.add _ hf
      intro m' hm' he
      exact hn (List.any_eq_true.2 ⟨m', hm', beq_iff_eq.2 he⟩)

theorem foundBy_concat (w : WordClass) (text : List Char) (phrases : List (String × String))
    (p : String × String) :
    foundBy w text (phrases ++ [p]) = findNext w text (foundBy w text phrases) p := by
  rw [foundBy, List.foldl_append]
  rfl

theorem found_foundBy (w : WordClass) (text : List Char) (phrases : List (String × String)) :
    Found w text phrases (foundBy w text phrases) := by
  induction phrases using List.reverseRecOn with
  | nil => exact ⟨.nil, .nil, fun m hm => absurd hm List.not_mem_nil,
      fun m hm => absurd hm List.not_mem_nil⟩
  | append_singleton phrases p ih =>
    rw [foundBy_concat]
    exact ih.next p

/-- A phrase of the name stands there as a whole word, outside of the matched phrases of other names
that were tried before it: the longer ones, and those of its length that are listed before it. -/
def Mention (w : WordClass) (text : List Char) (vocabulary : List (String × String))
    (name : String) (place : Nat) : Prop :=
  ∃ pre phrase post, byLength vocabulary = pre ++ (phrase, name) :: post ∧
    OccursAt w text phrase.toList place ∧
      ∀ m ∈ findVocabularyMatches w text vocabulary, m.name ≠ name →
        (m.matched, m.name) ∈ pre → overlaps (place, place + phrase.length) m.span = false

/-- Every name that is mentioned has a match, where it is mentioned first. -/
def Earliest (w : WordClass) (text : List Char) (vocabulary : List (String × String)) : Prop :=
  ∀ name place, Mention w text vocabulary name place →
    ∃ m ∈ findVocabularyMatches w text vocabulary, m.name = name ∧ m.position ≤ place

/-- A phrase stands free of what others took before it, and is missed. -/
inductive Missed (w : WordClass) (text : List Char) (vocabulary : List (String × String)) : Prop
  /-- Its name was taken before, further on in the text. -/
  | skipped (he : byLength vocabulary = pre ++ (phrase, name) :: post)
      (ho : OccursAt w text phrase.toList place)
      (hfree : ∀ m ∈ taken w text pre, m.name ≠ name →
        overlaps (place, place + phrase.length) m.span = false)
      (hm : m ∈ taken w text pre) (hn : m.name = name) (hlt : place < m.position)
  /-- The search does not visit it, and from there on no phrase of its name visits a free place that
  is not further on. -/
  | passedOver (he : byLength vocabulary = pre ++ (phrase, name) :: post)
      (ho : OccursAt w text phrase.toList place)
      (hfree : ∀ m ∈ taken w text pre, m.name ≠ name ∧
        overlaps (place, place + phrase.length) m.span = false)
      (hblocked : ∀ between phrase' post',
        (phrase, name) :: post = between ++ (phrase', name) :: post' →
          ∀ place' ≤ place, VisitedAt w text phrase'.toList place' →
            ∃ m ∈ taken w text (pre ++ between),
              overlaps (place', place' + phrase'.length) m.span = true)

theorem find?_earliest {l : List α} {f : α → Nat} {p : α → Bool}
    (hl : l.Pairwise fun a b => f a < f b)
    (hs : s ∈ l) (hp : p s = true) : ∃ m, l.find? p = some m ∧ f m ≤ f s := by
  induction l with
  | nil => cases hs
  | cons a l ih =>
    obtain ⟨ha, hl⟩ := List.pairwise_cons.1 hl
    by_cases hpa : p a = true
    · refine ⟨a, List.find?_cons_of_pos hpa, ?_⟩
      rcases List.mem_cons.1 hs with rfl | hs
      · exact le_refl _
      · exact (ha s hs).le
    · rw [List.find?_cons_of_neg hpa]
      rcases List.mem_cons.1 hs with rfl | hs
      · exact absurd hp hpa
      · exact ih hl hs

theorem claimed_free {found : List VocabularyMatch} {s : Nat × Nat}
    (h : ∀ m ∈ found, overlaps s m.span = false) :
    ∀ t ∈ found.map VocabularyMatch.span, overlaps s t = false := by
  intro t ht
  obtain ⟨m, hm, rfl⟩ := List.mem_map.1 ht
  exact h m hm

theorem firstFree_earliest (hv : VisitedAt w text phrase.toList place)
    (hfree : ∀ t ∈ claimed, overlaps (place, place + phrase.length) t = false) :
    ∃ m, firstFree w text claimed phrase = some m ∧ m.span.1 ≤ place := by
  obtain ⟨s, hs, rfl⟩ := visitedAt_iff.1 hv
  apply find?_earliest (pairwise_finditerFrom _ _ _ _) hs
  rw [Bool.not_eq_true', List.any_eq_false]
  intro t ht
  have ht' := hfree t ht
  rw [← (phrase_text hs).2] at ht'
  rw [ht']
  exact Bool.false_ne_true

theorem firstFree_isLeast {found : List VocabularyMatch}
    (h : firstFree w text (found.map VocabularyMatch.span) phrase = some s) :
    IsLeast {place | VisitedAt w text phrase.toList place ∧
      ∀ m ∈ found, overlaps (place, place + phrase.length) m.span = false} s.span.1 := by
  have hs := firstFree_mem h
  constructor
  · refine ⟨visitedAt_iff.2 ⟨s, hs, rfl⟩, fun m hm => ?_⟩
    have hfree := List.find?_some h
    rw [Bool.not_eq_true', List.any_eq_false] at hfree
    rw [← (phrase_text hs).2, ← Bool.not_eq_true]
    exact hfree _ (List.mem_map_of_mem hm)
  · rintro place ⟨hv, hfree⟩
    obtain ⟨s', hs', hle⟩ := firstFree_earliest hv (claimed_free hfree)
    rw [h] at hs'
    cases hs'
    exact hle

theorem matches_disjoint (w : WordClass) (text : List Char) (vocabulary : List (String × String)) :
    (findVocabularyMatches w text vocabulary).Pairwise
      fun m n => overlaps m.span n.span = false := by
  have hs : ∀ m n : VocabularyMatch, overlaps m.span n.span = false →
      overlaps n.span m.span = false := fun m n h => (overlaps_comm _ _).trans h
  exact ((findVocabularyMatches_perm w text vocabulary).pairwise_iff (@hs)).2
    (found_foundBy w text _).disjoint

theorem matches_names (w : WordClass) (text : List Char) (vocabulary : List (String × String)) :
    ((findVocabularyMatches w text vocabulary).map VocabularyMatch.name).Nodup :=
  ((findVocabularyMatches_perm w text vocabulary).map _).nodup_iff.2 (found_foundBy w text _).names

theorem matches_sorted (w : WordClass) (text : List Char) (vocabulary : List (String × String)) :
    (findVocabularyMatches w text vocabulary).Pairwise fun m n => m.position ≤ n.position := by
  have ht : Std.Total fun m n : VocabularyMatch => m.position ≤ n.position :=
    ⟨fun m n => Nat.le_total _ _⟩
  have hi : IsTrans VocabularyMatch fun m n => m.position ≤ n.position :=
    ⟨fun _ _ _ => Nat.le_trans⟩
  exact List.pairwise_insertionSort _ _

theorem mem_findNext : m ∈ findNext w text found p ↔
    m ∈ found ∨ m ∈ takes w text {m' | m' ∈ found} p := by
  obtain ⟨phrase, name⟩ := p
  rw [findNext]
  split
  · rename_i hany
    obtain ⟨m', hm', hn⟩ := List.any_eq_true.1 hany
    constructor
    · exact .inl
    · rintro (hm | ⟨-, -, hnew, -⟩)
      · exact hm
      · exact absurd (beq_iff_eq.1 hn) (hnew m' hm')
  · rename_i hany
    have hnew : ∀ m' ∈ found, m'.name ≠ name := fun m' hm' hn =>
      hany (List.any_eq_true.2 ⟨m', hm', beq_iff_eq.2 hn⟩)
    cases hf : firstFree w text (found.map VocabularyMatch.span) phrase with
    | none =>
      constructor
      · exact .inl
      · rintro (hm | ⟨-, -, -, ⟨hv, hfree⟩, -⟩)
        · exact hm
        · obtain ⟨s, hs, hle⟩ := firstFree_earliest hv (claimed_free hfree)
          rw [hf] at hs
          cases hs
    | some s =>
      have hleast := firstFree_isLeast hf
      have ht : String.ofList s.text = phrase := by
        rw [(phrase_text (firstFree_mem hf)).1, String.ofList_toList]
      rw [List.mem_append, List.mem_singleton, ht]
      apply or_congr_right
      constructor
      · rintro rfl
        exact ⟨rfl, rfl, hnew, hleast⟩
      · rintro ⟨hn, ht', -, hleast'⟩
        obtain ⟨mname, position, matched⟩ := m
        cases hn
        cases ht'
        exact congrArg (VocabularyMatch.mk name · phrase) (hleast'.unique hleast)

theorem taken_concat (w : WordClass) (text : List Char) (phrases : List (String × String))
    (p : String × String) : taken w text (phrases ++ [p]) =
      taken w text phrases ∪ takes w text (taken w text phrases) p := by
  rw [taken, List.foldl_append]
  rfl

theorem mem_foundBy : m ∈ foundBy w text phrases ↔ m ∈ taken w text phrases := by
  induction phrases using List.reverseRecOn generalizing m with
  | nil => exact iff_of_false List.not_mem_nil (Set.notMem_empty m)
  | append_singleton phrases p ih =>
    have hset : {m' | m' ∈ foundBy w text phrases} = taken w text phrases := Set.ext fun _ => ih
    rw [foundBy_concat, taken_concat, mem_findNext, hset, ih]
    rfl

theorem mem_matches_iff : m ∈ findVocabularyMatches w text vocabulary ↔
    m ∈ taken w text (byLength vocabulary) :=
  (findVocabularyMatches_perm w text vocabulary).mem_iff.trans mem_foundBy

theorem mem_taken_append : m ∈ taken w text (pre ++ post) ↔ m ∈ taken w text pre ∨
    ∃ between p post', post = between ++ p :: post' ∧
      m ∈ takes w text (taken w text (pre ++ between)) p := by
  induction post using List.reverseRecOn with
  | nil =>
    rw [List.append_nil]
    refine ⟨.inl, ?_⟩
    rintro (hm | ⟨between, p, post', he, -⟩)
    · exact hm
    · exact absurd he.symm (List.append_ne_nil_of_right_ne_nil _ (List.cons_ne_nil p post'))
  | append_singleton post q ih =>
    rw [← List.append_assoc, taken_concat, Set.mem_union, ih, or_assoc]
    apply or_congr_right
    constructor
    · rintro (⟨between, p, post', rfl, hm⟩ | hm)
      · exact ⟨between, p, post' ++ [q], List.append_assoc _ _ _, hm⟩
      · exact ⟨post, q, [], rfl, hm⟩
    · rintro ⟨between, p, post', he, hm⟩
      rcases List.eq_nil_or_concat post' with rfl | ⟨post', q', rfl⟩
      · obtain ⟨rfl, hq⟩ := List.append_inj' he rfl
        obtain ⟨rfl, -⟩ := List.cons.inj hq
        exact .inr hm
      · rw [List.concat_eq_append, ← List.cons_append, ← List.append_assoc] at he
        obtain ⟨rfl, -⟩ := List.append_inj' he rfl
        exact .inl ⟨between, p, post', rfl, hm⟩

theorem mem_matches_of_split (he : byLength vocabulary = pre ++ post)
    (h : m ∈ taken w text pre) : m ∈ findVocabularyMatches w text vocabulary := by
  rw [mem_matches_iff, he, mem_taken_append]
  exact .inl h

theorem taken_of_visitedAt (hv : VisitedAt w text phrase.toList place)
    (hnew : ∀ m ∈ taken w text pre, m.name ≠ name)
    (hfree : ∀ m ∈ taken w text pre, overlaps (place, place + phrase.length) m.span = false) :
    ∃ m ∈ taken w text (pre ++ [(phrase, name)]), m.name = name ∧ m.position ≤ place := by
  have hset : {m' | m' ∈ foundBy w text pre} = taken w text pre := Set.ext fun _ => mem_foundBy
  have hclaimed : ∀ m ∈ foundBy w text pre,
      overlaps (place, place + phrase.length) m.span = false :=
    fun m hm => hfree m (mem_foundBy.1 hm)
  obtain ⟨s, hs, hle⟩ := firstFree_earliest hv (claimed_free hclaimed)
  have hleast := firstFree_isLeast hs
  refine ⟨⟨name, s.span.1, phrase⟩, ?_, rfl, hle⟩
  rw [taken_concat, ← hset]
  exact .inr ⟨rfl, rfl, fun m hm => hnew m (mem_foundBy.1 hm), hleast⟩

theorem earliest_of_not_missed (h : ¬ Missed w text vocabulary) : Earliest w text vocabulary := by
  rintro name place ⟨pre, phrase, post, he, ho, hfree⟩
  have hothers : ∀ m ∈ taken w text pre, m.name ≠ name →
      overlaps (place, place + phrase.length) m.span = false := fun m hm hne =>
    hfree m (mem_matches_of_split he hm) hne
      ((found_foundBy w text pre).listed m (mem_foundBy.2 hm))
  by_cases hname : ∃ m ∈ taken w text pre, m.name = name
  · obtain ⟨m, hm, hmn⟩ := hname
    refine ⟨m, mem_matches_of_split he hm, hmn, Nat.le_of_not_lt fun hlt => ?_⟩
    exact h (.skipped he ho hothers hm hmn hlt)
  · by_contra hnone
    apply h
    refine .passedOver he ho (fun m hm => ?_) ?_
    · have hne : m.name ≠ name := fun hmn => hname ⟨m, hm, hmn⟩
      exact ⟨hne, hothers m hm hne⟩
    intro between phrase' post' hsplit place' hle hv
    by_contra hover
    have hfree' : ∀ m ∈ taken w text (pre ++ between),
        overlaps (place', place' + phrase'.length) m.span = false := fun m hm =>
      Bool.not_eq_true _ ▸ fun ho' => hover ⟨m, hm, ho'⟩
    have he' : byLength vocabulary = (pre ++ between) ++ (phrase', name) :: post' := by
      rw [he, hsplit, List.append_assoc]
    by_cases hname' : ∃ m ∈ taken w text (pre ++ between), m.name = name
    · obtain ⟨m, hm, hmn⟩ := hname'
      have hlt : place < m.position := Nat.lt_of_not_le fun hle' =>
        hnone ⟨m, mem_matches_of_split he' hm, hmn, hle'⟩
      have ho' : OccursAt w text phrase'.toList place' := by
        rw [VisitedAt] at hv
        exact hv.1
      exact h (.skipped he' ho' (fun m hm _ => hfree' m hm) hm hmn (by omega))
    · obtain ⟨m, hm, hmn, hle'⟩ := taken_of_visitedAt hv
        (fun m hm hmn => hname' ⟨m, hm, hmn⟩) hfree'
      rw [List.append_cons] at he'
      exact hnone ⟨m, mem_matches_of_split he' hm, hmn, hle'.trans hle⟩

theorem eq_of_name {found : List VocabularyMatch} (h : (found.map VocabularyMatch.name).Nodup)
    (hm : m ∈ found) (hm' : m' ∈ found) (hn : m.name = m'.name) : m = m' :=
  List.inj_on_of_nodup_map h hm hm' hn

theorem mention_of_free (hkeys : (vocabulary.map Prod.fst).Nodup)
    (he : byLength vocabulary = pre ++ (phrase, name) :: post)
    (ho : OccursAt w text phrase.toList place)
    (hfree : ∀ m ∈ taken w text pre, m.name ≠ name →
      overlaps (place, place + phrase.length) m.span = false) :
    Mention w text vocabulary name place := by
  have hnodup : (byLength vocabulary).Nodup :=
    (List.perm_insertionSort _ _).nodup_iff.2 (List.Nodup.of_map _ hkeys)
  rw [he] at hnodup
  refine ⟨pre, phrase, post, he, ho, ?_⟩
  intro m hm hne hpre
  rw [mem_matches_iff, he, mem_taken_append] at hm
  rcases hm with hm | ⟨between, p, post', hp, hn, ht, -⟩
  · exact hfree m hm hne
  · have hmem : (m.matched, m.name) ∈ (phrase, name) :: post := by
      rw [hp, ht, hn]
      exact List.mem_append_right _ List.mem_cons_self
    exact absurd rfl ((List.nodup_append.1 hnodup).2.2 _ hpre _ hmem)

theorem not_missed_of_earliest (hkeys : (vocabulary.map Prod.fst).Nodup)
    (h : Earliest w text vocabulary) : ¬ Missed w text vocabulary := by
  intro hmissed
  cases hmissed with
  | skipped he ho hfree hm hn hlt =>
    obtain ⟨m', hm', hn', hle⟩ := h _ _ (mention_of_free hkeys he ho hfree)
    have heq := eq_of_name (matches_names w text vocabulary) (mem_matches_of_split he hm) hm'
      (hn.trans hn'.symm)
    rw [← heq] at hle
    omega
  | passedOver he ho hfree hblocked =>
    obtain ⟨m, hm, hn, hle⟩ := h _ _ (mention_of_free hkeys he ho fun m hm _ => (hfree m hm).2)
    rw [mem_matches_iff, he, mem_taken_append] at hm
    rcases hm with hm | ⟨between, p, post', hp, hn', ht, -, ⟨hv, hfree'⟩, -⟩
    · exact (hfree m hm).1 hn
    · obtain ⟨phrase', name'⟩ := p
      cases hn'.symm.trans hn
      obtain ⟨m', hm', hover⟩ := hblocked between phrase' post' hp _ hle hv
      rw [hfree' m' hm'] at hover
      cases hover

theorem mention_of_match (h : m ∈ findVocabularyMatches w text vocabulary) :
    Mention w text vocabulary m.name m.position := by
  have hfound := found_foundBy w text (byLength vocabulary)
  have hm := mem_foundBy.2 (mem_matches_iff.1 h)
  obtain ⟨pre, post, he⟩ := List.append_of_mem (hfound.listed m hm)
  refine ⟨pre, m.matched, post, he, hfound.occurs m hm, ?_⟩
  intro m' hm' hne _
  have hsymm : Std.Symm fun m n : VocabularyMatch => overlaps m.span n.span = false :=
    ⟨fun m n h => (overlaps_comm _ _).trans h⟩
  exact hfound.disjoint.forall hm (mem_foundBy.2 (mem_matches_iff.1 hm'))
    fun he => hne (congrArg _ he.symm)

def PrimaryFirst (w : WordClass) (question : String) : Prop :=
  ∀ name place, Mention w question.toList entitySynonyms name place →
    ∃ m ∈ findVocabularyMatches w question.toList entitySynonyms,
      (extractEntities w question).primaryEntity = some m.name ∧ m.position ≤ place

theorem primaryFirst_of_earliest (h : Earliest w question.toList entitySynonyms) :
    PrimaryFirst w question := by
  intro name place hmention
  obtain ⟨m, hm, -, hle⟩ := h name place hmention
  have hsorted := matches_sorted w question.toList entitySynonyms
  cases hms : findVocabularyMatches w question.toList entitySynonyms with
  | nil =>
    rw [hms] at hm
    cases hm
  | cons first ms =>
    rw [hms] at hm hsorted
    refine ⟨first, List.mem_cons_self, ?_, ?_⟩
    · rw [extractEntities, hms]
      rfl
    · rcases List.mem_cons.1 hm with rfl | hm
      · exact hle
      · exact ((List.pairwise_cons.1 hsorted).1 m hm).trans hle

/-- Matches are disjoint, in the order of the text, one for a name, each on a mention of its name;
they are the earliest mentions exactly where none is missed. -/
theorem vocabularyMatches_iff (w : WordClass) (text : List Char)
    {vocabulary : List (String × String)} (hkeys : (vocabulary.map Prod.fst).Nodup) :
    ((findVocabularyMatches w text vocabulary).Pairwise
        (fun m n => overlaps m.span n.span = false) ∧
      (findVocabularyMatches w text vocabulary).Pairwise (fun m n => m.position ≤ n.position) ∧
      ((findVocabularyMatches w text vocabulary).map VocabularyMatch.name).Nodup ∧
      ∀ m ∈ findVocabularyMatches w text vocabulary,
        Mention w text vocabulary m.name m.position) ∧
    (Earliest w text vocabulary ↔ ¬ Missed w text vocabulary) ∧
    ∀ question : String, ¬ Missed w question.toList entitySynonyms → PrimaryFirst w question :=
  ⟨⟨matches_disjoint w text vocabulary, matches_sorted w text vocabulary,
      matches_names w text vocabulary, fun _ => mention_of_match⟩,
    ⟨not_missed_of_earliest hkeys, earliest_of_not_missed⟩,
    fun _ h => primaryFirst_of_earliest (earliest_of_not_missed h)⟩

theorem vocabularyMatches_orders :
    ((findVocabularyMatches asciiWord "orders of customers".toList entitySynonyms).map
      VocabularyMatch.name).Nodup ∧
    (Earliest asciiWord "orders of customers".toList entitySynonyms ↔
      ¬ Missed asciiWord "orders of customers".toList entitySynonyms) :=
  have hkeys : (entitySynonyms.map Prod.fst).Nodup := by decide +kernel
  have h := vocabularyMatches_iff asciiWord "orders of customers".toList hkeys
  ⟨h.1.2.2.1, h.2.1⟩

def lateQuestion : String := "customer orders of customers"

theorem lateQuestion_matches :
    findVocabularyMatches asciiWord lateQuestion.toList entitySynonyms =
      [⟨"order", 9, "orders"⟩, ⟨"customer", 19, "customers"⟩] := by
  decide +kernel

theorem lateQuestion_mention :
    Mention asciiWord lateQuestion.toList entitySynonyms "customer" 0 := by
  have hp : ("customer", "customer") ∈ byLength entitySynonyms :=
    (List.mem_insertionSort _).2 (by decide +kernel)
  obtain ⟨pre, post, he⟩ := List.append_of_mem hp
  refine ⟨pre, "customer", post, he, ⟨[], " orders of customers".toList, rfl, rfl, by decide,
    by decide⟩, ?_⟩
  intro m hm hne _
  rw [lateQuestion_matches] at hm
  rcases List.mem_cons.1 hm with rfl | hm
  · decide
  · rw [List.mem_singleton.1 hm] at hne
    exact absurd rfl hne

theorem lateQuestion_late :
    ¬ Earliest asciiWord lateQuestion.toList entitySynonyms ∧
      ¬ PrimaryFirst asciiWord lateQuestion := by
  constructor
  · intro h
    obtain ⟨m, hm, hn, hle⟩ := h "customer" 0 lateQuestion_mention
    rw [lateQuestion_matches] at hm
    rcases List.mem_cons.1 hm with rfl | hm
    · exact absurd hn (by decide)
    · rw [List.mem_singleton.1 hm] at hle
      exact absurd hle (by decide)
  · intro h
    obtain ⟨m, hm, -, hle⟩ := h "customer" 0 lateQuestion_mention
    rw [lateQuestion_matches] at hm
    rcases List.mem_cons.1 hm with rfl | hm
    · exact absurd hle (by decide)
    · rw [List.mem_singleton.1 hm] at hle
      exact absurd hle (by decide)

end QueryMind.Nlu
