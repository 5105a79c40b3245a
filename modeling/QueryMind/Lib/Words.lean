import QueryMind.Lib.Pattern

namespace QueryMind.Lib
open Pattern
set_option autoImplicit true

/-- A text without white space. -/
structure IsToken (t : List Char) : Prop where
  ne_nil : t ≠ []
  solid : ∀ c ∈ t, Text.isSpace c = false

def spaced (ts : List (List Char)) : List Char := ts.flatMap fun t => ' ' :: t

def joined (ts : List (List Char)) : List Char := [' '].intercalate ts

@[simp] theorem spaced_nil : spaced [] = [] := rfl

@[simp] theorem spaced_cons (t : List Char) (ts : List (List Char)) :
    spaced (t :: ts) = ' ' :: (t ++ spaced ts) := rfl

@[simp] theorem spaced_append (ts us : List (List Char)) :
    spaced (ts ++ us) = spaced ts ++ spaced us := List.flatMap_append

@[simp] theorem joined_cons (t : List Char) (ts : List (List Char)) :
    joined (t :: ts) = t ++ spaced ts := by
  induction ts generalizing t with
  | nil =>
    rw [joined, List.intercalate_singleton, spaced_nil, List.append_nil]
  | cons u ts ih =>
    rw [joined, List.intercalate_cons_cons, ← joined, ih, List.append_assoc]
    rfl

theorem spaced_eq (h : ts ≠ []) : spaced ts = ' ' :: joined ts := by
  obtain ⟨t, ts, rfl⟩ := List.exists_cons_of_ne_nil h
  rw [spaced_cons, joined_cons]

theorem joined_append (h : ts ≠ []) (us : List (List Char)) :
    joined (ts ++ us) = joined ts ++ spaced us := by
  obtain ⟨t, ts, rfl⟩ := List.exists_cons_of_ne_nil h
  rw [List.cons_append, joined_cons, joined_cons, spaced_append, List.append_assoc]

theorem joined_splitOn (l : List Char) : joined (l.splitOn ' ') = l := List.intercalate_splitOn ' '

theorem splitOn_joined (h : ∀ t ∈ ts, IsToken t) (hne : ts ≠ []) :
    (joined ts).splitOn ' ' = ts := by
  apply List.splitOn_intercalate ' ' _ hne
  intro t ht hc
  cases (h t ht).solid ' ' hc

theorem blank_of_mem (h : ∀ t ∈ ts, IsToken t) (hc : c ∈ joined ts)
    (hs : Text.isSpace c = true) : c = ' ' := by
  have hspaced : ∀ us, (∀ t ∈ us, IsToken t) → c ∈ spaced us → c = ' ' := by
    intro us hus hc
    obtain ⟨t, ht, hct⟩ := List.mem_flatMap.1 hc
    rcases List.mem_cons.1 hct with rfl | hct
    · rfl
    · rw [(hus t ht).solid c hct] at hs
      cases hs
  cases ts with
  | nil => cases hc
  | cons t ts =>
    obtain ⟨ht, hts⟩ := List.forall_mem_cons.1 h
    rw [joined_cons] at hc
    rcases List.mem_append.1 hc with hc | hc
    · rw [ht.solid c hc] at hs
      cases hs
    · exact hspaced ts hts hc

theorem prefix_of_joined (hts : ∀ t ∈ ts, IsToken t) (hne : ts ≠ []) (hus : ∀ u ∈ us, IsToken u)
    (hne' : us ≠ []) (h : joined us = joined ts ++ ' ' :: rest) : ts <+: us := by
  apply Exists.intro (rest.splitOn ' ')
  rw [← splitOn_joined hus hne', h, List.splitOn_append_cons_self, splitOn_joined hts hne]

theorem splitWords_joined (h : ∀ t ∈ ts, IsToken t) :
    Text.splitWords (joined ts) = ts.map String.ofList := by
  induction ts with
  | nil => rfl
  | cons t ts ih =>
    obtain ⟨ht, hts⟩ := List.forall_mem_cons.1 h
    have hkeep : (!t.isEmpty) = true := by
      rw [Bool.not_eq_true', List.isEmpty_eq_false_iff]
      exact ht.ne_nil
    cases ts with
    | nil =>
      rw [joined_cons, spaced_nil, List.append_nil, Text.splitWords,
        List.splitOnP_eq_singleton ht.solid, List.filter_singleton, hkeep]
      rfl
    | cons u ts =>
      rw [joined_cons, spaced_cons, Text.splitWords,
        List.splitOnP_append_cons_of_forall_mem ht.solid ' ' rfl, List.filter_cons, if_pos hkeep,
        List.map_cons, ← joined_cons]
      exact congrArg _ (ih hts)

theorem intercalate_ofList (ts : List (List Char)) :
    " ".intercalate (ts.map String.ofList) = .ofList (joined ts) := by
  induction ts with
  | nil => rfl
  | cons t ts ih =>
    cases ts with
    | nil =>
      rw [List.map_singleton, String.intercalate_singleton, joined_cons, spaced_nil,
        List.append_nil]
    | cons u ts =>
      rw [List.map_cons, List.map_cons, String.intercalate_cons_cons, ← List.map_cons, ih,
        joined_cons t, spaced_eq (List.cons_ne_nil u ts)]
      apply String.toList_inj.1
      simp only [String.toList_append, String.toList_ofList, List.append_assoc]
      rfl

theorem head_spaced {p : Char → Bool} (hp : p ' ' = false) (ts : List (List Char)) :
    (spaced ts).head?.any p = false := by
  cases ts with
  | nil => rfl
  | cons t ts => exact hp

theorem IsToken.head (h : IsToken t) (v : List Char) :
    (t ++ v).head?.any Text.isSpace = false := by
  obtain ⟨c, t, rfl⟩ := List.exists_cons_of_ne_nil h.ne_nil
  exact h.solid c List.mem_cons_self

namespace Pattern

theorem first_blank (f : Unit → Pattern β) (hu : IsToken u) (us : List (List Char)) :
    first (plus Text.isSpace >>= f) ⟨behind, spaced (u :: us)⟩ =
      first (f ()) ⟨' ' :: behind, u ++ spaced us⟩ :=
  first_plus_single f rfl (hu.head _)

theorem first_no_blank {f : Unit → Pattern β} (h : ahead.head?.any Text.isSpace = false) :
    first (plus Text.isSpace >>= f) ⟨behind, ahead⟩ = none := by
  rw [plus_eq, bind_assoc]
  exact first_run_none h

theorem first_phrase (f : Unit → Pattern β) (hts : ∀ t ∈ ts, IsToken t) (hne : ts ≠ [])
    (hus : ∀ u ∈ us, IsToken u) (hne' : us ≠ []) :
    first (literal (joined ts) >>= fun _ => plus Text.isSpace >>= f) ⟨behind, joined us⟩ =
      if ts <+: us then
        first (plus Text.isSpace >>= f)
          ⟨(joined ts).reverse ++ behind, spaced (us.drop ts.length)⟩
      else none := by
  rw [first_literal_bind]
  by_cases hp : ts <+: us
  · obtain ⟨vs, rfl⟩ := hp
    rw [if_pos (List.prefix_append _ _), joined_append hne, if_pos (List.prefix_append _ _),
      List.take_left,
      List.drop_left, List.drop_left]
  · rw [if_neg hp]
    by_cases hl : joined ts <+: joined us
    · obtain ⟨rest, hr⟩ := hl
      rw [if_pos ⟨rest, hr⟩, ← hr, List.drop_left]
      apply first_no_blank
      cases rest with
      | nil => rfl
      | cons c rest =>
        show Text.isSpace c = false
        rw [← Bool.not_eq_true]
        intro hs
        have hc : c = ' ' := by
          apply blank_of_mem hus _ hs
          rw [← hr]
          exact List.mem_append_right _ List.mem_cons_self
        rw [hc] at hr
        exact hp (prefix_of_joined hts hne hus hne' hr.symm)
    · rw [if_neg hl]

theorem finditerFrom_append {p : Pattern α} (u v : List Char)
    (h : ∀ a b, u = a ++ b → b ≠ [] → first p ⟨a.reverse ++ behind, b ++ v⟩ = none) :
    finditerFrom p 0 behind (u ++ v) = finditerFrom p 0 (u.reverse ++ behind) v := by
  induction u generalizing behind with
  | nil => rfl
  | cons x u ih =>
    have hx := h [] (x :: u) rfl (List.cons_ne_nil x u)
    rw [List.reverse_nil, List.nil_append, List.cons_append] at hx
    rw [List.cons_append, finditerFrom, hx, List.reverse_cons, List.append_assoc]
    apply ih
    intro a b hu hb
    have hab := h (x :: a) b (by rw [hu]; rfl) hb
    rw [List.reverse_cons, List.append_assoc] at hab
    exact hab

theorem finditerFrom_skip (p : Pattern α) (behind u v : List Char) :
    finditerFrom p u.length behind (u ++ v) = finditerFrom p 0 (u.reverse ++ behind) v := by
  induction u generalizing behind with
  | nil => rfl
  | cons x u ih =>
    rw [List.length_cons, List.cons_append, finditerFrom, ih, List.reverse_cons,
      List.append_assoc]
    rfl

theorem finditerFrom_match {p : Pattern α} (hne : u ≠ [])
    (h : first p ⟨behind, u ++ v⟩ = some (a, ⟨u.reverse ++ behind, v⟩)) :
    finditerFrom p 0 behind (u ++ v) =
      ⟨a, ⟨behind, u ++ v⟩, ⟨u.reverse ++ behind, v⟩⟩ ::
        finditerFrom p 0 (u.reverse ++ behind) v := by
  obtain ⟨x, xs, rfl⟩ := List.exists_cons_of_ne_nil hne
  rw [List.cons_append] at h ⊢
  rw [finditerFrom, h]
  dsimp only
  rw [List.length_append, Nat.add_sub_cancel, finditerFrom_skip, List.reverse_cons,
    List.append_assoc]
  rfl

/-- A match is what the pattern reads first at its place in a text. -/
def Stands (p : Pattern α) (behind text : List Char) (m : Match α) : Prop :=
  ∃ u v, text = u ++ v ∧ m.start = ⟨u.reverse ++ behind, v⟩ ∧
    first p m.start = some (m.value, m.stop)

theorem Stands.cons {m : Match α} (h : Stands p (x :: behind) xs m) :
    Stands p behind (x :: xs) m := by
  obtain ⟨u, v, rfl, hm, hp⟩ := h
  refine ⟨x :: u, v, rfl, ?_, hp⟩
  rw [hm, List.reverse_cons, List.append_assoc]
  rfl

theorem stands_of_mem {p : Pattern α} (h : m ∈ finditerFrom p skip behind text) :
    Stands p behind text m := by
  induction text generalizing skip behind with
  | nil =>
    cases skip with
    | succ skip => cases h
    | zero =>
      rw [finditerFrom] at h
      split at h
      · rename_i r hr
        rw [List.mem_singleton.1 h]
        exact ⟨[], [], rfl, rfl, hr⟩
      · cases h
  | cons x xs ih =>
    cases skip with
    | succ skip => exact (ih h).cons
    | zero =>
      rw [finditerFrom] at h
      split at h
      · rename_i r hr
        rcases List.mem_cons.1 h with rfl | h
        · exact ⟨[], x :: xs, rfl, rfl, hr⟩
        · exact (ih h).cons
      · exact (ih h).cons

/-- Past the characters that are skipped, a match that stands in a text is found, or one that was
found before runs over its place. -/
theorem Stands.found_or_covered {p : Pattern α} {m : Match α} (h : Stands p behind text m)
    (hskip : m.start.ahead.length + skip ≤ text.length) :
    m ∈ finditerFrom p skip behind text ∨ ∃ n ∈ finditerFrom p skip behind text,
      n.stop.ahead.length < m.start.ahead.length ∧
        m.start.ahead.length < n.start.ahead.length := by
  induction text generalizing skip behind with
  | nil =>
    obtain ⟨u, v, huv, hm, hp⟩ := h
    obtain ⟨rfl, rfl⟩ := List.append_eq_nil_iff.1 huv.symm
    cases skip with
    | succ skip =>
      rw [List.length_nil] at hskip
      omega
    | zero =>
      left
      rw [hm] at hp
      rw [finditerFrom]
      have hp' : first p ⟨behind, []⟩ = some (m.value, m.stop) := hp
      rw [hp', List.mem_singleton]
      obtain ⟨value, start, stop⟩ := m
      exact congrArg (Match.mk value · stop) hm
  | cons x xs ih =>
    have hcases : (m.start = ⟨behind, x :: xs⟩ ∧ first p m.start = some (m.value, m.stop)) ∨
        Stands p (x :: behind) xs m ∧ m.start.ahead.length ≤ xs.length := by
      obtain ⟨u, v, huv, hm, hp⟩ := h
      cases u with
      | nil =>
        left
        rw [List.nil_append] at huv
        exact ⟨hm.trans (huv ▸ rfl), hp⟩
      | cons y u =>
        right
        obtain ⟨rfl, rfl⟩ := List.cons.inj huv
        rw [List.reverse_cons, List.append_assoc] at hm
        refine ⟨⟨u, v, rfl, hm, hp⟩, ?_⟩
        rw [hm]
        exact (List.suffix_append u v).length_le
    cases skip with
    | succ skip =>
      rw [List.length_cons] at hskip
      rcases hcases with ⟨hm, _⟩ | ⟨hs, _⟩
      · rw [hm, List.length_cons] at hskip
        omega
      · exact ih hs (by omega)
    | zero =>
      rw [finditerFrom]
      rcases hcases with ⟨hm, hp⟩ | ⟨hs, hle⟩
      · left
        rw [← hm, hp]
        exact List.mem_cons_self
      · split
        · rename_i r _
          by_cases hr : m.start.ahead.length ≤ r.2.ahead.length
          · have hpast : m.start.ahead.length + (xs.length - r.2.ahead.length) ≤ xs.length := by
              omega
            rcases ih hs hpast with hmem | hcov
            · exact .inl (List.mem_cons_of_mem _ hmem)
            · obtain ⟨n, hn, hlt⟩ := hcov
              exact .inr ⟨n, List.mem_cons_of_mem _ hn, hlt⟩
          · refine .inr ⟨_, List.mem_cons_self, Nat.lt_of_not_le hr, ?_⟩
            exact Nat.lt_succ_of_le hle
        · exact ih hs (by omega)

theorem ahead_of_mem {p : Pattern α} (h : m ∈ finditerFrom p skip behind text) :
    m.start.ahead.length + skip ≤ text.length := by
  obtain ⟨u, v, rfl, hm, _⟩ := stands_of_mem h
  have hl := (le_of_mem_finditerFrom h).1
  rw [hm, List.length_append, List.length_reverse] at hl
  rw [hm, List.length_append]
  show v.length + skip ≤ u.length + v.length
  omega

theorem apart_finditerFrom (p : Pattern α) (skip : Nat) (behind text : List Char) :
    (finditerFrom p skip behind text).Pairwise
      (fun m n => n.start.ahead.length ≤ m.stop.ahead.length) := by
  induction text generalizing skip behind with
  | nil =>
    cases skip with
    | succ skip => exact .nil
    | zero =>
      rw [finditerFrom]
      split
      · exact List.pairwise_singleton _ _
      · exact .nil
  | cons x xs ih =>
    cases skip with
    | succ skip => exact ih skip (x :: behind)
    | zero =>
      rw [finditerFrom]
      split
      · rename_i r _
        refine List.pairwise_cons.2 ⟨fun n hn => ?_, ih _ _⟩
        have hl := ahead_of_mem hn
        show n.start.ahead.length ≤ r.2.ahead.length
        omega
      · exact ih _ _

end Pattern

theorem suffix_of_joined (h : joined us = a ++ b)
    (hb : b.head?.any (fun c => !Text.isSpace c) = true) :
    ∃ A t t' B, us = A ++ t :: B ∧ t' <:+ t ∧ t' ≠ [] ∧ b = joined (t' :: B) := by
  induction us generalizing a with
  | nil =>
    rw [(List.append_eq_nil_iff.1 h.symm).2] at hb
    cases hb
  | cons u us ih =>
    rw [joined_cons] at h
    rcases List.append_eq_append_iff.1 h with ⟨e, -, he⟩ | ⟨e, hu, he⟩
    · cases us with
      | nil =>
        rw [(List.append_eq_nil_iff.1 he.symm).2] at hb
        cases hb
      | cons v us =>
        rw [spaced_eq (List.cons_ne_nil v us)] at he
        cases e with
        | nil =>
          rw [List.nil_append] at he
          rw [← he] at hb
          cases hb
        | cons c e =>
          obtain ⟨A, t, t', B, hus, ht⟩ := ih (List.cons.inj he).2
          exact ⟨u :: A, t, t', B, congrArg _ hus, ht⟩
    · cases e with
      | nil =>
        rw [List.nil_append] at he
        rw [he] at hb
        cases us with
        | nil => cases hb
        | cons v us => cases hb
      | cons c e =>
        refine ⟨[], u, c :: e, us, rfl, ⟨a, hu.symm⟩, List.cons_ne_nil c e, ?_⟩
        rw [he, joined_cons]

theorem joined_inj (hts : ∀ t ∈ ts, IsToken t) (hus : ∀ u ∈ us, IsToken u) (hne : ts ≠ [])
    (hne' : us ≠ []) (h : joined ts = joined us) : ts = us := by
  rw [← splitOn_joined hts hne, h, splitOn_joined hus hne']

end QueryMind.Lib
