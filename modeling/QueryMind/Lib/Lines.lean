import QueryMind.Lib.Text

namespace QueryMind.Lib.Lines
open Text
set_option autoImplicit true

def unlines (lines : List String) : String := "\n".intercalate lines

/-- Blocks of lines, an empty line between two of them. -/
def paragraphs (blocks : List (List String)) : String := "\n\n".intercalate (blocks.map unlines)

def trimmed (s : String) : Bool :=
  s.toList.head?.all (fun c => !isSpace c) && s.toList.getLast?.all (fun c => !isSpace c)

def IsLine (s : String) : Prop := '\n' ∉ s.toList ∧ s ≠ "" ∧ trimmed s = true

instance : Decidable (IsLine s) := inferInstanceAs (Decidable (_ ∧ _ ∧ _))

theorem length_le_of_chars (h : l.length ≤ n) : (String.ofList l).length ≤ n :=
  String.length_ofList.trans_le h

theorem notMem_of_chars (h : c ∉ l) : c ∉ (String.ofList l).toList := by
  rwa [String.toList_ofList]

theorem notMem_append {s t : String} (hs : c ∉ s.toList) (ht : c ∉ t.toList) :
    c ∉ (s ++ t).toList := by
  rw [String.toList_append, List.mem_append, not_or]
  exact ⟨hs, ht⟩

theorem append_length_le {s t : String} (hs : s.length ≤ m) (ht : t.length ≤ n) :
    (s ++ t).length ≤ m + n := by
  rw [String.length_append]
  exact Nat.add_le_add hs ht

theorem strip_of_trimmed (h : trimmed s = true) : strip s = s := by
  rw [trimmed, Bool.and_eq_true] at h
  have hl : s.toList.dropWhile isSpace = s.toList := by
    rw [List.dropWhile_eq_self_iff]
    intro hn hs
    have hh := h.1
    rw [List.head?_eq_getElem?, List.getElem?_eq_getElem hn] at hh
    simp [hs] at hh
  have hr : s.toList.rdropWhile isSpace = s.toList := by
    rw [List.rdropWhile_eq_self_iff]
    intro hn hs
    have hh := h.2
    rw [List.getLast?_eq_some_getLast hn] at hh
    simp [hs] at hh
  rw [strip, stripChars, hl, hr, String.ofList_toList]

theorem trimmed_append (hs : s ≠ "") (ht : t ≠ "") (h₁ : trimmed s = true)
    (h₂ : trimmed t = true) (u : String) : trimmed (s ++ u ++ t) = true := by
  have hs' : s.toList ≠ [] := mt String.toList_eq_nil_iff.1 hs
  have ht' : t.toList ≠ [] := mt String.toList_eq_nil_iff.1 ht
  rw [trimmed, Bool.and_eq_true] at h₁ h₂ ⊢
  constructor
  · rw [String.toList_append, String.toList_append, List.append_assoc,
      List.head?_append_of_ne_nil _ hs']
    exact h₁.1
  · rw [String.toList_append, List.getLast?_append_of_ne_nil _ ht']
    exact h₂.2

def Contains (text piece : String) : Prop := piece.toList <:+: text.toList

instance : Decidable (Contains text piece) := inferInstanceAs (Decidable (_ <:+: _))

theorem Contains.trans (h : Contains u t) (h' : Contains t s) : Contains u s :=
  List.IsInfix.trans h' h

theorem Contains.mem (h : Contains t s) (hc : c ∈ s.toList) : c ∈ t.toList :=
  List.IsInfix.subset h hc

theorem contains_intercalate (sep : String) (h : s ∈ l) : Contains (sep.intercalate l) s := by
  induction l with
  | nil => cases h
  | cons t l ih =>
    by_cases hn : l = []
    · subst hn
      rw [String.intercalate_singleton, List.mem_singleton.1 h]
      exact List.infix_refl _
    · rw [String.intercalate_cons_of_ne_nil hn]
      rcases List.mem_cons.1 h with rfl | h
      · exact ⟨[], sep.toList ++ (sep.intercalate l).toList, by simp only [String.toList_append,
          List.nil_append, List.append_assoc]⟩
      · apply Contains.trans _ (ih h)
        exact ⟨(t ++ sep).toList, [], by simp only [String.toList_append, List.append_nil]⟩

theorem mem_intercalate {sep : String} (h : c ∈ (sep.intercalate l).toList) :
    c ∈ sep.toList ∨ ∃ s ∈ l, c ∈ s.toList := by
  induction l with
  | nil => cases h
  | cons t l ih =>
    by_cases hn : l = []
    · subst hn
      rw [String.intercalate_singleton] at h
      exact .inr ⟨t, List.mem_cons_self, h⟩
    · rw [String.intercalate_cons_of_ne_nil hn, String.toList_append, String.toList_append,
        List.mem_append, List.mem_append] at h
      rcases h with (h | h) | h
      · exact .inr ⟨t, List.mem_cons_self, h⟩
      · exact .inl h
      · rcases ih h with h | ⟨s, hs, h⟩
        · exact .inl h
        · exact .inr ⟨s, List.mem_cons_of_mem _ hs, h⟩

theorem unlines_cons (n : ls ≠ []) : unlines (l :: ls) = l ++ "\n" ++ unlines ls :=
  String.intercalate_cons_of_ne_nil n

theorem unlines_append (n₁ : ls₁ ≠ []) (n₂ : ls₂ ≠ []) :
    unlines (ls₁ ++ ls₂) = unlines ls₁ ++ "\n" ++ unlines ls₂ :=
  String.intercalate_append_of_ne_nil n₁ n₂

theorem unlines_length (h : ∀ l ∈ ls, l.length ≤ n) :
    (unlines ls).length ≤ ls.length * (n + 1) := by
  induction ls with
  | nil => exact Nat.zero_le _
  | cons l ls ih =>
    have hl := h l (List.mem_cons_self ..)
    have ih := ih fun l' hm => h l' (List.mem_cons_of_mem _ hm)
    rw [List.length_cons, Nat.succ_mul]
    by_cases hn : ls = []
    · subst hn
      rw [unlines, String.intercalate_singleton]
      omega
    · have hs : ("\n" : String).length = 1 := String.length_ofList
      rw [unlines_cons hn, String.length_append, String.length_append, hs]
      omega

theorem unlines_trimmed (h : ∀ l ∈ ls, IsLine l) (n : ls ≠ []) :
    unlines ls ≠ "" ∧ trimmed (unlines ls) = true := by
  induction ls with
  | nil => exact absurd rfl n
  | cons l ls ih =>
    obtain ⟨_, hn, ht⟩ := h l (List.mem_cons_self ..)
    by_cases hl : ls = []
    · subst hl
      rw [unlines, String.intercalate_singleton]
      exact ⟨hn, ht⟩
    · obtain ⟨hn', ht'⟩ := ih (fun l' hm => h l' (List.mem_cons_of_mem _ hm)) hl
      rw [unlines_cons hl]
      constructor
      · intro he
        exact hn' (String.append_eq_empty_iff.1 he).2
      · exact trimmed_append hn hn' ht ht' "\n"

theorem unlines_inj (h₁ : ∀ l ∈ ls₁, '\n' ∉ l.toList) (h₂ : ∀ l ∈ ls₂, '\n' ∉ l.toList)
    (n₁ : ls₁ ≠ []) (n₂ : ls₂ ≠ []) (h : unlines ls₁ = unlines ls₂) : ls₁ = ls₂ := by
  have split {ls : List String} (hl : ∀ l ∈ ls, '\n' ∉ l.toList) (hn : ls ≠ []) :
      (unlines ls).toList.splitOn '\n' = ls.map String.toList := by
    rw [unlines, String.toList_intercalate]
    apply List.splitOn_intercalate
    · intro l hm
      obtain ⟨s, hs, rfl⟩ := List.mem_map.1 hm
      exact hl s hs
    · exact mt List.map_eq_nil_iff.1 hn
  have hm : ls₁.map String.toList = ls₂.map String.toList := by
    rw [← split h₁ n₁, ← split h₂ n₂, h]
  exact List.map_injective_iff.2 (fun _ _ => String.toList_inj.1) hm

theorem intercalate_ne_nil (h : ∀ b ∈ blocks, b ≠ []) (n : blocks ≠ []) :
    [""].intercalate blocks ≠ [] := by
  cases blocks with
  | nil => exact absurd rfl n
  | cons b bs =>
    have hb := h b (List.mem_cons_self ..)
    cases bs with
    | nil => rwa [List.intercalate_singleton]
    | cons c cs => simp [List.intercalate_cons_cons]

theorem paragraphs_eq (h : ∀ b ∈ blocks, b ≠ []) :
    paragraphs blocks = unlines ([""].intercalate blocks) := by
  induction blocks with
  | nil => rfl
  | cons b blocks ih =>
    have hb := h b (List.mem_cons_self ..)
    have ht := fun b' hb' => h b' (List.mem_cons_of_mem b hb')
    by_cases hn : blocks = []
    · subst hn
      rw [paragraphs, List.map_singleton, String.intercalate_singleton,
        List.intercalate_singleton]
    · have hi := intercalate_ne_nil ht hn
      rw [List.intercalate_cons_of_ne_nil hn, unlines_append (by simp) hi,
        unlines_append hb (by simp), ← ih ht, paragraphs, List.map_cons,
        String.intercalate_cons_of_ne_nil (mt List.map_eq_nil_iff.1 hn), paragraphs,
        show unlines [""] = "" from String.intercalate_singleton, String.append_empty,
        show "\n\n" = "\n" ++ "\n" by decide, ← String.append_assoc]

theorem newline_notMem_intercalate (h : ∀ b ∈ blocks, ∀ l ∈ b, IsLine l) :
    ∀ l ∈ [""].intercalate blocks, '\n' ∉ l.toList := by
  induction blocks with
  | nil => simp
  | cons b blocks ih =>
    intro l hl
    have hb := h b (List.mem_cons_self ..)
    by_cases hn : blocks = []
    · rw [hn, List.intercalate_singleton] at hl
      exact (hb l hl).1
    · rw [List.intercalate_cons_of_ne_nil hn, List.mem_append, List.mem_append] at hl
      rcases hl with (hl | hl) | hl
      · exact (hb l hl).1
      · rw [List.mem_singleton.1 hl]
        decide
      · exact ih (fun b' hb' => h b' (List.mem_cons_of_mem _ hb')) l hl

theorem paragraphs_inj (h₁ : ∀ b ∈ bs₁, b ≠ [] ∧ ∀ l ∈ b, IsLine l)
    (h₂ : ∀ b ∈ bs₂, b ≠ [] ∧ ∀ l ∈ b, IsLine l) (n₁ : bs₁ ≠ []) (n₂ : bs₂ ≠ [])
    (h : paragraphs bs₁ = paragraphs bs₂) : bs₁ = bs₂ := by
  have hu : unlines ([""].intercalate bs₁) = unlines ([""].intercalate bs₂) := by
    rw [← paragraphs_eq fun b hb => (h₁ b hb).1, ← paragraphs_eq fun b hb => (h₂ b hb).1, h]
  have hi : [""].intercalate bs₁ = [""].intercalate bs₂ := by
    apply unlines_inj
    · exact newline_notMem_intercalate fun b hb => (h₁ b hb).2
    · exact newline_notMem_intercalate fun b hb => (h₂ b hb).2
    · exact intercalate_ne_nil (fun b hb => (h₁ b hb).1) n₁
    · exact intercalate_ne_nil (fun b hb => (h₂ b hb).1) n₂
    · exact hu
  rw [← List.splitOn_intercalate "" (fun b hb he => ((h₁ b hb).2 "" he).2.1 rfl) n₁, hi]
  exact List.splitOn_intercalate "" (fun b hb he => ((h₂ b hb).2 "" he).2.1 rfl) n₂

theorem intercalate_middle_inj {sep : String} (front back : List String) (n₁ : m₁ ≠ [])
    (n₂ : m₂ ≠ []) (h : sep.intercalate (front ++ m₁ ++ back) =
      sep.intercalate (front ++ m₂ ++ back)) : sep.intercalate m₁ = sep.intercalate m₂ := by
  have cut {ps qs : List String} (hp : ps ≠ []) (hq : qs ≠ [])
      (he : sep.intercalate (ps ++ back) = sep.intercalate (qs ++ back)) :
      sep.intercalate ps = sep.intercalate qs := by
    by_cases hb : back = []
    · simpa only [hb, List.append_nil] using he
    · rw [String.intercalate_append_of_ne_nil hp hb, String.intercalate_append_of_ne_nil hq hb]
        at he
      simpa [String.append_left_inj] using he
  have he := cut (by simp [n₁]) (by simp [n₂]) h
  by_cases hf : front = []
  · simpa only [hf, List.nil_append] using he
  · rw [String.intercalate_append_of_ne_nil hf n₁, String.intercalate_append_of_ne_nil hf n₂] at he
    simpa [String.append_right_inj] using he

end QueryMind.Lib.Lines
