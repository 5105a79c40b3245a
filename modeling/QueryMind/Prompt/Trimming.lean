import QueryMind.Lib.Table
import QueryMind.Prompt.Budget
import Mathlib.Data.List.Forall2

namespace QueryMind.Prompt
open Lib
set_option autoImplicit true

def requiredTokens (sections : List PromptSection) : Nat :=
  totalTokens (sections.filter fun s => s.isRequired)

def Trimmed (s r : PromptSection) : Prop := ∃ excess, 0 < excess ∧ r = (shrinkOrDrop s excess).1

/-- What enforcing a budget of tokens makes of some sections, each next to what became of it. -/
structure Enforced (maxTokens : Nat) (sections result : List PromptSection) : Prop where
  fits : requiredTokens sections ≤ maxTokens → totalTokens result ≤ maxTokens
  total_le : totalTokens result ≤ totalTokens sections
  names : result.map PromptSection.name = sections.map PromptSection.name
  required : ∀ s r, (s, r) ∈ sections.zip result → s.isRequired = true → r = s
  order : ∀ s r, (s, r) ∈ sections.zip result → r ≠ s →
    ∀ s' r', (s', r') ∈ sections.zip result → s'.isRequired = false → s'.priority < s.priority →
      Trimmed s' r'

/-- The blanks that end the first so many tokens of a section. -/
def cutBlanks (s : PromptSection) (tokens : Nat) : Nat :=
  Text.trailingBlanks (Text.take s.content (tokens * charsPerToken))

/-- By how many tokens a cut text is too large, the marker in place of its last blanks. -/
def overshoot (blanks : Nat) : Int := (38 - (blanks : Int)) / 4

/-- Trimming sections in turn meets the budget: an excess of tokens is left to free, and some
sections have grown without notice. -/
inductive Settles : Int → Int → List PromptSection → Prop
  | met (hm : excess ≤ 0) (hg : excess + grown ≤ 0) : Settles excess grown sections
  | whole (hm : 0 < excess) (hle : (s.estimatedTokens : Int) ≤ excess)
      (hs : Settles (excess - s.estimatedTokens) grown sections) :
      Settles excess grown (s :: sections)
  | cut (hm : 0 < excess) (hlt : excess < s.estimatedTokens)
      (ho : o = overshoot (cutBlanks s (s.estimatedTokens - excess.toNat)))
      (hs : Settles (min excess o) (grown + max 0 (o - excess)) sections) :
      Settles excess grown (s :: sections)

/-- The tokens of the sections are those of their texts. -/
def Counted (sections : List PromptSection) : Prop :=
  ∀ s ∈ sections, s.estimatedTokens = estimateTokens s.content

theorem truncationMarker_length : truncationMarker.length = 35 := by decide +kernel

theorem shrinkOrDrop_whole {s : PromptSection} (h : s.estimatedTokens ≤ excess) :
    (shrinkOrDrop s excess).1.estimatedTokens = 0 ∧
      (shrinkOrDrop s excess).2 = s.estimatedTokens := by
  rw [shrinkOrDrop, if_pos h]
  exact ⟨rfl, rfl⟩

theorem shrinkOrDrop_cut {s : PromptSection} (ht : s.estimatedTokens = estimateTokens s.content)
    (hm : 0 < excess) (h : excess < s.estimatedTokens) :
    ((shrinkOrDrop s excess).1.estimatedTokens : Int) = s.estimatedTokens - excess +
        overshoot (cutBlanks s (s.estimatedTokens - excess)) ∧
      (shrinkOrDrop s excess).2 =
        s.estimatedTokens - (shrinkOrDrop s excess).1.estimatedTokens := by
  have hno : ¬ s.estimatedTokens ≤ excess := Nat.not_le.2 h
  rw [shrinkOrDrop, if_neg hno]
  refine ⟨?_, rfl⟩
  have hcut := Text.length_rstrip
    (Text.take s.content ((s.estimatedTokens - excess) * charsPerToken))
  have hlen := Text.length_take s.content ((s.estimatedTokens - excess) * charsPerToken)
  have hmin : min ((s.estimatedTokens - excess) * charsPerToken) s.content.length =
      (s.estimatedTokens - excess) * charsPerToken := by
    rw [estimateTokens, charsPerToken] at ht
    rw [charsPerToken]
    omega
  rw [hmin] at hlen
  simp only [estimateTokens, String.length_append, truncationMarker_length, overshoot, cutBlanks]
  rw [charsPerToken] at *
  omega

/-- What the trim loop makes of the sections in trim order. -/
def trimmedSections (maxTokens : Nat) : List PromptSection → Nat → List PromptSection
  | [], _ => []
  | s :: rest, total =>
    if total ≤ maxTokens then s :: rest
    else (shrinkOrDrop s (total - maxTokens)).1 ::
      trimmedSections maxTokens rest (total - (shrinkOrDrop s (total - maxTokens)).2)

theorem trimmedSections_of_fits (h : total ≤ maxTokens) (sections : List PromptSection) :
    trimmedSections maxTokens sections total = sections := by
  cases sections with
  | nil => rfl
  | cons s rest => exact if_pos h

theorem totalTokens_cons (s : PromptSection) (sections : List PromptSection) :
    totalTokens (s :: sections) = s.estimatedTokens + totalTokens sections := by
  rw [totalTokens, List.map_cons, List.sum_cons]
  rfl

/-- The trimmed sections fit beside the others just when trimming them settles. -/
theorem settles_iff (hcounted : Counted sections) (htotal : totalTokens sections ≤ total)
    (hgrown : 0 ≤ grown) :
    (total : Int) + grown - totalTokens sections +
        totalTokens (trimmedSections maxTokens sections total) ≤ maxTokens ↔
      Settles (total - maxTokens) grown sections := by
  induction sections generalizing total grown with
  | nil =>
    rw [trimmedSections]
    constructor
    · intro h
      exact .met (by omega) (by omega)
    · intro h
      cases h with
      | met hm hg => omega
  | cons s rest ih =>
    have ht := hcounted s List.mem_cons_self
    have hrest : Counted rest := fun s' hs' => hcounted s' (List.mem_cons_of_mem _ hs')
    rw [totalTokens_cons] at htotal ⊢
    by_cases hfit : total ≤ maxTokens
    · rw [trimmedSections_of_fits hfit, totalTokens_cons]
      constructor
      · intro h
        exact .met (by omega) (by omega)
      · intro h
        cases h with
        | met hm hg => omega
        | whole hm => omega
        | cut hm => omega
    have hm : 0 < total - maxTokens := by omega
    rw [trimmedSections, if_neg hfit, totalTokens_cons]
    by_cases hle : s.estimatedTokens ≤ total - maxTokens
    · obtain ⟨hempty, hfreed⟩ := shrinkOrDrop_whole hle
      rw [hempty, hfreed]
      have hstep : ((total - s.estimatedTokens : Nat) : Int) + grown - totalTokens rest +
          totalTokens (trimmedSections maxTokens rest (total - s.estimatedTokens)) ≤ maxTokens ↔
          Settles ((total - s.estimatedTokens : Nat) - maxTokens) grown rest :=
        ih hrest (by omega) hgrown
      have he : ((total - s.estimatedTokens : Nat) : Int) - maxTokens =
          (total : Int) - maxTokens - s.estimatedTokens := by omega
      rw [he] at hstep
      constructor
      · intro h
        exact .whole (by omega) (by omega) (hstep.1 (by omega))
      · intro h
        cases h with
        | met hm hg => omega
        | whole hm hw hs =>
          have hfits := hstep.2 hs
          omega
        | cut hm hlt => omega
    · have hlt : total - maxTokens < s.estimatedTokens := Nat.lt_of_not_le hle
      obtain ⟨hsize, hfreed⟩ := shrinkOrDrop_cut ht hm hlt
      have hnat : ((total : Int) - maxTokens).toNat = total - maxTokens := by omega
      generalize ho : overshoot (cutBlanks s (s.estimatedTokens - (total - maxTokens))) = o at hsize
      generalize (shrinkOrDrop s (total - maxTokens)).1.estimatedTokens = size at hsize hfreed ⊢
      rw [hfreed]
      have hstep : ((total - (s.estimatedTokens - size) : Nat) : Int) +
          (grown + max 0 (o - ((total : Int) - maxTokens))) - totalTokens rest +
          totalTokens (trimmedSections maxTokens rest (total - (s.estimatedTokens - size))) ≤
            maxTokens ↔
          Settles ((total - (s.estimatedTokens - size) : Nat) - maxTokens)
            (grown + max 0 (o - ((total : Int) - maxTokens))) rest :=
        ih hrest (by omega) (by omega)
      have he : ((total - (s.estimatedTokens - size) : Nat) : Int) - maxTokens =
          min ((total : Int) - maxTokens) o := by omega
      rw [he] at hstep
      constructor
      · intro h
        exact .cut (by omega) (by omega) (by rw [hnat, ho]) (hstep.1 (by omega))
      · intro h
        cases h with
        | met hm hg => omega
        | whole hm hw => omega
        | cut hm hlt ho' hs =>
          rw [hnat, ho] at ho'
          rw [ho'] at hs
          have hfits := hstep.2 hs
          omega

theorem trimmedSections_split (maxTokens : Nat) (sections : List PromptSection) (total : Nat) :
    ∃ l₁ l₂ l₁', sections = l₁ ++ l₂ ∧ trimmedSections maxTokens sections total = l₁' ++ l₂ ∧
      List.Forall₂ Trimmed l₁ l₁' := by
  induction sections generalizing total with
  | nil => exact ⟨[], [], [], rfl, rfl, .nil⟩
  | cons s rest ih =>
    by_cases hfit : total ≤ maxTokens
    · exact ⟨[], s :: rest, [], rfl, trimmedSections_of_fits hfit _, .nil⟩
    · rw [trimmedSections, if_neg hfit]
      obtain ⟨l₁, l₂, l₁', hl, ht, hall⟩ :=
        ih (total - (shrinkOrDrop s (total - maxTokens)).2)
      refine ⟨s :: l₁, l₂, (shrinkOrDrop s (total - maxTokens)).1 :: l₁', ?_, ?_, ?_⟩
      · rw [hl, List.cons_append]
      · rw [ht, List.cons_append]
      · exact .cons ⟨total - maxTokens, by omega, rfl⟩ hall

theorem trimmedSections_emptied (h : maxTokens + totalTokens sections ≤ total) :
    totalTokens (trimmedSections maxTokens sections total) ≤ totalTokens sections := by
  induction sections generalizing total with
  | nil => exact Nat.le_refl _
  | cons s rest ih =>
    by_cases hfit : total ≤ maxTokens
    · rw [trimmedSections_of_fits hfit]
    · rw [totalTokens_cons] at h
      have hle : s.estimatedTokens ≤ total - maxTokens := by omega
      obtain ⟨hempty, hfreed⟩ := shrinkOrDrop_whole hle
      rw [trimmedSections, if_neg hfit, totalTokens_cons, totalTokens_cons, hempty, hfreed]
      have hrest : totalTokens (trimmedSections maxTokens rest (total - s.estimatedTokens)) ≤
          totalTokens rest := ih (by omega)
      omega

theorem trimLoop_map {working : SectionName → Option PromptSection}
    (hnames : (sections.map PromptSection.name).Nodup)
    (hw : ∀ s ∈ sections, working s.name = some s) :
    sections.map (fun s => trimLoop maxTokens sections working total s.name) =
      (trimmedSections maxTokens sections total).map some := by
  induction sections generalizing working total with
  | nil => rfl
  | cons s rest ih =>
    rw [List.map_cons, List.nodup_cons] at hnames
    by_cases hfit : total ≤ maxTokens
    · rw [trimmedSections_of_fits hfit]
      apply List.map_congr_left
      intro s' hs'
      rw [trimLoop, if_pos hfit]
      exact hw s' hs'
    · rw [trimmedSections, if_neg hfit, List.map_cons, List.map_cons]
      simp only [trimLoop_cons, if_neg hfit]
      congr 1
      · rw [trimLoop_other hnames.1]
        exact if_pos rfl
      · apply ih hnames.2
        intro s' hs'
        have hne : s'.name ≠ s.name := fun he => hnames.1 (he ▸ List.mem_map_of_mem hs')
        rw [if_neg hne]
        exact hw s' (List.mem_cons_of_mem _ hs')

theorem byName_of_mem (hnames : (sections.map PromptSection.name).Nodup) (hs : s ∈ sections) :
    byName sections s.name = some s := by
  have hrev : (sections.reverse.map PromptSection.name).Nodup := by
    rw [List.map_reverse]
    exact List.nodup_reverse.2 hnames
  exact Table.lookup_unique hrev (List.mem_reverse.2 hs)

section Enforce
variable {m : PromptBudgetManager} {sections : List PromptSection}

/-- What becomes of a section that does not fit with the others. -/
def settledSection (m : PromptBudgetManager) (sections : List PromptSection) (s : PromptSection) :
    PromptSection :=
  (trimLoop m.maxTokens (trimOrder sections) (byName sections) (totalTokens sections)
    s.name).getD s

theorem mem_trimOrder : s ∈ trimOrder sections ↔ s ∈ sections ∧ s.isRequired = false := by
  rw [trimOrder, List.mem_insertionSort, List.mem_filter, Bool.not_eq_true']

theorem nodup_trimOrder (hnames : (sections.map PromptSection.name).Nodup) :
    ((trimOrder sections).map PromptSection.name).Nodup := by
  have hperm := (List.perm_insertionSort (fun a b : PromptSection => a.priority ≤ b.priority)
    (sections.filter fun s => !s.isRequired)).map PromptSection.name
  rw [trimOrder, hperm.nodup_iff]
  exact hnames.sublist (List.filter_sublist.map _)

theorem name_injective (hnames : (sections.map PromptSection.name).Nodup) (hs : s ∈ sections)
    (hs' : s' ∈ sections) (h : s.name = s'.name) : s = s' :=
  List.inj_on_of_nodup_map hnames hs hs' h

theorem settledSection_required (hnames : (sections.map PromptSection.name).Nodup)
    (hs : s ∈ sections) (hr : s.isRequired = true) :
    trimLoop m.maxTokens (trimOrder sections) (byName sections) (totalTokens sections) s.name =
      some s := by
  have hnot : s.name ∉ (trimOrder sections).map PromptSection.name := by
    intro h
    obtain ⟨s', hs', he⟩ := List.mem_map.1 h
    obtain ⟨hm, hno⟩ := mem_trimOrder.1 hs'
    rw [name_injective hnames hm hs he, hr] at hno
    cases hno
  rw [trimLoop_other hnot]
  exact byName_of_mem hnames hs

theorem outcomes_trimOrder (hnames : (sections.map PromptSection.name).Nodup) :
    (trimOrder sections).map (fun s => trimLoop m.maxTokens (trimOrder sections) (byName sections)
        (totalTokens sections) s.name) =
      (trimmedSections m.maxTokens (trimOrder sections) (totalTokens sections)).map some := by
  apply trimLoop_map (nodup_trimOrder hnames)
  intro s hs
  exact byName_of_mem hnames (mem_trimOrder.1 hs).1

theorem trimLoop_eq_outcome (hnames : (sections.map PromptSection.name).Nodup)
    (hs : s ∈ sections) :
    trimLoop m.maxTokens (trimOrder sections) (byName sections) (totalTokens sections) s.name =
      some (settledSection m sections s) := by
  have hsome : (trimLoop m.maxTokens (trimOrder sections) (byName sections)
      (totalTokens sections) s.name).isSome = true := by
    cases hr : s.isRequired with
    | true =>
      rw [settledSection_required hnames hs hr]
      rfl
    | false =>
      have hm := List.mem_map_of_mem (f := fun s => trimLoop m.maxTokens (trimOrder sections)
        (byName sections) (totalTokens sections) s.name) (mem_trimOrder.2 ⟨hs, hr⟩)
      rw [outcomes_trimOrder hnames] at hm
      obtain ⟨r, _, he⟩ := List.mem_map.1 hm
      rw [← he]
      rfl
  obtain ⟨r, hr⟩ := Option.isSome_iff_exists.1 hsome
  rw [settledSection, hr]
  rfl

theorem enforce_eq_map (hnames : (sections.map PromptSection.name).Nodup)
    (hover : ¬ totalTokens sections ≤ m.maxTokens) :
    m.enforce sections = sections.map (settledSection m sections) := by
  rw [PromptBudgetManager.enforce]
  simp only [if_neg hover]
  rw [← List.filterMap_eq_map]
  apply List.filterMap_congr
  intro s hs
  exact trimLoop_eq_outcome hnames hs

theorem map_outcome_trimOrder (hnames : (sections.map PromptSection.name).Nodup) :
    (trimOrder sections).map (settledSection m sections) =
      trimmedSections m.maxTokens (trimOrder sections) (totalTokens sections) := by
  have hsome := outcomes_trimOrder (m := m) hnames
  have hcongr : (trimOrder sections).map (fun s => trimLoop m.maxTokens (trimOrder sections)
      (byName sections) (totalTokens sections) s.name) =
      ((trimOrder sections).map (settledSection m sections)).map some := by
    rw [List.map_map]
    apply List.map_congr_left
    intro s hs
    exact trimLoop_eq_outcome hnames (mem_trimOrder.1 hs).1
  rw [hcongr] at hsome
  exact List.map_injective_iff.2 (Option.some_injective _) hsome

theorem totalTokens_perm {l l' : List PromptSection} (h : l.Perm l') :
    totalTokens l = totalTokens l' := (h.map _).sum_nat

theorem totalTokens_append (l l' : List PromptSection) :
    totalTokens (l ++ l') = totalTokens l + totalTokens l' := by
  rw [totalTokens, List.map_append, List.sum_append]
  rfl

theorem sections_perm (sections : List PromptSection) :
    sections.Perm ((sections.filter fun s => s.isRequired) ++ trimOrder sections) := by
  have hsplit := List.filter_append_perm (fun s : PromptSection => s.isRequired) sections
  apply hsplit.symm.trans
  apply List.Perm.append_left
  exact (List.perm_insertionSort _ _).symm

theorem totalTokens_sections (sections : List PromptSection) :
    totalTokens sections = requiredTokens sections + totalTokens (trimOrder sections) := by
  rw [totalTokens_perm (sections_perm sections), totalTokens_append]
  rfl

theorem totalTokens_enforce (hnames : (sections.map PromptSection.name).Nodup)
    (hover : ¬ totalTokens sections ≤ m.maxTokens) :
    totalTokens (m.enforce sections) = requiredTokens sections +
      totalTokens (trimmedSections m.maxTokens (trimOrder sections) (totalTokens sections)) := by
  rw [enforce_eq_map hnames hover,
    totalTokens_perm ((sections_perm sections).map (settledSection m sections)), List.map_append,
    totalTokens_append, map_outcome_trimOrder hnames, requiredTokens]
  congr 2
  apply (List.map_congr_left _).trans (List.map_id _)
  intro s hs
  obtain ⟨hm, hr⟩ := List.mem_filter.1 hs
  rw [settledSection, settledSection_required hnames hm hr]
  rfl

theorem outcome_split (m : PromptBudgetManager)
    (hnames : (sections.map PromptSection.name).Nodup) :
    ∃ l₁ l₂, trimOrder sections = l₁ ++ l₂ ∧ (∀ s ∈ l₁, Trimmed s (settledSection m sections s)) ∧
      ∀ s ∈ l₂, settledSection m sections s = s := by
  obtain ⟨l₁, l₂, l₁', hl, ht, hall⟩ :=
    trimmedSections_split m.maxTokens (trimOrder sections) (totalTokens sections)
  have hmap := map_outcome_trimOrder (m := m) hnames
  rw [ht, hl, List.map_append] at hmap
  have hlength : (l₁.map (settledSection m sections)).length = l₁'.length := by
    rw [List.length_map]
    exact hall.length_eq
  obtain ⟨h₁, h₂⟩ := List.append_inj hmap hlength
  refine ⟨l₁, l₂, hl, ?_, ?_⟩
  · rw [← h₁, List.forall₂_map_right_iff, List.forall₂_same] at hall
    exact hall
  · intro s hs
    exact List.map_inj_left.1 (h₂.trans (List.map_id l₂).symm) s hs

theorem outcome_name (hnames : (sections.map PromptSection.name).Nodup) (hs : s ∈ sections) :
    (settledSection m sections s).name = s.name := by
  cases hr : s.isRequired with
  | true => rw [settledSection, settledSection_required hnames hs hr, Option.getD_some]
  | false =>
    obtain ⟨l₁, l₂, hl, ht, hsame⟩ := outcome_split m hnames
    have hm := mem_trimOrder.2 ⟨hs, hr⟩
    rw [hl, List.mem_append] at hm
    rcases hm with hm | hm
    · obtain ⟨excess, _, he⟩ := ht s hm
      rw [he, shrinkOrDrop_name]
    · rw [hsame s hm]

theorem mem_zip_map {f : α → β} {l : List α} : (a, b) ∈ l.zip (l.map f) ↔ a ∈ l ∧ b = f a := by
  have hzip := List.zip_map' (f := id) (g := f) (l := l)
  rw [List.map_id] at hzip
  rw [hzip, List.mem_map]
  constructor
  · intro h
    obtain ⟨a', ha', he⟩ := h
    cases he
    exact ⟨ha', rfl⟩
  · intro h
    exact ⟨a, h.1, by rw [h.2]; rfl⟩

/-- Whatever has become of the tokens, no required section is touched, and none before its turn. -/
theorem enforced_of_fits (hnames : (sections.map PromptSection.name).Nodup)
    (hover : ¬ totalTokens sections ≤ m.maxTokens)
    (hfits : requiredTokens sections ≤ m.maxTokens →
      totalTokens (m.enforce sections) ≤ m.maxTokens) :
    Enforced m.maxTokens sections (m.enforce sections) := by
  have htotal := totalTokens_enforce hnames hover
  have hsum := totalTokens_sections sections
  have hmap := enforce_eq_map hnames hover
  constructor
  · exact hfits
  · by_cases hr : requiredTokens sections ≤ m.maxTokens
    · have hle := hfits hr
      omega
    · have hempty : totalTokens (trimmedSections m.maxTokens (trimOrder sections)
          (totalTokens sections)) ≤ totalTokens (trimOrder sections) :=
        trimmedSections_emptied (by omega)
      omega
  · rw [hmap, List.map_map]
    apply List.map_congr_left
    intro s hs
    exact outcome_name hnames hs
  · intro s r hz hr
    rw [hmap, mem_zip_map] at hz
    rw [hz.2, settledSection, settledSection_required hnames hz.1 hr, Option.getD_some]
  · intro s r hz hne s' r' hz' hr' hlt
    rw [hmap, mem_zip_map] at hz hz'
    obtain ⟨hs, rfl⟩ := hz
    obtain ⟨hs', rfl⟩ := hz'
    obtain ⟨l₁, l₂, hl, ht, hsame⟩ := outcome_split m hnames
    have hr : s.isRequired = false := by
      by_contra hr
      rw [settledSection, settledSection_required hnames hs (by simpa using hr)] at hne
      exact hne rfl
    have hm := mem_trimOrder.2 ⟨hs, hr⟩
    have hm' := mem_trimOrder.2 ⟨hs', hr'⟩
    rw [hl, List.mem_append] at hm hm'
    rcases hm' with hm' | hm'
    · exact ht s' hm'
    · have hm₁ : s ∈ l₁ := hm.resolve_right fun h => hne (hsame s h)
      have hsorted := List.pairwise_insertionSort
        (fun a b : PromptSection => a.priority ≤ b.priority)
        (sections.filter fun s => !s.isRequired)
      rw [← trimOrder, hl, List.pairwise_append] at hsorted
      exact absurd (hsorted.2.2 s hm₁ s' hm') (Nat.not_le.2 hlt)

/-- The sections fit as they are, or the required ones do not, or trimming settles. -/
def Settled (m : PromptBudgetManager) (sections : List PromptSection) : Prop :=
  totalTokens sections ≤ m.maxTokens ∨ m.maxTokens < requiredTokens sections ∨
    Settles (totalTokens sections - m.maxTokens) 0 (trimOrder sections)

theorem enforced_iff_settled (hnames : (sections.map PromptSection.name).Nodup)
    (hcounted : Counted sections) :
    Enforced m.maxTokens sections (m.enforce sections) ↔ Settled m sections := by
  by_cases hfit : totalTokens sections ≤ m.maxTokens
  · rw [enforce_of_fits hfit]
    have hself : ∀ s r, (s, r) ∈ sections.zip sections → r = s := by
      intro s r hz
      nth_rewrite 2 [← List.map_id sections] at hz
      exact (mem_zip_map.1 hz).2
    refine iff_of_true ⟨fun _ => hfit, Nat.le_refl _, rfl, fun s r hz _ => hself s r hz, ?_⟩
      (.inl hfit)
    intro s r hz hne
    exact absurd (hself s r hz) hne
  have hsum := totalTokens_sections sections
  have htrim : Counted (trimOrder sections) := fun s hs => hcounted s (mem_trimOrder.1 hs).1
  have hsettles : totalTokens (m.enforce sections) ≤ m.maxTokens ↔
      Settles (totalTokens sections - m.maxTokens) 0 (trimOrder sections) := by
    rw [totalTokens_enforce hnames hfit, ← settles_iff htrim (by omega) (Int.le_refl 0)]
    omega
  constructor
  · intro h
    by_cases hr : m.maxTokens < requiredTokens sections
    · exact .inr (.inl hr)
    · exact .inr (.inr (hsettles.1 (h.fits (Nat.not_lt.1 hr))))
  · intro h
    apply enforced_of_fits hnames hfit
    intro hr
    rcases h with h | h | h
    · exact absurd h hfit
    · exact absurd hr (Nat.not_le.2 h)
    · exact hsettles.2 h

end Enforce

/-- Sections of ten tokens or more, in which no cut ends in many blanks. -/
def Dense (sections : List PromptSection) : Prop :=
  ∀ s ∈ sections, 10 ≤ s.estimatedTokens ∧ ∀ tokens, cutBlanks s tokens < 35

theorem Dense.of_cons (h : Dense (s :: sections)) : Dense sections :=
  fun s' hs' => h s' (List.mem_cons_of_mem _ hs')

theorem not_settles_after_cut (hd : Dense sections) (hm : 0 < excess) (hle : excess ≤ 9) :
    ¬ Settles excess grown sections := by
  induction sections generalizing excess grown with
  | nil =>
    intro h
    cases h with
    | met hm' => omega
  | cons s rest ih =>
    obtain ⟨hlarge, hblanks⟩ := hd s List.mem_cons_self
    intro h
    cases h with
    | met hm' => omega
    | whole _ hle' => omega
    | cut _ _ ho hs =>
      have hb := hblanks (s.estimatedTokens - excess.toNat)
      rw [overshoot] at ho
      exact ih hd.of_cons (by omega) (by omega) hs

/-- In dense sections, the budget is met just when the first few in trim order make up the
excess exactly. -/
theorem settles_dense_iff (hd : Dense sections) (hm : 0 < excess) :
    Settles excess 0 sections ↔ ∃ l₁ l₂, sections = l₁ ++ l₂ ∧ (totalTokens l₁ : Int) = excess := by
  induction sections generalizing excess with
  | nil =>
    constructor
    · intro h
      cases h with
      | met hm' => omega
    · intro h
      obtain ⟨l₁, l₂, he, ht⟩ := h
      rw [(List.append_eq_nil_iff.1 he.symm).1] at ht
      exact absurd ht hm.ne
  | cons s rest ih =>
    constructor
    · intro h
      cases h with
      | met hm' => omega
      | whole _ hle hs =>
        by_cases hlast : excess - s.estimatedTokens = 0
        · refine ⟨[s], rest, rfl, ?_⟩
          rw [totalTokens_cons, totalTokens, List.map_nil, List.sum_nil]
          omega
        · obtain ⟨l₁, l₂, he, ht⟩ := (ih hd.of_cons (by omega)).1 hs
          refine ⟨s :: l₁, l₂, by rw [he]; rfl, ?_⟩
          rw [totalTokens_cons]
          omega
      | cut _ _ ho hs =>
        have hb := (hd s List.mem_cons_self).2 (s.estimatedTokens - excess.toNat)
        rw [overshoot] at ho
        exact absurd hs (not_settles_after_cut hd.of_cons (by omega) (by omega))
    · intro h
      obtain ⟨l₁, l₂, he, ht⟩ := h
      cases l₁ with
      | nil => exact absurd ht hm.ne
      | cons s' l₁ =>
        cases he
        rw [totalTokens_cons] at ht
        refine .whole hm (by omega) ?_
        by_cases hlast : excess - s.estimatedTokens = 0
        · rw [hlast]
          exact .met (Int.le_refl _) (by omega)
        · exact (ih hd.of_cons (by omega)).2 ⟨l₁, l₂, rfl, by omega⟩

/-- Enforcing the budget does all that it should just when trimming settles; in dense sections, just
when the first few in trim order make up the excess exactly. -/
theorem enforce_iff (hnames : (sections.map PromptSection.name).Nodup)
    (hcounted : Counted sections) :
    (Enforced m.maxTokens sections (m.enforce sections) ↔ Settled m sections) ∧
      (Dense (trimOrder sections) → m.maxTokens < totalTokens sections →
        requiredTokens sections ≤ m.maxTokens →
        (Enforced m.maxTokens sections (m.enforce sections) ↔
          ∃ l₁ l₂, trimOrder sections = l₁ ++ l₂ ∧
            totalTokens l₁ = totalTokens sections - m.maxTokens)) := by
  have hiff := enforced_iff_settled (m := m) hnames hcounted
  refine ⟨hiff, fun hd hover hr => ?_⟩
  have hexcess : (0 : Int) < (totalTokens sections : Int) - m.maxTokens := by omega
  have hsettled : Settled m sections ↔
      Settles (totalTokens sections - m.maxTokens) 0 (trimOrder sections) := by
    constructor
    · rintro (h | h | h)
      · exact absurd h (Nat.not_le.2 hover)
      · exact absurd hr (Nat.not_le.2 h)
      · exact h
    · exact fun h => .inr (.inr h)
  rw [hiff, hsettled, settles_dense_iff hd hexcess]
  constructor
  · rintro ⟨l₁, l₂, hl, ht⟩
    exact ⟨l₁, l₂, hl, by omega⟩
  · rintro ⟨l₁, l₂, hl, ht⟩
    exact ⟨l₁, l₂, hl, by omega⟩

def systemText : PromptSection := ⟨.system, "Answer", 2, 0, true, [], []⟩

def exampleText : PromptSection := ⟨.retrievedExamples, "abcdefgh", 2, 1, false, ["e1"], []⟩

theorem enforce_drops_examples :
    Enforced 2 [systemText, exampleText]
      (PromptBudgetManager.enforce ⟨2, by decide⟩ [systemText, exampleText]) := by
  refine (enforce_iff (m := ⟨2, by decide⟩) (by decide) ?_).1.2 (.inr (.inr ?_))
  · intro s hs
    rcases List.mem_cons.1 hs with rfl | hs
    · decide +kernel
    · rw [List.mem_singleton.1 hs]
      decide +kernel
  · exact .whole (by decide) (by decide) (.met (by decide) (by decide))

/-- A section of two tokens that is cut to one comes out at ten. -/
theorem enforce_exceeds : Counted [exampleText] ∧ requiredTokens [exampleText] ≤ 1 ∧
    ¬ Enforced 1 [exampleText] (PromptBudgetManager.enforce ⟨1, by decide⟩ [exampleText]) := by
  have htokens : totalTokens (PromptBudgetManager.enforce ⟨1, by decide⟩ [exampleText]) = 10 := by
    decide +kernel
  refine ⟨?_, by decide, ?_⟩
  · intro s hs
    rw [List.mem_singleton.1 hs]
    decide +kernel
  · intro h
    have hfits := h.fits (by decide)
    rw [htokens] at hfits
    exact absurd hfits (by decide)

end QueryMind.Prompt
