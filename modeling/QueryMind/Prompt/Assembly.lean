import QueryMind.Prompt.Compiler

namespace QueryMind.Prompt
open Lib Lib.Lines Sql
set_option autoImplicit true

theorem trimLoop_invariant {P : PromptSection → Prop}
    (hw : ∀ n, ∃ t, working n = some t ∧ t.name = n ∧ P t)
    (ho : ∀ s ∈ order, ∀ excess, P (shrinkOrDrop s excess).1) (n : SectionName) :
    ∃ t, trimLoop maxTokens order working total n = some t ∧ t.name = n ∧ P t := by
  induction order generalizing working total with
  | nil => exact hw n
  | cons s rest ih =>
    rw [trimLoop_cons]
    split
    · exact hw n
    · apply ih _ fun t ht => ho t (List.mem_cons_of_mem _ ht)
      intro m
      split
      · rename_i hm
        exact ⟨_, rfl, (shrinkOrDrop_name ..).trans hm.symm, ho s List.mem_cons_self _⟩
      · exact hw m

namespace Built

theorem trimOrder_all (s : Built) :
    trimOrder s.all =
      [s.get .retrievedExamples, s.get .schemaContext, s.get .relationship,
        s.get .businessContext] := by
  simp [trimOrder, all, SectionName.all, s.required_eq, s.priority_eq, SectionName.isRequired,
    SectionName.priority, List.insertionSort]

def working (budget : PromptBudgetManager) (s : Built) : SectionName → Option PromptSection :=
  trimLoop budget.maxTokens (trimOrder s.all) (byName s.all) (totalTokens s.all)

theorem working_invariant (budget : PromptBudgetManager) {s : Built} {P : PromptSection → Prop}
    (hb : ∀ n, P (s.get n)) (ht : ∀ n excess, P (shrinkOrDrop (s.get n) excess).1)
    (n : SectionName) : ∃ t, s.working budget n = some t ∧ t.name = n ∧ P t := by
  apply trimLoop_invariant
  · intro m
    exact ⟨s.get m, byName_map s.name_eq m, s.name_eq m, hb m⟩
  · intro t hm excess
    rw [trimOrder_all] at hm
    simp only [List.mem_cons, List.not_mem_nil, or_false] at hm
    rcases hm with rfl | rfl | rfl | rfl <;> exact ht _ _

theorem trimmed_of_not_fits {s : Built} (h : ¬ s.Fits budget) (n : SectionName) :
    s.working budget n = some (s.trimmed budget n) := by
  have hw : ∀ m, ∃ t, s.working budget m = some t ∧ t.name = m ∧ True :=
    s.working_invariant budget (fun _ => trivial) (fun _ _ => trivial)
  choose g hg using hw
  have he : budget.enforce s.all = SectionName.all.map g := by
    rw [PromptBudgetManager.enforce]
    refine (if_neg h).trans ?_
    change s.all.filterMap (fun t => s.working budget t.name) = _
    rw [all, List.filterMap_map, ← List.filterMap_eq_map]
    apply List.filterMap_congr
    intro m _
    simp only [Function.comp_apply, s.name_eq, (hg m).1]
  rw [trimmed, he, byName_map fun m => (hg m).2.1, Option.getD_some]
  exact (hg n).1

theorem trimmed_examples {s : Built} (h : ¬ s.Fits budget) :
    s.trimmed budget .retrievedExamples =
      (shrinkOrDrop (s.get .retrievedExamples) (totalTokens s.all - budget.maxTokens)).1 := by
  apply Option.some.inj
  have hover : ¬ totalTokens s.all ≤ budget.maxTokens := h
  rw [← trimmed_of_not_fits h, working, trimOrder_all, trimLoop_cons, if_neg hover, trimLoop_other,
    if_pos (s.name_eq _).symm]
  simp only [List.map_cons, List.map_nil, s.name_eq]
  decide

theorem mem_trimmed (budget : PromptBudgetManager) (s : Built) (n : SectionName)
    (h : c ∈ (s.trimmed budget n).content.toList) :
    c ∈ (s.get n).content.toList ∨ c ∈ truncationMarker.toList := by
  by_cases hf : s.Fits budget
  · rw [trimmed_of_fits hf] at h
    exact .inl h
  · have hkept : ∀ m, ∀ c ∈ (s.get m).content.toList,
        c ∈ (s.get (s.get m).name).content.toList ∨ c ∈ truncationMarker.toList := by
      intro m c hc
      rw [s.name_eq]
      exact .inl hc
    have hcut : ∀ m excess, ∀ c ∈ (shrinkOrDrop (s.get m) excess).1.content.toList,
        c ∈ (s.get (shrinkOrDrop (s.get m) excess).1.name).content.toList ∨
          c ∈ truncationMarker.toList := by
      intro m excess c hc
      rw [shrinkOrDrop_name, s.name_eq]
      rw [shrinkOrDrop] at hc
      split at hc
      · cases hc
      · rw [String.toList_append, List.mem_append] at hc
        rcases hc with hc | hc
        · rw [Text.rstrip, String.toList_ofList] at hc
          have hm := (List.rdropWhile_prefix _ _).subset hc
          rw [Text.take, String.toList_ofList] at hm
          exact .inl (List.mem_of_mem_take hm)
        · exact .inr hc
    obtain ⟨t, ht, hn, hp⟩ := s.working_invariant (P := fun t => ∀ c ∈ t.content.toList,
      c ∈ (s.get t.name).content.toList ∨ c ∈ truncationMarker.toList) budget hkept hcut n
    rw [trimmed_of_not_fits hf] at ht
    cases ht
    rw [hn] at hp
    exact hp c h

end Built

/-- What trimming leaves of a text: nothing, or a shorter front and the marker. -/
def Abridged (whole rest : String) : Prop :=
  rest = "" ∨ ∃ k < whole.length, rest = Text.rstrip (Text.take whole k) ++ truncationMarker

theorem abridged_shrinkOrDrop (name : SectionName) (content : String) (he : 0 < excess) :
    Abridged content (shrinkOrDrop (textSection name content) excess).1.content := by
  rw [shrinkOrDrop]
  split
  · exact .inl rfl
  · rename_i hn
    refine .inr ⟨_, ?_, rfl⟩
    rw [textSection, estimateTokens, charsPerToken] at hn ⊢
    dsimp only at hn ⊢
    omega

def sectionText (header : String) (s : PromptSection) : Option String :=
  let content := Text.strip s.content
  if content.isEmpty then none else some (header ++ "\n" ++ content)

theorem sectionText_some {s : PromptSection} (h : Text.strip s.content ≠ "") :
    sectionText header s = some (header ++ "\n" ++ Text.strip s.content) := by
  rw [sectionText]
  exact if_neg (mt String.isEmpty_iff.1 h)

theorem contains_sectionText (header : String) (s : PromptSection) :
    Contains (header ++ "\n" ++ Text.strip s.content) (Text.strip s.content) :=
  ⟨(header ++ "\n").toList, [], by rw [List.append_nil, ← String.toList_append]⟩

theorem mem_sectionText (h : sectionText header s = some t) (hc : c ∈ t.toList) :
    c ∈ header.toList ∨ c ∈ "\n".toList ∨ c ∈ s.content.toList := by
  rw [sectionText] at h
  split at h
  · cases h
  · cases h
    rw [String.toList_append, String.toList_append, List.mem_append, List.mem_append] at hc
    rcases hc with (hc | hc) | hc
    · exact .inl hc
    · exact .inr (.inl hc)
    · apply Or.inr
      apply Or.inr
      rw [Text.strip, String.toList_ofList, Text.stripChars] at hc
      exact (List.dropWhile_suffix _).subset ((List.rdropWhile_prefix _ _).subset hc)

theorem asText_assemble {template : PromptTemplate} {header : SectionName → String}
    (ho : template.orderedNames = SectionName.all)
    (hs : ∀ n, (template.specFor n).map (·.header) = some (header n)) (s : Built) :
    (s.assemble template budget dialect).asText =
      "\n\n".intercalate
        (SectionName.all.filterMap (fun n => sectionText (header n) (s.trimmed budget n))) := by
  rw [CompiledPrompt.asText, Built.assemble_template, format, Built.assemble_sections, ho]
  apply congrArg
  apply List.filterMap_congr
  intro n _
  obtain ⟨spec, hspec, hhead⟩ := Option.map_eq_some_iff.1 (hs n)
  simp only [sectionText, hspec, Option.map_some, hhead]

end QueryMind.Prompt
