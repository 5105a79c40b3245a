import QueryMind.Prompt.Compiler

namespace QueryMind.Prompt
open Lib Lib.Lines Metadata SchemaLinker Sql
set_option autoImplicit true

/-- What the prompt lists of a context. -/
structure Listing where
  concepts : List String
  schema : List String
  joins : List String
  deriving DecidableEq, Repr

def listing (c : LinkedQueryContext) : Listing where
  concepts := c.queryContext.businessConcepts
  schema := schemaLines c
  joins := relationshipLines c

def OneLine (c : LinkedQueryContext) : Prop :=
  ∀ l ∈ businessLines c ++ schemaLines c ++ relationshipLines c, IsLine l

instance : Decidable (OneLine c) := inferInstanceAs (Decidable (∀ _ ∈ _, _))

/-- The sections are within the budget as they were built. -/
def Fits (budget : PromptBudgetManager) (b : RetrievedKnowledgeBundle) (dialect : SQLDialect) :
    Prop :=
  (builtSections b dialect).Fits budget

instance : Decidable (Fits budget b dialect) := inferInstanceAs (Decidable (_ ≤ _))

theorem totalTokens_all (f : SectionName → PromptSection) :
    totalTokens (SectionName.all.map f) =
      totalTokens ([.system, .constraint, .outputFormat].map f) +
        totalTokens
          ([.businessContext, .schemaContext, .relationship, .retrievedExamples].map f) := by
  simp only [totalTokens, SectionName.all, List.map_cons, List.map_nil, List.sum_cons,
    List.sum_nil]
  omega

theorem fits_of (h : 325 + totalTokens ([.businessContext, .schemaContext, .relationship,
    .retrievedExamples].map (build b dialect)) ≤ budget.maxTokens) : Fits budget b dialect := by
  rw [Fits, Built.Fits, Built.all, totalTokens_all]
  exact (Nat.add_le_add_right (requiredTokens_le b dialect) _).trans h

def part (b : RetrievedKnowledgeBundle) (dialect : SQLDialect) (n : SectionName) : Option String :=
  let content := Text.strip (build b dialect n).content
  if content.isEmpty then none else some (n.header ++ "\n" ++ content)

theorem asText_of_fits (h : Fits budget b dialect) :
    (assemble defaultPromptTemplate budget b dialect).asText =
      "\n\n".intercalate (SectionName.all.filterMap (part b dialect)) := by
  rw [CompiledPrompt.asText, assemble, Built.assemble_template, format, Built.assemble_sections,
    defaultPromptTemplate_orderedNames]
  apply congrArg
  apply List.filterMap_congr
  intro n _
  obtain ⟨spec, hspec, hhead⟩ := Option.map_eq_some_iff.1 (defaultPromptTemplate_specFor n)
  have htrimmed : (builtSections b dialect).trimmed budget n = build b dialect n :=
    Built.trimmed_of_fits h n
  simp only [htrimmed, part, hspec, Option.map_some, hhead]

/-- The lines of a section: an introduction and a list, or a remark that the list is empty. -/
def block (remark : String) (intro lines : List String) : List String :=
  if lines.isEmpty then [remark] else intro ++ lines

theorem block_ne_nil {remark : String} : block remark intro lines ≠ [] := by
  rw [block]
  split
  · exact List.cons_ne_nil remark []
  · rename_i h
    intro he
    exact h (List.isEmpty_iff.2 (List.append_eq_nil_iff.1 he).2)

theorem block_isLine {remark : String} (hr : IsLine remark) (hi : ∀ l ∈ intro, IsLine l)
    (hl : ∀ l ∈ lines, IsLine l) : ∀ l ∈ block remark intro lines, IsLine l := by
  intro l hm
  rw [block] at hm
  split at hm
  · rw [List.mem_singleton.1 hm]
    exact hr
  · rcases List.mem_append.1 hm with hm | hm
    · exact hi l hm
    · exact hl l hm

theorem remark_mem_block (h : [remark] = intro ++ lines) (hn : ¬lines.isEmpty = true) :
    remark ∈ lines := by
  have hn := mt List.isEmpty_iff.2 hn
  have hg := congrArg List.getLast? h
  rw [List.getLast?_singleton, List.getLast?_append_of_ne_nil _ hn,
    List.getLast?_eq_some_getLast hn] at hg
  rw [Option.some.inj hg]
  exact List.getLast_mem hn

theorem block_inj {remark : String} (h₁ : remark ∉ ls₁) (h₂ : remark ∉ ls₂)
    (h : block remark intro ls₁ = block remark intro ls₂) : ls₁ = ls₂ := by
  rw [block, block] at h
  split at h <;> rename_i he₁ <;> split at h <;> rename_i he₂
  · rw [List.isEmpty_iff.1 he₁, List.isEmpty_iff.1 he₂]
  · exact absurd (remark_mem_block h he₂) h₂
  · exact absurd (remark_mem_block h.symm he₁) h₁
  · exact List.append_cancel_left h

theorem unlines_block (remark intro : String) (lines : List String) :
    unlines (block remark [intro] lines) =
      if lines.isEmpty then remark else intro ++ "\n" ++ unlines lines := by
  rw [block]
  split
  · exact String.intercalate_singleton
  · rename_i h
    exact unlines_cons (mt List.isEmpty_iff.2 h)

def contextBlock (c : LinkedQueryContext) : SectionName → List String
  | .businessContext =>
    block noBusinessConcepts ["This question relates to the following business concepts:"]
      (businessLines c)
  | .schemaContext => block noSchemaObjects [] (schemaLines c)
  | .relationship => block noRelationships ["Join these tables as follows:"] (relationshipLines c)
  | _ => []

def contextNames : List SectionName := [.businessContext, .schemaContext, .relationship]

theorem build_content (b : RetrievedKnowledgeBundle) (dialect : SQLDialect)
    (hn : n ∈ contextNames) :
    (build b dialect n).content = unlines (contextBlock b.linkedQueryContext n) := by
  simp only [contextNames, List.mem_cons, List.not_mem_nil, or_false] at hn
  rcases hn with rfl | rfl | rfl
  · rw [contextBlock, unlines_block]
    rfl
  · rw [contextBlock, block]
    show ite _ _ _ = _
    split
    · exact String.intercalate_singleton.symm
    · rfl
  · rw [contextBlock, unlines_block]
    rfl

theorem contextBlock_ne_nil (c : LinkedQueryContext) (hn : n ∈ contextNames) :
    contextBlock c n ≠ [] := by
  simp only [contextNames, List.mem_cons, List.not_mem_nil, or_false] at hn
  rcases hn with rfl | rfl | rfl <;> exact block_ne_nil

theorem OneLine.contextBlock (h : OneLine c) (n : SectionName) :
    ∀ l ∈ contextBlock c n, IsLine l := by
  have hb : ∀ l ∈ businessLines c, IsLine l := fun l hl => h l (by simp [hl])
  have hs : ∀ l ∈ schemaLines c, IsLine l := fun l hl => h l (by simp [hl])
  have hr : ∀ l ∈ relationshipLines c, IsLine l := fun l hl => h l (by simp [hl])
  cases n with
  | businessContext => exact block_isLine (by decide) (by decide) hb
  | schemaContext => exact block_isLine (by decide) (by decide) hs
  | relationship => exact block_isLine (by decide) (by decide) hr
  | _ =>
    intro l hl
    cases hl

theorem header_isLine (n : SectionName) : IsLine n.header := by
  cases n <;> decide

theorem part_of_oneLine (h : OneLine b.linkedQueryContext) (hn : n ∈ contextNames) :
    part b dialect n = some (unlines (n.header :: contextBlock b.linkedQueryContext n)) := by
  have hb := contextBlock_ne_nil b.linkedQueryContext hn
  obtain ⟨he, ht⟩ := unlines_trimmed (h.contextBlock n) hb
  rw [part, build_content b dialect hn, strip_of_trimmed ht, unlines_cons hb]
  exact if_neg (mt String.isEmpty_iff.1 he)

/-- The middle of the prompt: each section's header and lines. -/
def contextParagraphs (c : LinkedQueryContext) : List (List String) :=
  contextNames.map (fun n => n.header :: contextBlock c n)

theorem parts_of_oneLine (h : OneLine b.linkedQueryContext) :
    contextNames.filterMap (part b dialect) =
      (contextParagraphs b.linkedQueryContext).map unlines := by
  rw [contextParagraphs, List.map_map, ← List.filterMap_eq_map]
  apply List.filterMap_congr
  intro n hn
  exact part_of_oneLine h hn

theorem contextParagraphs_lines (h : OneLine c) :
    ∀ p ∈ contextParagraphs c, p ≠ [] ∧ ∀ l ∈ p, IsLine l := by
  intro p hp
  obtain ⟨n, _, rfl⟩ := List.mem_map.1 hp
  constructor
  · exact List.cons_ne_nil _ _
  · intro l hl
    rcases List.mem_cons.1 hl with rfl | hl
    · exact header_isLine n
    · exact h.contextBlock n l hl

theorem head_ne {pre : String} {rest : String} {s : String}
    (h : pre.toList.head?.isSome ∧ pre.toList.head? ≠ s.toList.head?) : pre ++ rest ≠ s := by
  rintro rfl
  apply h.2
  obtain ⟨c, hc⟩ := Option.isSome_iff_exists.1 h.1
  rw [String.toList_append, List.head?_append, hc, Option.some_or]

theorem noBusinessConcepts_notMem (c : LinkedQueryContext) :
    noBusinessConcepts ∉ businessLines c := by
  intro h
  obtain ⟨concept, _, he⟩ := List.mem_map.1 h
  exact head_ne (by decide) he

theorem noSchemaObjects_notMem (c : LinkedQueryContext) : noSchemaObjects ∉ schemaLines c := by
  intro h
  rcases List.mem_append.1 h with h | h
  · obtain ⟨t, _, he⟩ := List.mem_map.1 h
    rw [tableLine, String.append_assoc, String.append_assoc] at he
    exact head_ne (by decide) he
  · obtain ⟨t, _, he⟩ := List.mem_map.1 h
    rw [columnLine, String.append_assoc, String.append_assoc, String.append_assoc,
      String.append_assoc] at he
    exact head_ne (by decide) he

theorem noRelationships_notMem (c : LinkedQueryContext) :
    noRelationships ∉ relationshipLines c := by
  intro h
  obtain ⟨edge, _, he⟩ := List.mem_map.1 h
  simp only [edgeLine, String.append_assoc] at he
  exact head_ne (by decide) he

theorem businessLines_inj (h : businessLines c₁ = businessLines c₂) :
    c₁.queryContext.businessConcepts = c₂.queryContext.businessConcepts := by
  apply List.map_injective_iff.2 _ h
  intro s t he
  simpa [String.append_right_inj] using he

theorem listing_of_paragraphs (h : contextParagraphs c₁ = contextParagraphs c₂) :
    listing c₁ = listing c₂ := by
  simp only [contextParagraphs, contextNames, List.map_cons, List.map_nil, List.cons.injEq,
    true_and, and_true] at h
  obtain ⟨hb, hs, hr⟩ := h
  rw [listing, listing, Listing.mk.injEq]
  constructor
  · apply businessLines_inj
    exact block_inj (noBusinessConcepts_notMem c₁) (noBusinessConcepts_notMem c₂) hb
  constructor
  · exact block_inj (noSchemaObjects_notMem c₁) (noSchemaObjects_notMem c₂) hs
  · exact block_inj (noRelationships_notMem c₁) (noRelationships_notMem c₂) hr

def frontNames : List SectionName := [.system]

def backNames : List SectionName := [.retrievedExamples, .constraint, .outputFormat]

theorem part_of_examples (h : b₁.retrievedExamples = b₂.retrievedExamples)
    (hn : n ∈ frontNames ++ backNames) : part b₁ dialect n = part b₂ dialect n := by
  have hb : build b₁ dialect n = build b₂ dialect n := by
    simp only [frontNames, backNames, List.cons_append, List.nil_append, List.mem_cons,
      List.not_mem_nil, or_false] at hn
    rcases hn with rfl | rfl | rfl | rfl
    · rfl
    · show exampleSection b₁ = exampleSection b₂
      rw [exampleSection, exampleSection, h]
    · rfl
    · rfl
  rw [part, part, hb]

theorem part_of_listing (h : listing b₁.linkedQueryContext = listing b₂.linkedQueryContext)
    (hn : n ∈ contextNames) : part b₁ dialect n = part b₂ dialect n := by
  obtain ⟨hc, hs, hr⟩ := (Listing.mk.injEq ..).mp h
  have hb : contextBlock b₁.linkedQueryContext n = contextBlock b₂.linkedQueryContext n := by
    cases n with
    | businessContext => rw [contextBlock, contextBlock, businessLines, businessLines, hc]
    | schemaContext => rw [contextBlock, contextBlock, hs]
    | relationship => rw [contextBlock, contextBlock, hr]
    | _ => rfl
  rw [part, part, build_content b₁ dialect hn, build_content b₂ dialect hn, hb]

theorem all_split : SectionName.all = frontNames ++ contextNames ++ backNames := rfl

section
variable {b₁ b₂ : RetrievedKnowledgeBundle} {budget : PromptBudgetManager} {dialect : SQLDialect}
variable (he : b₁.retrievedExamples = b₂.retrievedExamples)
variable (f₁ : Fits budget b₁ dialect) (f₂ : Fits budget b₂ dialect)
include he f₁ f₂

theorem asText_of_listing
    (h : listing b₁.linkedQueryContext = listing b₂.linkedQueryContext) :
    (assemble defaultPromptTemplate budget b₁ dialect).asText =
      (assemble defaultPromptTemplate budget b₂ dialect).asText := by
  rw [asText_of_fits f₁, asText_of_fits f₂]
  apply congrArg
  apply List.filterMap_congr
  intro n hn
  rw [all_split, List.append_assoc, List.mem_append, List.mem_append] at hn
  rcases hn with hn | hn | hn
  · exact part_of_examples he (List.mem_append_left _ hn)
  · exact part_of_listing h hn
  · exact part_of_examples he (List.mem_append_right _ hn)

theorem listing_of_asText (o₁ : OneLine b₁.linkedQueryContext)
    (o₂ : OneLine b₂.linkedQueryContext)
    (h : (assemble defaultPromptTemplate budget b₁ dialect).asText =
      (assemble defaultPromptTemplate budget b₂ dialect).asText) :
    listing b₁.linkedQueryContext = listing b₂.linkedQueryContext := by
  have hf : frontNames.filterMap (part b₁ dialect) = frontNames.filterMap (part b₂ dialect) :=
    List.filterMap_congr fun n hn => part_of_examples he (List.mem_append_left _ hn)
  have hb : backNames.filterMap (part b₁ dialect) = backNames.filterMap (part b₂ dialect) :=
    List.filterMap_congr fun n hn => part_of_examples he (List.mem_append_right _ hn)
  rw [asText_of_fits f₁, asText_of_fits f₂, all_split] at h
  simp only [List.filterMap_append, parts_of_oneLine o₁, parts_of_oneLine o₂, hf, hb] at h
  have hm := intercalate_middle_inj _ _ (by simp [contextParagraphs, contextNames])
    (by simp [contextParagraphs, contextNames]) h
  apply listing_of_paragraphs
  apply paragraphs_inj (contextParagraphs_lines o₁) (contextParagraphs_lines o₂) _ _ hm
  · simp [contextParagraphs, contextNames]
  · simp [contextParagraphs, contextNames]

end

end QueryMind.Prompt
