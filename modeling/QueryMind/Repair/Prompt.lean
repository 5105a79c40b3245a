import QueryMind.Prompt.Assembly
import QueryMind.Repair.Planner

namespace QueryMind.Repair
open Lib Lib.Lines Prompt Sql
set_option autoImplicit true

def repairSystemPreamble : String :=
  "You are a precise SQL repair assistant for QueryMind. You will be given a " ++
  "previously generated SQL query that failed validation, the exact validation " ++
  "errors it produced, and the schema and relationships it must draw from. Your " ++
  "job is to fix ONLY the reported errors."

def repairRules : List String :=
  ["Repair ONLY the reported validation errors -- do not rewrite unrelated parts of the query.",
    "Do not change the intended business question the query answers.",
    "Do not invent a table that was not already provided.",
    "Do not invent a column that was not already provided.",
    "Do not invent a relationship that was not already provided.",
    "Preserve the original query's intent.",
    "Return exactly one repaired SQL statement, and nothing else."]

def errorLine (issue : ValidationIssue) : String := "- [" ++ issue.code ++ "] " ++ issue.message

def repairContext (generatedSql : GeneratedSQL) (validationResult : SQLValidationResult)
    (plan : RepairPlan) : String :=
  "SQL requiring repair:\n" ++ generatedSql.sql ++ "\n\n" ++ plan.summary ++ "\n\n" ++
    "Validation errors:\n" ++ unlines (validationResult.errors.map errorLine)

/-- The builders of a repair: three of their own, the rest as in a first compile. -/
def repairBuild (b : RetrievedKnowledgeBundle) (generatedSql : GeneratedSQL)
    (validationResult : SQLValidationResult) (plan : RepairPlan) : SectionName → PromptSection
  | .system => textSection .system repairSystemPreamble
  | .retrievedExamples =>
    textSection .retrievedExamples (repairContext generatedSql validationResult plan)
  | .constraint =>
    textSection .constraint (unlines ((constraintRules ++ repairRules).map (fun r => "- " ++ r)))
  | n => build b generatedSql.dialect n

def repairBuilt (b : RetrievedKnowledgeBundle) (gs : GeneratedSQL) (vr : SQLValidationResult)
    (plan : RepairPlan) : Built where
  get := repairBuild b gs vr plan
  name_eq := by intro n; cases n <;> rfl
  priority_eq := by intro n; cases n <;> rfl
  required_eq := by intro n; cases n <;> rfl

def repairHeader : SectionName → String
  | .retrievedExamples => "## SQL Requiring Repair"
  | .constraint => "## Repair Rules"
  | n => n.header

def repairPromptTemplate : PromptTemplate where
  version := "1.0.0-repair"
  name := "repair"
  sectionSpecs :=
    [⟨.system, repairHeader .system, 1⟩,
      ⟨.businessContext, repairHeader .businessContext, 2⟩,
      ⟨.schemaContext, repairHeader .schemaContext, 3⟩,
      ⟨.relationship, repairHeader .relationship, 4⟩,
      ⟨.retrievedExamples, repairHeader .retrievedExamples, 5⟩,
      ⟨.constraint, repairHeader .constraint, 6⟩,
      ⟨.outputFormat, repairHeader .outputFormat, 7⟩]

/-- `RepairPromptBuilder.build`: a fresh compiler for every attempt. -/
def buildPrompt (b : RetrievedKnowledgeBundle) (gs : GeneratedSQL) (vr : SQLValidationResult)
    (plan : RepairPlan) : CompiledPrompt :=
  (repairBuilt b gs vr plan).assemble repairPromptTemplate defaultBudget gs.dialect

theorem repairPromptTemplate_orderedNames :
    repairPromptTemplate.orderedNames = SectionName.all := by
  decide

theorem repairPromptTemplate_specFor (n : SectionName) :
    (repairPromptTemplate.specFor n).map (·.header) = some (repairHeader n) := by
  cases n <;> rfl

theorem buildPrompt_asText (b : RetrievedKnowledgeBundle) (gs : GeneratedSQL)
    (vr : SQLValidationResult) (plan : RepairPlan) :
    (buildPrompt b gs vr plan).asText =
      "\n\n".intercalate (SectionName.all.filterMap (fun n =>
        sectionText (repairHeader n) ((repairBuilt b gs vr plan).trimmed defaultBudget n))) :=
  asText_assemble repairPromptTemplate_orderedNames repairPromptTemplate_specFor _

/-- What stands between the failing text and the list of errors. -/
def contextMiddle (plan : RepairPlan) : List Char :=
  ("\n\n" ++ plan.summary ++ "\n\n" ++ "Validation errors:\n").toList

theorem contextMiddle_colon (plan : RepairPlan) : ':' ∈ contextMiddle plan := by
  rw [contextMiddle, String.toList_append]
  exact List.mem_append_right _ (by decide)

theorem repairContext_toList (gs : GeneratedSQL) (vr : SQLValidationResult) (plan : RepairPlan) :
    (repairContext gs vr plan).toList = "SQL requiring repair:\n".toList ++
      (gs.sql.toList ++ contextMiddle plan) ++ (unlines (vr.errors.map errorLine)).toList := by
  unfold repairContext contextMiddle
  -- with the literals spelled out, comparing the two sides would run through their characters
  generalize "SQL requiring repair:\n" = front
  generalize "Validation errors:\n" = heading
  generalize "\n\n" = blank
  generalize unlines (vr.errors.map errorLine) = errors
  generalize gs.sql = sql
  generalize plan.summary = summary
  simp only [String.toList_append, List.append_assoc]

theorem context_contains_sql (gs : GeneratedSQL) (vr : SQLValidationResult) (plan : RepairPlan) :
    Contains (Text.strip (repairContext gs vr plan)) gs.sql := by
  have hc : ∃ c ∈ contextMiddle plan, Text.isSpace c = false :=
    ⟨':', contextMiddle_colon plan, by decide⟩
  have hs := Text.stripChars_infix "SQL requiring repair:\n".toList
    (gs.sql.toList ++ contextMiddle plan) (unlines (vr.errors.map errorLine)).toList (by decide)
    ⟨':', List.mem_append_right _ (contextMiddle_colon plan), by decide⟩
  rw [Text.rdropWhile_append hc] at hs
  rw [Contains, Text.strip, String.toList_ofList, repairContext_toList]
  exact List.IsInfix.trans ⟨[], _, rfl⟩ hs

theorem context_contains_error (gs : GeneratedSQL) (plan : RepairPlan)
    (h : issue ∈ vr.errors) :
    Contains (Text.strip (repairContext gs vr plan)) (Text.rstrip (errorLine issue)) := by
  obtain ⟨front, back, hl⟩ : Contains (unlines (vr.errors.map errorLine)) (errorLine issue) :=
    contains_intercalate "\n" (List.mem_map_of_mem h)
  have hd : '-' ∈ (errorLine issue).toList := by
    simp only [errorLine, String.toList_append, List.append_assoc]
    exact List.mem_append_left _ (by decide)
  have hs := Text.stripChars_infix
    ("SQL requiring repair:\n".toList ++ (gs.sql.toList ++ contextMiddle plan ++ front))
    (errorLine issue).toList back rfl ⟨'-', hd, by decide⟩
  rw [Contains, Text.strip, Text.rstrip, String.toList_ofList, String.toList_ofList,
    repairContext_toList, ← hl]
  simpa only [List.append_assoc] using hs

theorem repairBuilt_context (b : RetrievedKnowledgeBundle) (gs : GeneratedSQL)
    (vr : SQLValidationResult) (plan : RepairPlan) :
    (repairBuilt b gs vr plan).get .retrievedExamples =
      textSection .retrievedExamples (repairContext gs vr plan) := rfl

theorem strip_context_ne (gs : GeneratedSQL) (vr : SQLValidationResult) (plan : RepairPlan) :
    Text.strip (repairContext gs vr plan) ≠ "" := by
  intro he
  have hc := context_contains_sql gs vr plan
  rw [he] at hc
  exact gs.sql_nonempty (String.toList_eq_nil_iff.1 (List.infix_nil.1 hc))

theorem asText_contains_context {plan : RepairPlan}
    (h : (repairBuilt b gs vr plan).Fits defaultBudget) :
    Contains (buildPrompt b gs vr plan).asText (Text.strip (repairContext gs vr plan)) := by
  have hs := @sectionText_some (repairHeader .retrievedExamples)
    (textSection .retrievedExamples (repairContext gs vr plan)) (strip_context_ne gs vr plan)
  rw [buildPrompt_asText]
  apply Contains.trans (contains_intercalate _ (List.mem_filterMap.2 ⟨_, SectionName.mem_all _, _⟩))
    (contains_sectionText (repairHeader .retrievedExamples)
      (textSection .retrievedExamples (repairContext gs vr plan)))
  · exact .retrievedExamples
  · rw [Built.trimmed_of_fits h, repairBuilt_context]
    exact hs

/-- The prompt shows the failing text and each of its errors when the seven sections fit together;
when they do not, it is the context that is cut first, whatever else is there to cut. -/
theorem repair_prompt_complete (b : RetrievedKnowledgeBundle) (gs : GeneratedSQL)
    (vr : SQLValidationResult) (plan : RepairPlan) :
    ((repairBuilt b gs vr plan).Fits defaultBudget →
      Contains (buildPrompt b gs vr plan).asText gs.sql ∧
        ∀ issue ∈ vr.errors,
          Contains (buildPrompt b gs vr plan).asText (Text.rstrip (errorLine issue))) ∧
    (¬ (repairBuilt b gs vr plan).Fits defaultBudget →
      Abridged (repairContext gs vr plan)
        ((buildPrompt b gs vr plan).sections .retrievedExamples).content) := by
  constructor
  · intro h
    have hc := asText_contains_context h
    constructor
    · exact hc.trans (context_contains_sql gs vr plan)
    · intro issue hi
      exact hc.trans (context_contains_error gs plan hi)
  · intro h
    rw [buildPrompt, Built.assemble_sections, Built.trimmed_examples h, repairBuilt_context]
    exact abridged_shrinkOrDrop _ _ (Nat.sub_pos_of_lt (not_le.1 h))

/-- The sections that are never trimmed and the context are within the budget. -/
def RequiredFit (budget : PromptBudgetManager) (s : Built) : Prop :=
  totalTokens ([.system, .constraint, .outputFormat, .retrievedExamples].map s.get) ≤
    budget.maxTokens

def asksFor (concept : String) : RetrievedKnowledgeBundle where
  linkedQueryContext :=
    { queryContext :=
        { originalQuestion := "lamps"
          normalizedQuestion := "lamps"
          intent := .select
          primaryEntity := none
          secondaryEntities := []
          businessConcepts := [concept]
          metrics := []
          dimensions := []
          filters := []
          timeExpression := none
          sort := none
          limit := none
          aggregation := none }
      primaryEntity := none
      secondaryEntities := []
      metrics := []
      dimensions := []
      filters := []
      sort := none
      relationshipPaths := [] }
  retrievedExamples := []
  details := ""

def lampSql : GeneratedSQL where
  sql := "SELECT nme FROM products WHERE name LIKE '%lamp%'"
  dialect := .postgresql
  sql_nonempty := by decide

def lampVerdict : SQLValidationResult where
  generatedSql := lampSql
  isValid := false
  errors := [⟨"unknown_column", .error, "Column 'nme' does not exist on any table in scope.",
    some "nme"⟩]
  warnings := []

def lampBuilt (concept : String) : Built :=
  repairBuilt (asksFor concept) lampSql lampVerdict (plan lampVerdict)

def conceptText (concept : String) : String :=
  "This question relates to the following business concepts:\n" ++ ("- " ++ concept)

theorem lampBuilt_business (concept : String) : (lampBuilt concept).get .businessContext =
    textSection .businessContext (conceptText concept) := by
  have hb : (lampBuilt concept).get .businessContext = businessSection (asksFor concept) := rfl
  rw [hb]
  exact businessSection_single rfl

theorem length_le_append (front bullet pad : String) :
    pad.length ≤ (front ++ (bullet ++ pad)).length := by
  rw [String.length_append, String.length_append]
  omega

def longConcept (tokens : Nat) : String := .ofList (List.replicate (charsPerToken * tokens) 'x')

theorem conceptText_tokens (tokens : Nat) :
    tokens ≤ estimateTokens (conceptText (longConcept tokens)) := by
  have hl : (longConcept tokens).length = charsPerToken * tokens := by
    rw [longConcept, String.length_ofList, List.length_replicate]
  apply le_estimateTokens
  rw [← hl]
  exact length_le_append _ "- " (longConcept tokens)

theorem totalTokens_two (f : SectionName → PromptSection) :
    (f .businessContext).estimatedTokens + (f .retrievedExamples).estimatedTokens ≤
      totalTokens (SectionName.all.map f) := by
  simp only [totalTokens, SectionName.all, List.map_cons, List.map_nil, List.sum_cons,
    List.sum_nil]
  omega

theorem lamp_dropped (h : 4001 ≤ estimateTokens (conceptText concept)) :
    ((lampBuilt concept).trimmed defaultBudget .retrievedExamples).content = "" := by
  have ht : estimateTokens (conceptText concept) +
      ((lampBuilt concept).get .retrievedExamples).estimatedTokens ≤
        totalTokens (lampBuilt concept).all := by
    have ht := totalTokens_two (lampBuilt concept).get
    rw [lampBuilt_business] at ht
    exact ht
  have hmax : defaultBudget.maxTokens = 4000 := rfl
  have hover : ¬ (lampBuilt concept).Fits defaultBudget := by
    rw [Built.Fits, hmax]
    omega
  rw [Built.trimmed_examples hover, shrinkOrDrop, if_pos]
  rw [hmax]
  omega

theorem mem_unlines (h : c ∈ (unlines lines).toList) : c = '\n' ∨ ∃ l ∈ lines, c ∈ l.toList := by
  rcases mem_intercalate h with h | h
  · exact .inl (List.mem_singleton.1 h)
  · exact .inr h

theorem rules_without_percent : ∀ r ∈ constraintRules ++ repairRules, '%' ∉ r.toList := by
  intro r hr
  simp only [constraintRules, repairRules, List.cons_append, List.nil_append, List.mem_cons,
    List.not_mem_nil, or_false] at hr
  rcases hr with rfl | rfl | rfl | rfl | rfl | rfl | rfl | rfl | rfl | rfl | rfl | rfl | rfl <;>
    exact notMem_of_chars (by decide)

theorem lampBuilt_without_percent (hc : '%' ∉ concept.toList) (hn : n ≠ .retrievedExamples) :
    '%' ∉ ((lampBuilt concept).get n).content.toList := by
  cases n with
  | system =>
    show '%' ∉ repairSystemPreamble.toList
    apply notMem_append (notMem_append (notMem_append _ _) _) _ <;>
      exact notMem_of_chars (by decide)
  | businessContext =>
    rw [lampBuilt_business]
    show '%' ∉ (conceptText concept).toList
    apply notMem_append _ (notMem_append _ hc) <;> exact notMem_of_chars (by decide)
  | schemaContext => exact notMem_of_chars (by decide)
  | relationship => exact notMem_of_chars (by decide)
  | retrievedExamples => exact absurd rfl hn
  | constraint =>
    intro h
    rcases mem_unlines h with h | ⟨l, hl, h⟩
    · cases h
    · obtain ⟨r, hr, rfl⟩ := List.mem_map.1 hl
      have hb : '%' ∉ ("- " : String).toList := notMem_of_chars (by decide)
      exact notMem_append hb (rules_without_percent r hr) h
  | outputFormat =>
    show '%' ∉ (outputFormatInstruction .postgresql).toList
    apply notMem_append (notMem_append (notMem_append (notMem_append _ _) _) _) _ <;>
      exact notMem_of_chars (by decide)

theorem headers_without_percent (n : SectionName) : '%' ∉ (repairHeader n).toList := by
  cases n <;> exact notMem_of_chars (by decide)

theorem lamp_prompt_without_percent (hc : '%' ∉ concept.toList)
    (hd : ((lampBuilt concept).trimmed defaultBudget .retrievedExamples).content = "") :
    '%' ∉ (buildPrompt (asksFor concept) lampSql lampVerdict (plan lampVerdict)).asText.toList := by
  rw [buildPrompt_asText]
  intro h
  rcases mem_intercalate h with h | ⟨text, ht, h⟩
  · exact notMem_of_chars (by decide) h
  · obtain ⟨n, -, ht⟩ := List.mem_filterMap.1 ht
    rcases mem_sectionText ht h with h | h | h
    · exact headers_without_percent n h
    · exact notMem_of_chars (by decide) h
    · by_cases hn : n = .retrievedExamples
      · subst hn
        rw [← lampBuilt, hd] at h
        cases h
      · rcases Built.mem_trimmed _ _ _ h with h | h
        · exact lampBuilt_without_percent hc hn h
        · exact notMem_of_chars (by decide) h

theorem rules_length : ∀ r ∈ constraintRules ++ repairRules, r.length ≤ 100 := by
  intro r hr
  simp only [constraintRules, repairRules, List.cons_append, List.nil_append, List.mem_cons,
    List.not_mem_nil, or_false] at hr
  rcases hr with rfl | rfl | rfl | rfl | rfl | rfl | rfl | rfl | rfl | rfl | rfl | rfl | rfl <;>
    exact length_le_of_chars (by decide)

theorem lampBuilt_system_tokens (concept : String) :
    ((lampBuilt concept).get .system).estimatedTokens ≤ 100 := by
  apply estimateTokens_le
  show repairSystemPreamble.length ≤ 100 + 100 + 100 + 100
  apply append_length_le (append_length_le (append_length_le _ _) _) _ <;>
    exact length_le_of_chars (by decide)

theorem lampBuilt_constraint_tokens (concept : String) :
    ((lampBuilt concept).get .constraint).estimatedTokens ≤ 350 := by
  apply estimateTokens_le
  apply (unlines_length (n := 102) _).trans
  · decide
  · intro l hl
    obtain ⟨r, hr, rfl⟩ := List.mem_map.1 hl
    have hb : ("- " : String).length ≤ 2 := length_le_of_chars (by decide)
    exact append_length_le hb (rules_length r hr)

-- the summary and the errors as variables: spelled out, their lengths would be computed
theorem repairContext_length {p : RepairPlan} (hs : p.summary.length ≤ 100)
    (he : (unlines (vr.errors.map errorLine)).length ≤ 100) (hq : gs.sql.length ≤ 100) :
    (repairContext gs vr p).length ≤ 100 + 100 + 100 + 100 + 100 + 100 + 100 := by
  have h₁ : ("SQL requiring repair:\n" : String).length ≤ 100 := length_le_of_chars (by decide)
  have h₂ : ("\n\n" : String).length ≤ 100 := length_le_of_chars (by decide)
  have h₃ : ("Validation errors:\n" : String).length ≤ 100 := length_le_of_chars (by decide)
  unfold repairContext
  exact append_length_le (append_length_le (append_length_le (append_length_le (append_length_le
    (append_length_le h₁ hq) h₂) hs) h₂) h₃) he

theorem lampBuilt_context_tokens (concept : String) :
    ((lampBuilt concept).get .retrievedExamples).estimatedTokens ≤ 200 := by
  have hs : (plan lampVerdict).summary = "Repair needed: unknown_column (1)." := by decide +kernel
  have he : unlines (lampVerdict.errors.map errorLine) =
      "- [unknown_column] Column 'nme' does not exist on any table in scope." := by decide +kernel
  have hl : (repairContext lampSql lampVerdict (plan lampVerdict)).length ≤
      100 + 100 + 100 + 100 + 100 + 100 + 100 := by
    apply repairContext_length
    · exact (congrArg String.length hs).trans_le (length_le_of_chars (by decide))
    · exact (congrArg String.length he).trans_le (length_le_of_chars (by decide))
    · exact length_le_of_chars (by decide)
  exact estimateTokens_le (hl.trans (by decide))

theorem requiredTokens_of_le {s : Built} (h₁ : (s.get .system).estimatedTokens ≤ 100)
    (h₂ : (s.get .constraint).estimatedTokens ≤ 350)
    (h₃ : (s.get .outputFormat).estimatedTokens ≤ 75)
    (h₄ : (s.get .retrievedExamples).estimatedTokens ≤ 200) :
    totalTokens ([.system, .constraint, .outputFormat, .retrievedExamples].map s.get) ≤ 725 := by
  simp only [totalTokens, List.map_cons, List.map_nil, List.sum_cons, List.sum_nil]
  omega

theorem lampBuilt_requiredTokens (concept : String) :
    totalTokens ([.system, .constraint, .outputFormat, .retrievedExamples].map
      (lampBuilt concept).get) ≤ 725 :=
  requiredTokens_of_le (lampBuilt_system_tokens concept) (lampBuilt_constraint_tokens concept)
    (outputSection_tokens .postgresql) (lampBuilt_context_tokens concept)

theorem lampBuilt_requiredFit (concept : String) :
    RequiredFit defaultBudget (lampBuilt concept) := by
  have hmax : 725 ≤ defaultBudget.maxTokens := by decide
  exact (lampBuilt_requiredTokens concept).trans hmax

theorem fits_of_tokens {s : Built}
    (h₁ : totalTokens ([.system, .constraint, .outputFormat, .retrievedExamples].map s.get) ≤ 725)
    (h₂ : (s.get .businessContext).estimatedTokens ≤ 100)
    (h₃ : (s.get .schemaContext).estimatedTokens ≤ 100)
    (h₄ : (s.get .relationship).estimatedTokens ≤ 100) : s.Fits defaultBudget := by
  have hmax : defaultBudget.maxTokens = 4000 := rfl
  rw [Built.Fits, Built.all, hmax]
  simp only [totalTokens, SectionName.all, List.map_cons, List.map_nil, List.sum_cons,
    List.sum_nil] at h₁ ⊢
  omega

theorem lampBuilt_fits (h : concept.length ≤ 100) : (lampBuilt concept).Fits defaultBudget := by
  have hb : (conceptText concept).length ≤ 100 + (100 + 100) := by
    apply append_length_le _ (append_length_le _ h) <;> exact length_le_of_chars (by decide)
  apply fits_of_tokens (lampBuilt_requiredTokens concept)
  · rw [lampBuilt_business]
    exact estimateTokens_le (hb.trans (by decide))
  · have hs : noSchemaObjects.length ≤ charsPerToken * 100 := length_le_of_chars (by decide)
    exact estimateTokens_le hs
  · have hr : noRelationships.length ≤ charsPerToken * 100 := length_le_of_chars (by decide)
    exact estimateTokens_le hr

theorem repair_prompt_complete_lamp :
    Contains (buildPrompt (asksFor "lamp") lampSql lampVerdict (plan lampVerdict)).asText
      lampSql.sql :=
  ((repair_prompt_complete _ _ _ _).1 (lampBuilt_fits (length_le_of_chars (by decide)))).1

theorem lamp_sql_missing (hp : '%' ∉ concept.toList)
    (ht : 4001 ≤ estimateTokens (conceptText concept)) :
    ¬ Contains (buildPrompt (asksFor concept) lampSql lampVerdict (plan lampVerdict)).asText
      lampSql.sql := by
  intro hc
  have hm : '%' ∈ lampSql.sql.toList := by decide
  exact lamp_prompt_without_percent hp (lamp_dropped ht) (hc.mem hm)

theorem longConcept_without_percent (tokens : Nat) : '%' ∉ (longConcept tokens).toList := by
  rw [longConcept, String.toList_ofList, List.mem_replicate]
  intro h
  exact absurd h.2 (by decide)

/-- A concept of sixteen thousand characters, and the prompt does not say what is to be repaired. -/
theorem repair_prompt_silent :
    RequiredFit defaultBudget (lampBuilt (longConcept 4001)) ∧ lampVerdict.isValid = false ∧
      ¬ Contains (buildPrompt (asksFor (longConcept 4001)) lampSql lampVerdict
        (plan lampVerdict)).asText lampSql.sql :=
  ⟨lampBuilt_requiredFit _, rfl,
    lamp_sql_missing (longConcept_without_percent 4001) (conceptText_tokens 4001)⟩

end QueryMind.Repair
