import QueryMind.Prompt.Sections
import QueryMind.Prompt.Validator
import QueryMind.Lib.Memo
import QueryMind.Lib.Transition

namespace QueryMind.Prompt
open Lib Sql
set_option autoImplicit true

/-- The digest of a bundle, the template's version, the dialect. -/
abbrev CacheKey (κ : Type) := κ × String × String

structure PromptCompiler (κ : Type) where
  template : PromptTemplate
  budgetManager : PromptBudgetManager
  validator : PromptValidator
  cache : CacheKey κ → Option CompiledPrompt

/-- A compiler as its constructor leaves it: nothing is cached. -/
def PromptCompiler.fresh (κ : Type) (template : PromptTemplate) (budget : PromptBudgetManager)
    (validator : PromptValidator) : PromptCompiler κ := ⟨template, budget, validator, fun _ => none⟩

def PromptCompiler.new (κ : Type) (budget : PromptBudgetManager) : PromptCompiler κ :=
  .fresh κ defaultPromptTemplate budget ⟨budget.maxTokens⟩

def buildStatistics (sections : List PromptSection) : PromptStatistics where
  estimatedTotalTokens := totalTokens sections
  sectionTokenUsage := sections.map (fun s => (s.name, s.estimatedTokens))
  retrievedExampleCount :=
    ((sections.find? (fun s => s.name = .retrievedExamples)).map (·.exampleIds.length)).getD 0
  schemaObjectCount :=
    ((sections.find? (fun s => s.name = .schemaContext)).map (·.schemaObjects.length)).getD 0

theorem byName_name (h : byName sections n = some s) : s.name = n := by
  simpa using List.find?_some h

/-- Sections of any injected builders: each in its slot, with the flags of its class. -/
structure Built where
  get : SectionName → PromptSection
  name_eq : ∀ n, (get n).name = n
  priority_eq : ∀ n, (get n).priority = n.priority
  required_eq : ∀ n, (get n).isRequired = n.isRequired

namespace Built

def all (s : Built) : List PromptSection := SectionName.all.map s.get

def trimmed (budget : PromptBudgetManager) (s : Built) (n : SectionName) : PromptSection :=
  -- the budget manager returns every section it was given, so the default is never used
  (byName (budget.enforce s.all) n).getD (s.get n)

theorem trimmed_name (budget : PromptBudgetManager) (s : Built) (n : SectionName) :
    (s.trimmed budget n).name = n := by
  rw [trimmed]
  cases h : byName (budget.enforce s.all) n with
  | none => exact s.name_eq n
  | some t => exact byName_name h

/-- Trim the sections and put them together. -/
def assemble (template : PromptTemplate) (budget : PromptBudgetManager) (s : Built)
    (dialect : SQLDialect) : CompiledPrompt where
  sections := s.trimmed budget
  name_eq := s.trimmed_name budget
  statistics := buildStatistics (SectionName.all.map (s.trimmed budget))
  template := template
  dialect := dialect

@[simp] theorem assemble_sections (template : PromptTemplate) (budget : PromptBudgetManager)
    (s : Built) (dialect : SQLDialect) :
    (s.assemble template budget dialect).sections = s.trimmed budget := by
  rw [assemble]

@[simp] theorem assemble_template (template : PromptTemplate) (budget : PromptBudgetManager)
    (s : Built) (dialect : SQLDialect) :
    (s.assemble template budget dialect).template = template := by
  rw [assemble]

def Fits (budget : PromptBudgetManager) (s : Built) : Prop := totalTokens s.all ≤ budget.maxTokens

instance : Decidable (Fits budget s) := inferInstanceAs (Decidable (_ ≤ _))

theorem byName_map {g : SectionName → PromptSection} (hg : ∀ n, (g n).name = n)
    (n : SectionName) : byName (SectionName.all.map g) n = some (g n) := by
  cases n <;> simp [byName, SectionName.all, hg]

theorem trimmed_of_fits {s : Built} (h : s.Fits budget) (n : SectionName) :
    s.trimmed budget n = s.get n := by
  rw [trimmed, enforce_of_fits h, all, byName_map s.name_eq, Option.getD_some]

end Built

def builtSections (b : RetrievedKnowledgeBundle) (dialect : SQLDialect) : Built where
  get := build b dialect
  name_eq := build_name b dialect
  priority_eq := build_priority b dialect
  required_eq := build_isRequired b dialect

def assemble (template : PromptTemplate) (budget : PromptBudgetManager)
    (b : RetrievedKnowledgeBundle) (dialect : SQLDialect) : CompiledPrompt :=
  (builtSections b dialect).assemble template budget dialect

theorem assemble_congr (template : PromptTemplate) (budget : PromptBudgetManager)
    (h : ∀ n, build b dialect n = build b' dialect n) :
    assemble template budget b dialect = assemble template budget b' dialect := by
  have hb : builtSections b dialect = builtSections b' dialect := by
    simp only [builtSections, funext h]
  rw [assemble, assemble, hb]

def PromptCompiler.key (hash : RetrievedKnowledgeBundle → κ) (pc : PromptCompiler κ)
    (b : RetrievedKnowledgeBundle) (dialect : SQLDialect) : CacheKey κ :=
  (hash b, pc.template.version, dialect.value)

section
variable [DecidableEq κ] (repr : String → String) (hash : RetrievedKnowledgeBundle → κ)

def PromptCompiler.set (pc : PromptCompiler κ) (k : CacheKey κ) (p : CompiledPrompt) :
    PromptCompiler κ :=
  { pc with cache := Function.update pc.cache k (some p) }

def PromptCompiler.compile (pc : PromptCompiler κ) (b : RetrievedKnowledgeBundle)
    (dialect : SQLDialect) : CompiledPrompt × PromptCompiler κ :=
  match pc.cache (pc.key hash b dialect) with
  | some cached => (cached, pc)
  | none =>
    let compiled := assemble pc.template pc.budgetManager b dialect
    -- the report on the sections before trimming is not used
    if (pc.validator.validate repr compiled.allSections).isValid then
      (compiled, pc.set (pc.key hash b dialect) compiled)
    else (compiled, pc)

/-- Compiling is the only thing that happens to a compiler. -/
def Compiles (pc : PromptCompiler κ) (call : RetrievedKnowledgeBundle × SQLDialect)
    (pc' : PromptCompiler κ) : Prop :=
  pc' = (pc.compile repr hash call.1 call.2).2

end

theorem dialect_value_injective : Function.Injective SQLDialect.value := by
  intro d d' h
  cases d <;> cases d' <;> first | rfl | exact absurd h (by decide)

/-- Bundles of one digest have the same sections. -/
def Determines (hash : RetrievedKnowledgeBundle → κ) : Prop :=
  ∀ b b', hash b = hash b' → ∀ dialect n, build b dialect n = build b' dialect n

theorem determines_of_injective {hash : RetrievedKnowledgeBundle → κ}
    (h : Function.Injective hash) : Determines hash := by
  intro b b' hb dialect n
  rw [h hb]

def callKey (hash : RetrievedKnowledgeBundle → κ) (version : String)
    (call : RetrievedKnowledgeBundle × SQLDialect) : CacheKey κ :=
  (hash call.1, version, call.2.value)

def callPrompt (template : PromptTemplate) (budget : PromptBudgetManager)
    (call : RetrievedKnowledgeBundle × SQLDialect) : CompiledPrompt :=
  assemble template budget call.1 call.2

def PromptValidator.accepts (repr : String → String) (v : PromptValidator) (p : CompiledPrompt) :
    Bool := (v.validate repr p.allSections).isValid

theorem callPrompt_factorsThrough {hash : RetrievedKnowledgeBundle → κ} (hs : Determines hash)
    (version : String) : (callPrompt template budget).FactorsThrough (callKey hash version) := by
  intro call call' h
  obtain ⟨b, dialect⟩ := call
  obtain ⟨b', dialect'⟩ := call'
  simp only [callKey, Prod.mk.injEq, true_and] at h
  cases dialect_value_injective h.2
  exact assemble_congr _ _ (hs b b' h.1 dialect)

section
variable [DecidableEq κ] {repr : String → String} {hash : RetrievedKnowledgeBundle → κ}

theorem compile_eq_consult (pc : PromptCompiler κ) (b : RetrievedKnowledgeBundle)
    (dialect : SQLDialect) :
    pc.compile repr hash b dialect =
      ((Memo.consult (callKey hash pc.template.version) (callPrompt pc.template pc.budgetManager)
          (pc.validator.accepts repr) pc.cache (b, dialect)).1,
        { pc with cache := (Memo.consult (callKey hash pc.template.version)
            (callPrompt pc.template pc.budgetManager) (pc.validator.accepts repr) pc.cache
            (b, dialect)).2 }) := by
  have hkey : pc.key hash b dialect = callKey hash pc.template.version (b, dialect) := rfl
  rw [PromptCompiler.compile, hkey]
  cases hc : pc.cache (callKey hash pc.template.version (b, dialect)) with
  | some p => rw [Memo.consult_hit hc]
  | none =>
    rw [Memo.consult_miss hc]
    by_cases hv : pc.validator.accepts repr (callPrompt pc.template pc.budgetManager (b, dialect)) =
        true
    · rw [if_pos hv]
      exact if_pos hv
    · rw [if_neg hv]
      exact if_neg hv

/-- What a compiler keeps over any history: its parts, and a cache of valid prompts each stored
under its own key. -/
structure Transparent (repr : String → String) (hash : RetrievedKnowledgeBundle → κ)
    (template : PromptTemplate) (budget : PromptBudgetManager) (validator : PromptValidator)
    (pc : PromptCompiler κ) : Prop where
  template_eq : pc.template = template
  budget_eq : pc.budgetManager = budget
  validator_eq : pc.validator = validator
  sound : Memo.Sound (callKey hash template.version) (callPrompt template budget)
    (validator.accepts repr) pc.cache

omit [DecidableEq κ] in
theorem transparent_fresh (template : PromptTemplate) (budget : PromptBudgetManager)
    (validator : PromptValidator) : Transparent repr hash template budget validator
      (PromptCompiler.fresh κ template budget validator) :=
  ⟨rfl, rfl, rfl, Memo.sound_empty⟩

theorem Transparent.compile (h : Transparent repr hash template budget validator pc)
    (b : RetrievedKnowledgeBundle) (dialect : SQLDialect) :
    Transparent repr hash template budget validator (pc.compile repr hash b dialect).2 := by
  obtain ⟨rfl, rfl, rfl, hs⟩ := h
  rw [compile_eq_consult]
  exact ⟨rfl, rfl, rfl, hs.consult (b, dialect)⟩

theorem Transparent.compile_fst (h : Transparent repr hash template budget validator pc)
    (hs : Determines hash) (b : RetrievedKnowledgeBundle) (dialect : SQLDialect) :
    (pc.compile repr hash b dialect).1 = assemble template budget b dialect := by
  obtain ⟨rfl, rfl, rfl, hsound⟩ := h
  rw [compile_eq_consult]
  exact hsound.consult_eq (callPrompt_factorsThrough hs _) (b, dialect)

variable (repr hash) in
theorem run_compile (pc : PromptCompiler κ) (b : RetrievedKnowledgeBundle)
    (dialect : SQLDialect) :
    Run (Compiles repr hash) pc [(b, dialect)] (pc.compile repr hash b dialect).2 :=
  Run.single rfl

theorem transparent_run
    (h : Run (Compiles repr hash) (PromptCompiler.fresh κ template budget validator) calls pc) :
    Transparent repr hash template budget validator pc := by
  apply h.invariant (transparent_fresh template budget validator)
  intro s call t ht hs
  rw [hs]
  exact ht.compile call.1 call.2

end

end QueryMind.Prompt
