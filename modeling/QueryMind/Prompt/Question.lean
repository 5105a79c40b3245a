import QueryMind.Prompt.Rendering
import QueryMind.Llm.Adapter

namespace QueryMind.Prompt
open Lib Lib.Lines Metadata Nlu SchemaLinker Sql
set_option autoImplicit true

/-- The contexts name tables and columns of one registry. -/
def LinkedOver (registry : MetadataRegistry) (c : LinkedQueryContext) : Prop :=
  (∀ t ∈ contextTables c, t ∈ registry.tables) ∧
    ∀ col ∈ contextColumns c, ∃ t ∈ registry.tables, col ∈ t.columns

instance : Decidable (LinkedOver registry c) := inferInstanceAs (Decidable (_ ∧ _))

/-- Two questions get different prompts, when the prompts list different things and only then. -/
theorem prompt_determines_listing [DecidableEq κ] {repr : String → String}
    {hash : RetrievedKnowledgeBundle → κ} {b₁ b₂ : RetrievedKnowledgeBundle}
    (hh : Function.Injective hash)
    (r₁ : Run (Compiles repr hash) (PromptCompiler.new κ budget) calls₁ pc₁)
    (r₂ : Run (Compiles repr hash) (PromptCompiler.new κ budget) calls₂ pc₂)
    (he : b₁.retrievedExamples = b₂.retrievedExamples) (f₁ : Fits budget b₁ dialect)
    (f₂ : Fits budget b₂ dialect) :
    (listing b₁.linkedQueryContext = listing b₂.linkedQueryContext →
      (pc₁.compile repr hash b₁ dialect).1.asText = (pc₂.compile repr hash b₂ dialect).1.asText) ∧
    (OneLine b₁.linkedQueryContext → OneLine b₂.linkedQueryContext →
      ((b₁.linkedQueryContext.asked ≠ b₂.linkedQueryContext.asked →
          (pc₁.compile repr hash b₁ dialect).1.asText ≠
            (pc₂.compile repr hash b₂ dialect).1.asText) ↔
        (b₁.linkedQueryContext.asked ≠ b₂.linkedQueryContext.asked →
          listing b₁.linkedQueryContext ≠ listing b₂.linkedQueryContext))) := by
  have hs := determines_of_injective hh
  rw [(transparent_run r₁).compile_fst hs, (transparent_run r₂).compile_fst hs]
  constructor
  · exact asText_of_listing he f₁ f₂
  · intro o₁ o₂
    constructor
    · intro h ha hl
      exact h ha (asText_of_listing he f₁ f₂ hl)
    · intro h ha ht
      exact h ha (listing_of_asText he f₁ f₂ o₁ o₂ ht)

def productPrice : ColumnMetadata :=
  ⟨"products", "unit_price", "NUMERIC(12, 2)", some "Current list price."⟩

def products : TableMetadata := ⟨"products", [productPrice], some "The sellable catalog item."⟩

def productsWithPrice (question value : String) (operator : ComparisonOperator) :
    RetrievedKnowledgeBundle where
  linkedQueryContext :=
    { queryContext :=
        { originalQuestion := question
          normalizedQuestion := question
          intent := .select
          primaryEntity := some "product"
          secondaryEntities := []
          businessConcepts := ["product", "price"]
          metrics := []
          dimensions := []
          filters := [⟨"price", operator, value, "price " ++ value⟩]
          timeExpression := none
          sort := none
          limit := none
          aggregation := none }
      primaryEntity := some ⟨"product", products⟩
      secondaryEntities := []
      metrics := []
      dimensions := []
      filters := [⟨"price", productPrice, operator, value, "price " ++ value⟩]
      sort := none
      relationshipPaths := [] }
  retrievedExamples := []
  details := ""

def overFifty : RetrievedKnowledgeBundle :=
  productsWithPrice "products with price over 50" "50" .greaterThan

def underNinety : RetrievedKnowledgeBundle :=
  productsWithPrice "products with price under 90" "90" .lessThan

theorem overFifty_fits : Fits defaultBudget overFifty .postgresql := by
  apply fits_of
  decide +kernel

theorem underNinety_fits : Fits defaultBudget underNinety .postgresql := overFifty_fits

def freshCompiler : PromptCompiler RetrievedKnowledgeBundle := .new _ defaultBudget

theorem prompt_determines_listing_prices :
    (listing overFifty.linkedQueryContext = listing underNinety.linkedQueryContext →
      (freshCompiler.compile id id overFifty .postgresql).1.asText =
        (freshCompiler.compile id id underNinety .postgresql).1.asText) ∧
    (OneLine overFifty.linkedQueryContext → OneLine underNinety.linkedQueryContext →
      ((overFifty.linkedQueryContext.asked ≠ underNinety.linkedQueryContext.asked →
          (freshCompiler.compile id id overFifty .postgresql).1.asText ≠
            (freshCompiler.compile id id underNinety .postgresql).1.asText) ↔
        (overFifty.linkedQueryContext.asked ≠ underNinety.linkedQueryContext.asked →
          listing overFifty.linkedQueryContext ≠ listing underNinety.linkedQueryContext))) :=
  prompt_determines_listing Function.injective_id .nil .nil rfl overFifty_fits underNinety_fits

/-- Products over 50 and products under 90 are asked for in the same words. -/
theorem prompts_coincide :
    LinkedOver ⟨[products]⟩ overFifty.linkedQueryContext ∧
    LinkedOver ⟨[products]⟩ underNinety.linkedQueryContext ∧
    overFifty.linkedQueryContext.asked ≠ underNinety.linkedQueryContext.asked ∧
    overFifty.retrievedExamples = underNinety.retrievedExamples ∧
    Fits defaultBudget overFifty .postgresql ∧ Fits defaultBudget underNinety .postgresql ∧
    ∀ config, Llm.request config (freshCompiler.compile id id overFifty .postgresql).1 =
      Llm.request config (freshCompiler.compile id id underNinety .postgresql).1 := by
  have hc (b : RetrievedKnowledgeBundle) :
      (freshCompiler.compile id id b .postgresql).1 =
        assemble defaultPromptTemplate defaultBudget b .postgresql :=
    (transparent_fresh _ _ _).compile_fst (determines_of_injective Function.injective_id) b
      .postgresql
  refine ⟨by decide, by decide, by decide, rfl, overFifty_fits, underNinety_fits, ?_⟩
  intro config
  have ht : (assemble defaultPromptTemplate defaultBudget overFifty .postgresql).asText =
      (assemble defaultPromptTemplate defaultBudget underNinety .postgresql).asText :=
    asText_of_listing rfl overFifty_fits underNinety_fits rfl
  rw [hc, hc, Llm.request, Llm.request, ht]

end QueryMind.Prompt
