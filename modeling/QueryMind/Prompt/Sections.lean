import QueryMind.Prompt.Budget
import QueryMind.Prompt.Templates
import QueryMind.Lib.Lines

namespace QueryMind.Prompt
open Lib Lib.Lines Metadata SchemaLinker Sql
set_option autoImplicit true

def noBusinessConcepts : String :=
  "No specific business concepts were identified for this question."

def noSchemaObjects : String := "No schema objects were resolved for this question."

def noRelationships : String := "No table joins are required to answer this question."

def noExamples : String := "No similar example questions were found in the query library."

def textSection (name : SectionName) (content : String) : PromptSection where
  name := name
  content := content
  estimatedTokens := estimateTokens content
  priority := name.priority
  isRequired := name.isRequired
  exampleIds := []
  schemaObjects := []

def firstOfKey (key : α → String) : List String → List α → List α
  | _, [] => []
  | seen, a :: as =>
    if key a ∈ seen then firstOfKey key seen as else a :: firstOfKey key (key a :: seen) as

def describe : Option String → String
  | none => ""
  | some d => if d.isEmpty then "" else " — " ++ d

def businessLines (c : LinkedQueryContext) : List String :=
  c.queryContext.businessConcepts.map (fun concept => "- " ++ concept)

def contextTables (c : LinkedQueryContext) : List TableMetadata :=
  firstOfKey (·.name) []
    (c.primaryEntity.toList.map (·.table) ++ c.secondaryEntities.map (·.table))

def tableLine (t : TableMetadata) : String := "Table `" ++ t.name ++ "`" ++ describe t.description

def columnKey (c : ColumnMetadata) : String := c.tableName ++ "." ++ c.name

def contextColumns (c : LinkedQueryContext) : List ColumnMetadata :=
  firstOfKey columnKey []
    (c.metrics.map (·.column) ++ c.dimensions.map (·.column) ++ c.filters.map (·.column) ++
      c.sort.toList.map (·.column))

def columnLine (c : ColumnMetadata) : String :=
  "Column `" ++ columnKey c ++ "` (" ++ c.sqlType ++ ")" ++ describe c.description

def schemaLines (c : LinkedQueryContext) : List String :=
  (contextTables c).map tableLine ++ (contextColumns c).map columnLine

def edgeLine (edge : ResolvedRelationship) : String :=
  "`" ++ edge.sourceTable ++ "." ++ "/".intercalate edge.sourceColumns ++ "` -> `" ++
    edge.targetTable ++ "." ++ "/".intercalate edge.targetColumns ++ "` (via `" ++
    edge.relationshipName ++ "`)"

def relationshipLines (c : LinkedQueryContext) : List String := c.relationshipPaths.map edgeLine

def exampleBlock (index : Nat) (e : QueryExample) : String :=
  "Example " ++ index.repr ++ ": " ++ e.title ++ "\nQuestion: " ++ e.naturalLanguageQuestion ++
    "\nSQL:\n" ++ Text.strip e.goldSql ++ "\nExplanation: " ++ e.sqlExplanation

def systemSection : PromptSection := textSection .system systemPreamble

def businessSection (b : RetrievedKnowledgeBundle) : PromptSection :=
  let lines := businessLines b.linkedQueryContext
  textSection .businessContext
    (if lines.isEmpty then noBusinessConcepts
    else "This question relates to the following business concepts:\n" ++ unlines lines)

theorem businessSection_single (h : businessLines b.linkedQueryContext = [line]) :
    businessSection b = textSection .businessContext
      ("This question relates to the following business concepts:\n" ++ line) := by
  have hu : unlines [line] = line := String.intercalate_singleton
  rw [businessSection, h, hu]
  exact congrArg (textSection .businessContext) (if_neg Bool.false_ne_true)

def schemaSection (b : RetrievedKnowledgeBundle) : PromptSection :=
  let lines := schemaLines b.linkedQueryContext
  { textSection .schemaContext (if lines.isEmpty then noSchemaObjects else unlines lines) with
    schemaObjects := (contextTables b.linkedQueryContext).map (·.name) ++
      (contextColumns b.linkedQueryContext).map columnKey }

def relationshipSection (b : RetrievedKnowledgeBundle) : PromptSection :=
  let lines := relationshipLines b.linkedQueryContext
  textSection .relationship
    (if lines.isEmpty then noRelationships
    else "Join these tables as follows:\n" ++ unlines lines)

def exampleSection (b : RetrievedKnowledgeBundle) : PromptSection :=
  if b.retrievedExamples.isEmpty then textSection .retrievedExamples noExamples
  else
    { textSection .retrievedExamples
        ("\n\n".intercalate (b.retrievedExamples.mapIdx (fun i e => exampleBlock (i + 1) e))) with
      exampleIds := b.retrievedExamples.map (·.id) }

def constraintSection : PromptSection :=
  textSection .constraint (unlines (constraintRules.map (fun rule => "- " ++ rule)))

def outputSection (dialect : SQLDialect) : PromptSection :=
  textSection .outputFormat (outputFormatInstruction dialect)

def build (b : RetrievedKnowledgeBundle) (dialect : SQLDialect) : SectionName → PromptSection
  | .system => systemSection
  | .businessContext => businessSection b
  | .schemaContext => schemaSection b
  | .relationship => relationshipSection b
  | .retrievedExamples => exampleSection b
  | .constraint => constraintSection
  | .outputFormat => outputSection dialect

theorem build_name (b : RetrievedKnowledgeBundle) (dialect : SQLDialect) (n : SectionName) :
    (build b dialect n).name = n := by
  cases n with
  | retrievedExamples =>
    simp only [build, exampleSection]
    split <;> rfl
  | _ => rfl

theorem build_priority (b : RetrievedKnowledgeBundle) (dialect : SQLDialect) (n : SectionName) :
    (build b dialect n).priority = n.priority := by
  cases n with
  | retrievedExamples =>
    simp only [build, exampleSection]
    split <;> rfl
  | _ => rfl

theorem build_isRequired (b : RetrievedKnowledgeBundle) (dialect : SQLDialect)
    (n : SectionName) : (build b dialect n).isRequired = n.isRequired := by
  cases n with
  | retrievedExamples =>
    simp only [build, exampleSection]
    split <;> rfl
  | _ => rfl

theorem systemSection_tokens : systemSection.estimatedTokens ≤ 100 := by
  apply estimateTokens_le
  show systemPreamble.length ≤ 100 + 100 + 100 + 100
  apply append_length_le (append_length_le (append_length_le _ _) _) _ <;>
    exact length_le_of_chars (by decide)

theorem constraintRules_length : ∀ r ∈ constraintRules, r.length ≤ 90 := by
  intro r hr
  simp only [constraintRules, List.mem_cons, List.not_mem_nil, or_false] at hr
  rcases hr with rfl | rfl | rfl | rfl | rfl | rfl <;> exact length_le_of_chars (by decide)

theorem constraintSection_tokens : constraintSection.estimatedTokens ≤ 150 := by
  apply estimateTokens_le
  apply (unlines_length (n := 92) _).trans
  · decide
  · intro l hl
    obtain ⟨r, hr, rfl⟩ := List.mem_map.1 hl
    have hb : ("- " : String).length ≤ 2 := length_le_of_chars (by decide)
    exact append_length_le hb (constraintRules_length r hr)

theorem outputSection_tokens (dialect : SQLDialect) :
    (outputSection dialect).estimatedTokens ≤ 75 := by
  apply estimateTokens_le
  show (outputFormatInstruction dialect).length ≤ 25 + 25 + 90 + 90 + 70
  apply append_length_le (append_length_le (append_length_le (append_length_le _ _) _) _) _
  case _ => exact length_le_of_chars (by decide)
  case _ => cases dialect <;> exact length_le_of_chars (by decide)
  all_goals exact length_le_of_chars (by decide)

-- for any sections, so that nothing tries to count the characters of the built ones
theorem requiredTokens_of {f : SectionName → PromptSection}
    (h₁ : (f .system).estimatedTokens ≤ 100) (h₂ : (f .constraint).estimatedTokens ≤ 150)
    (h₃ : (f .outputFormat).estimatedTokens ≤ 75) :
    totalTokens ([.system, .constraint, .outputFormat].map f) ≤ 325 := by
  simp only [totalTokens, List.map_cons, List.map_nil, List.sum_cons, List.sum_nil]
  omega

theorem requiredTokens_le (b : RetrievedKnowledgeBundle) (dialect : SQLDialect) :
    totalTokens ([.system, .constraint, .outputFormat].map (build b dialect)) ≤ 325 :=
  requiredTokens_of systemSection_tokens constraintSection_tokens (outputSection_tokens dialect)

end QueryMind.Prompt
