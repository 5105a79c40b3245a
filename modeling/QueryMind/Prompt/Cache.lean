import QueryMind.Lib.Json
import QueryMind.Lib.Memo
import QueryMind.Prompt.Question

namespace QueryMind.Prompt
open Lib Metadata Nlu SchemaLinker Sql
set_option autoImplicit true

def strings (texts : List String) : Json := .arr (texts.map .str)

def optional (dump : α → Json) : Option α → Json
  | none => .null
  | some a => dump a

def dumpString : Option String → Json := optional .str

def padded (width n : Nat) : String :=
  String.ofList (List.leftpad width '0' n.repr.toList)

def dumpDate (d : Date) : Json :=
  .str (padded 4 d.year ++ "-" ++ padded 2 d.month ++ "-" ++ padded 2 d.day)

def dumpColumn (c : ColumnMetadata) : Json :=
  .obj [("table_name", .str c.tableName), ("name", .str c.name), ("sql_type", .str c.sqlType),
    ("description", dumpString c.description)]

def dumpTable (t : TableMetadata) : Json :=
  .obj [("name", .str t.name), ("columns", .arr (t.columns.map dumpColumn)),
    ("description", dumpString t.description)]

def dumpFilter (f : FilterExpression) : Json :=
  .obj [("field", .str f.field), ("operator", .str f.operator.value), ("value", .str f.value),
    ("raw_text", .str f.rawText)]

def dumpMetric (m : MetricExpression) : Json :=
  .obj [("name", .str m.name),
    ("aggregation", optional (fun a => .str a.value) m.aggregation), ("raw_text", .str m.rawText)]

def dumpTime (t : TimeExpression) : Json :=
  .obj [("period", .str t.period.value), ("start_date", optional dumpDate t.startDate),
    ("end_date", optional dumpDate t.endDate), ("raw_text", .str t.rawText)]

def dumpSort (s : SortExpression) : Json :=
  .obj [("field", .str s.field), ("direction", .str s.direction.value),
    ("raw_text", .str s.rawText)]

def dumpLimit (l : LimitExpression) : Json :=
  .obj [("value", .num l.value), ("raw_text", .str l.rawText)]

def dumpQueryContext (c : QueryContext) : Json :=
  .obj [("original_question", .str c.originalQuestion),
    ("normalized_question", .str c.normalizedQuestion),
    ("intent", .str c.intent.value),
    ("primary_entity", dumpString c.primaryEntity),
    ("secondary_entities", strings c.secondaryEntities),
    ("business_concepts", strings c.businessConcepts),
    ("metrics", .arr (c.metrics.map dumpMetric)),
    ("dimensions", strings c.dimensions),
    ("filters", .arr (c.filters.map dumpFilter)),
    ("time_expression", optional dumpTime c.timeExpression),
    ("sort", optional dumpSort c.sort),
    ("limit", optional dumpLimit c.limit),
    ("aggregation", optional (fun a => .str a.value) c.aggregation)]

def dumpResolvedTable (t : ResolvedTable) : Json :=
  .obj [("business_concept", .str t.businessConcept), ("table", dumpTable t.table)]

def dumpResolvedColumn (c : ResolvedColumn) : Json :=
  .obj [("business_concept", .str c.businessConcept), ("column", dumpColumn c.column)]

def dumpResolvedMetric (m : ResolvedMetric) : Json :=
  .obj [("business_concept", .str m.businessConcept), ("column", dumpColumn m.column),
    ("aggregation", optional (fun a => .str a.value) m.aggregation), ("raw_text", .str m.rawText)]

def dumpResolvedFilter (f : ResolvedFilter) : Json :=
  .obj [("business_concept", .str f.businessConcept), ("column", dumpColumn f.column),
    ("operator", .str f.operator.value), ("value", .str f.value), ("raw_text", .str f.rawText)]

def dumpResolvedSort (s : ResolvedSort) : Json :=
  .obj [("business_concept", .str s.businessConcept), ("column", dumpColumn s.column),
    ("direction", .str s.direction.value), ("raw_text", .str s.rawText)]

def dumpRelationship (r : ResolvedRelationship) : Json :=
  .obj [("source_table", .str r.sourceTable), ("target_table", .str r.targetTable),
    ("relationship_name", .str r.relationshipName), ("source_columns", strings r.sourceColumns),
    ("target_columns", strings r.targetColumns)]

def dumpLinkedQueryContext (c : LinkedQueryContext) : Json :=
  .obj [("query_context", dumpQueryContext c.queryContext),
    ("primary_entity", optional dumpResolvedTable c.primaryEntity),
    ("secondary_entities", .arr (c.secondaryEntities.map dumpResolvedTable)),
    ("metrics", .arr (c.metrics.map dumpResolvedMetric)),
    ("dimensions", .arr (c.dimensions.map dumpResolvedColumn)),
    ("filters", .arr (c.filters.map dumpResolvedFilter)),
    ("sort", optional dumpResolvedSort c.sort),
    ("relationship_paths", .arr (c.relationshipPaths.map dumpRelationship))]

def dumpExample (e : QueryExample) : Json :=
  .obj [("id", .str e.id), ("title", .str e.title),
    ("natural_language_question", .str e.naturalLanguageQuestion), ("gold_sql", .str e.goldSql),
    ("sql_explanation", .str e.sqlExplanation)]

/-- What is hashed; the details are the members of both parts that have no field here. -/
def payload (b : RetrievedKnowledgeBundle) : Json :=
  .obj [("linked_query_context", dumpLinkedQueryContext b.linkedQueryContext),
    ("retrieved_examples",
      .arr (b.retrievedExamples.map fun e => .obj [("example", dumpExample e)])),
    ("details", .str b.details)]

def bundleContentHash (sha256 : Json → κ) (b : RetrievedKnowledgeBundle) : κ := sha256 (payload b)

theorem factorsThrough_optional {dump : α → Json} {g : α → β} (hn : ∀ a, dump a ≠ .null)
    (h : g.FactorsThrough dump) : (Option.map g).FactorsThrough (optional dump) := by
  intro o o' he
  cases o with
  | none =>
    cases o' with
    | none => rfl
    | some a => exact absurd he.symm (hn a)
  | some a =>
    cases o' with
    | none => exact absurd he (hn a)
    | some a' => exact congrArg some (h he)

theorem strings_injective : Function.Injective strings := by
  intro l l' h
  exact List.map_injective_iff.2 (fun s s' h => Json.str.inj h) (Json.arr.inj h)

theorem dumpString_injective : Function.Injective dumpString := by
  intro o o' h
  have hf : Function.FactorsThrough id Json.str := fun s s' h => Json.str.inj h
  have ho := factorsThrough_optional (fun a => Json.noConfusion) hf h
  rwa [Option.map_id, id, id] at ho

theorem dumpColumn_injective : Function.Injective dumpColumn := by
  intro c c' h
  simp only [dumpColumn, Json.obj.injEq, List.cons.injEq, Prod.mk.injEq, Json.str.injEq, true_and,
    and_true, dumpString_injective.eq_iff] at h
  obtain ⟨htable, hname, htype, hdescription⟩ := h
  cases c
  cases c'
  subst htable hname htype hdescription
  rfl

theorem dumpTable_injective : Function.Injective dumpTable := by
  intro t t' h
  simp only [dumpTable, Json.obj.injEq, List.cons.injEq, Prod.mk.injEq, Json.str.injEq,
    Json.arr.injEq, true_and, and_true, dumpString_injective.eq_iff,
    (List.map_injective_iff.2 dumpColumn_injective).eq_iff] at h
  obtain ⟨hname, hcolumns, hdescription⟩ := h
  cases t
  cases t'
  subst hname hcolumns hdescription
  rfl

theorem dumpRelationship_injective : Function.Injective dumpRelationship := by
  intro r r' h
  simp only [dumpRelationship, Json.obj.injEq, List.cons.injEq, Prod.mk.injEq, Json.str.injEq,
    true_and, and_true, strings_injective.eq_iff] at h
  obtain ⟨hsource, htarget, hname, hcolumns, hcolumns'⟩ := h
  cases r
  cases r'
  subst hsource htarget hname hcolumns hcolumns'
  rfl

theorem dumpExample_injective : Function.Injective dumpExample := by
  intro e e' h
  simp only [dumpExample, Json.obj.injEq, List.cons.injEq, Prod.mk.injEq, Json.str.injEq,
    true_and, and_true] at h
  obtain ⟨hid, htitle, hquestion, hsql, hexplanation⟩ := h
  cases e
  cases e'
  subst hid htitle hquestion hsql hexplanation
  rfl

theorem resolvedTable_table : ResolvedTable.table.FactorsThrough dumpResolvedTable := by
  intro t t' h
  simp only [dumpResolvedTable, Json.obj.injEq, List.cons.injEq, Prod.mk.injEq, true_and, and_true,
    dumpTable_injective.eq_iff] at h
  exact h.2

theorem resolvedColumn_column : ResolvedColumn.column.FactorsThrough dumpResolvedColumn := by
  intro c c' h
  simp only [dumpResolvedColumn, Json.obj.injEq, List.cons.injEq, Prod.mk.injEq, true_and, and_true,
    dumpColumn_injective.eq_iff] at h
  exact h.2

theorem resolvedMetric_column : ResolvedMetric.column.FactorsThrough dumpResolvedMetric := by
  intro m m' h
  simp only [dumpResolvedMetric, Json.obj.injEq, List.cons.injEq, Prod.mk.injEq, true_and, and_true,
    dumpColumn_injective.eq_iff] at h
  exact h.2.1

theorem resolvedFilter_column : ResolvedFilter.column.FactorsThrough dumpResolvedFilter := by
  intro f f' h
  simp only [dumpResolvedFilter, Json.obj.injEq, List.cons.injEq, Prod.mk.injEq, true_and, and_true,
    dumpColumn_injective.eq_iff] at h
  exact h.2.1

theorem resolvedSort_column : ResolvedSort.column.FactorsThrough dumpResolvedSort := by
  intro s s' h
  simp only [dumpResolvedSort, Json.obj.injEq, List.cons.injEq, Prod.mk.injEq, true_and, and_true,
    dumpColumn_injective.eq_iff] at h
  exact h.2.1

/-- The parts of a linked question that the section builders read. -/
structure SameReads (c c' : LinkedQueryContext) : Prop where
  concepts : c.queryContext.businessConcepts = c'.queryContext.businessConcepts
  tables : contextTables c = contextTables c'
  columns : contextColumns c = contextColumns c'
  paths : c.relationshipPaths = c'.relationshipPaths

theorem sameReads_of_dump (h : dumpLinkedQueryContext c = dumpLinkedQueryContext c') :
    SameReads c c' := by
  simp only [dumpLinkedQueryContext, Json.obj.injEq, List.cons.injEq, Prod.mk.injEq, Json.arr.injEq,
    true_and, and_true] at h
  obtain ⟨hquery, hprimary, hsecondary, hmetrics, hdimensions, hfilters, hsort, hpaths⟩ := h
  have hprimary' := factorsThrough_optional (fun _ => Json.noConfusion) resolvedTable_table hprimary
  have hsort' := factorsThrough_optional (fun _ => Json.noConfusion) resolvedSort_column hsort
  apply SameReads.mk
  · simp only [dumpQueryContext, Json.obj.injEq, List.cons.injEq, Prod.mk.injEq, true_and,
      strings_injective.eq_iff] at hquery
    exact hquery.2.2.2.2.2.1
  · rw [contextTables, contextTables, ← Option.toList_map, ← Option.toList_map, hprimary',
      factorsThrough_map resolvedTable_table hsecondary]
  · rw [contextColumns, contextColumns, ← Option.toList_map, ← Option.toList_map, hsort',
      factorsThrough_map resolvedMetric_column hmetrics,
      factorsThrough_map resolvedColumn_column hdimensions,
      factorsThrough_map resolvedFilter_column hfilters]
  · exact List.map_injective_iff.2 dumpRelationship_injective hpaths

theorem build_factorsThrough (dialect : SQLDialect) (n : SectionName) :
    (build · dialect n).FactorsThrough payload := by
  intro b b' h
  simp only [payload, Json.obj.injEq, List.cons.injEq, Prod.mk.injEq, Json.arr.injEq, true_and,
    and_true] at h
  obtain ⟨hcontext, hexamples, _⟩ := h
  have hs := sameReads_of_dump hcontext
  have he : b.retrievedExamples = b'.retrievedExamples := by
    apply List.map_injective_iff.2 _ hexamples
    intro e e' h
    simp only [Json.obj.injEq, List.cons.injEq, Prod.mk.injEq, true_and, and_true] at h
    exact dumpExample_injective h
  cases n with
  | system | constraint | outputFormat => rfl
  | businessContext =>
    show businessSection b = businessSection b'
    rw [businessSection, businessSection, businessLines, businessLines, hs.concepts]
  | schemaContext =>
    show schemaSection b = schemaSection b'
    rw [schemaSection, schemaSection, schemaLines, schemaLines, hs.tables, hs.columns]
  | relationship =>
    show relationshipSection b = relationshipSection b'
    rw [relationshipSection, relationshipSection, relationshipLines, relationshipLines, hs.paths]
  | retrievedExamples =>
    show exampleSection b = exampleSection b'
    rw [exampleSection, exampleSection, he]

theorem bundleContentHash_determines (hd : Function.Injective sha256) :
    Determines (bundleContentHash sha256) :=
  fun _ _ h dialect n => build_factorsThrough dialect n (hd h)

section
variable [DecidableEq κ] {repr : String → String} {sha256 : Json → κ}

/-- After any calls a compiler answers as a new one with the same template and budget would, and
every prompt it has stored, which are all it can serve, passed its validation. -/
theorem cache_transparent (hd : Function.Injective sha256)
    (h : Run (Compiles repr (bundleContentHash sha256))
      (PromptCompiler.fresh κ template budget validator) calls pc)
    (validator' : PromptValidator) (b : RetrievedKnowledgeBundle) (dialect : SQLDialect) :
    (pc.compile repr (bundleContentHash sha256) b dialect).1 =
        ((PromptCompiler.fresh κ template budget validator').compile repr
          (bundleContentHash sha256) b dialect).1 ∧
      ∀ k p, pc.cache k = some p → (validator.validate repr p.allSections).isValid = true := by
  have ht := transparent_run h
  apply And.intro
  · have hs := bundleContentHash_determines hd
    rw [ht.compile_fst hs, (transparent_fresh template budget validator').compile_fst hs]
  · intro k p hp
    obtain ⟨_, _, _, hv⟩ := ht.sound k p hp
    exact hv

end

noncomputable instance : DecidableEq Json := Classical.decEq Json

def emptyCompiler : PromptCompiler Json :=
  .fresh Json defaultPromptTemplate defaultBudget ⟨defaultBudget.maxTokens⟩

theorem cache_transparent_prices :
    ∃ pc, Run (Compiles id (bundleContentHash id)) emptyCompiler [(overFifty, .postgresql)] pc ∧
      (pc.compile id (bundleContentHash id) underNinety .mysql).1 =
        ((PromptCompiler.fresh Json defaultPromptTemplate defaultBudget ⟨0⟩).compile id
          (bundleContentHash id) underNinety .mysql).1 ∧
      ∀ k p, pc.cache k = some p →
        ((PromptValidator.mk defaultBudget.maxTokens).validate id p.allSections).isValid =
          true := by
  have hr := run_compile id (bundleContentHash id) emptyCompiler overFifty .postgresql
  exact ⟨_, hr, cache_transparent Function.injective_id hr ⟨0⟩ underNinety .mysql⟩

end QueryMind.Prompt
