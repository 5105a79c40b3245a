import QueryMind.SchemaLinker.Models
import QueryMind.Sql.Models
import Mathlib.Data.List.Sort

namespace QueryMind.Prompt
open SchemaLinker Sql
set_option autoImplicit true

structure QueryExample where
  id : String
  title : String
  naturalLanguageQuestion : String
  goldSql : String
  sqlExplanation : String
  deriving DecidableEq, Repr

/-- What retrieval hands on; `details` is the rest of its serialised form (scores, ranks,
reasons), which only the cache key reads. -/
structure RetrievedKnowledgeBundle where
  linkedQueryContext : LinkedQueryContext
  retrievedExamples : List QueryExample
  details : String
  deriving DecidableEq, Repr

inductive SectionName
  | system
  | businessContext
  | schemaContext
  | relationship
  | retrievedExamples
  | constraint
  | outputFormat
  deriving DecidableEq, Repr

def SectionName.value : SectionName → String
  | .system => "system"
  | .businessContext => "business_context"
  | .schemaContext => "schema_context"
  | .relationship => "relationship"
  | .retrievedExamples => "retrieved_examples"
  | .constraint => "constraint"
  | .outputFormat => "output_format"

def SectionName.all : List SectionName :=
  [.system, .businessContext, .schemaContext, .relationship, .retrievedExamples, .constraint,
    .outputFormat]

theorem SectionName.mem_all (n : SectionName) : n ∈ SectionName.all := by
  cases n <;> decide

def SectionName.isRequired : SectionName → Bool
  | .system | .constraint | .outputFormat => true
  | _ => false

/-- Trim order of the sections that may be trimmed, lower first. -/
def SectionName.priority : SectionName → Nat
  | .retrievedExamples => 1
  | .schemaContext | .relationship => 2
  | .businessContext => 3
  | .system | .constraint | .outputFormat => 0

/-- One section; the two lists stay empty in the sections that do not declare them. -/
structure PromptSection where
  name : SectionName
  content : String
  estimatedTokens : Nat
  priority : Nat
  isRequired : Bool
  exampleIds : List String
  schemaObjects : List String
  deriving DecidableEq, Repr

structure SectionSpec where
  name : SectionName
  header : String
  order : Nat
  deriving DecidableEq, Repr

structure PromptTemplate where
  version : String
  name : String
  sectionSpecs : List SectionSpec
  deriving DecidableEq, Repr

/-- The first spec of a name; without one `spec_for` raises. -/
def PromptTemplate.specFor (t : PromptTemplate) (name : SectionName) : Option SectionSpec :=
  t.sectionSpecs.find? (fun spec => spec.name = name)

def PromptTemplate.orderedNames (t : PromptTemplate) : List SectionName :=
  (t.sectionSpecs.insertionSort (fun a b => a.order ≤ b.order)).map (·.name)

structure PromptStatistics where
  estimatedTotalTokens : Nat
  sectionTokenUsage : List (SectionName × Nat)
  retrievedExampleCount : Nat
  schemaObjectCount : Nat
  deriving DecidableEq, Repr

/-- One section of each name, with the template that renders them. -/
structure CompiledPrompt where
  sections : SectionName → PromptSection
  name_eq : ∀ n, (sections n).name = n
  statistics : PromptStatistics
  template : PromptTemplate
  dialect : SQLDialect

def CompiledPrompt.allSections (p : CompiledPrompt) : List PromptSection :=
  SectionName.all.map p.sections

def format (t : PromptTemplate) (p : CompiledPrompt) : String :=
  "\n\n".intercalate (t.orderedNames.filterMap (fun name =>
    let content := Lib.Text.strip (p.sections name).content
    if content.isEmpty then none
    else (t.specFor name).map (fun spec => spec.header ++ "\n" ++ content)))

def CompiledPrompt.asText (p : CompiledPrompt) : String := format p.template p

end QueryMind.Prompt
