import Mathlib.Data.Finset.Sort
import Mathlib.Data.String.Basic
import QueryMind.BusinessKnowledge.Resolver
import QueryMind.Lib.Pattern
import QueryMind.SchemaLinker.Linker

namespace QueryMind.Retrieval
open Lib BusinessKnowledge SchemaLinker
set_option autoImplicit true

inductive Difficulty
  | beginner
  | intermediate
  | advanced
  | expert
  deriving DecidableEq, Repr

/-- The fields of an example that retrieval reads; `intent` is its query context's, and `details`
the rest of the example, which is handed on. -/
structure QueryExample where
  id : String
  title : String
  naturalLanguageQuestion : String
  normalizedQuestion : String
  intent : String
  businessConcepts : List String
  linkedSchemaObjects : List String
  goldSql : String
  difficulty : Difficulty
  details : String
  deriving DecidableEq, Repr

/-- The sets derived from one example, whatever the question. -/
structure ExampleFeatures where
  conceptSet : Finset String
  schemaObjectSet : Finset String
  tableSet : Finset String
  columnSet : Finset String
  keywordSet : Finset String
  deriving DecidableEq

def stopwords : List String :=
  ["a", "an", "the", "is", "are", "was", "were", "be", "been", "of", "in", "on", "by", "to", "for",
    "and", "or", "with", "we", "our", "us", "do", "does", "did", "what", "how", "many", "much",
    "show", "me", "list", "get", "find", "which", "who", "that", "this", "these", "those", "at",
    "from", "as", "all"]

def isTokenChar (c : Char) : Bool := c.isLower || c.isDigit

/-- `matcher.ConceptSchemaKeywordMatcher`, with the catalog its registry holds now, if it has one.
`lower` and `repr` are Python's, and `word` says which characters `\w` takes. -/
structure Matcher where
  lower : String → String
  repr : String → String
  word : WordClass
  knowledge : Option BusinessKnowledgeCatalog

def tokenize (lower : String → String) (text : String) : Finset String :=
  (((lower text).toList.splitOnP fun c => !isTokenChar c).map String.ofList).toFinset.filter
    fun word => word ∉ stopwords ∧ 1 < word.length

namespace Matcher
variable (m : Matcher)

def canonicalize (terms : List String) : Finset String :=
  (terms.map fun term =>
    match m.knowledge with
    | none => m.lower (Text.strip term)
    | some catalog =>
      match resolve m.lower catalog term with
      | some concept => concept.id
      | none => m.lower (Text.strip term)).toFinset

def contextBusinessConcepts (context : LinkedContext) : Finset String :=
  m.canonicalize context.queryContext.businessConcepts

def contextKeywords (context : LinkedContext) : Finset String :=
  tokenize m.lower context.queryContext.normalizedQuestion

def exampleFeatures (e : QueryExample) : ExampleFeatures :=
  let tableSet := (e.linkedSchemaObjects.map fun ref =>
    String.ofList (ref.toList.takeWhile (· ≠ '.'))).toFinset
  { conceptSet := m.canonicalize e.businessConcepts
    schemaObjectSet := e.linkedSchemaObjects.toFinset ∪ tableSet
    tableSet := tableSet
    columnSet := (e.linkedSchemaObjects.filter fun ref => ref.toList.contains '.').toFinset
    keywordSet := tokenize m.lower
      (e.title ++ " " ++ e.naturalLanguageQuestion ++ " " ++ e.normalizedQuestion) }

end Matcher

def resolvedTableNames (context : LinkedContext) : List String :=
  uniqueTables (context.primaryEntity.toList.map (·.item.table.name) ++
    context.secondaryEntities.map (·.item.table.name) ++
    context.metrics.map (·.item.column.tableName) ++
    context.dimensions.map (·.item.column.tableName) ++
    context.filters.map (·.item.column.tableName) ++
    context.sort.toList.map (·.item.column.tableName))

def contextTables (context : LinkedContext) : Finset String :=
  (resolvedTableNames context).toFinset

def contextColumns (context : LinkedContext) : Finset String :=
  ((context.metrics.map (·.item.column) ++ context.dimensions.map (·.item.column) ++
    context.filters.map (·.item.column) ++ context.sort.toList.map (·.item.column)).map
      fun column => column.tableName ++ "." ++ column.name).toFinset

def contextSchemaObjects (context : LinkedContext) : Finset String :=
  contextTables context ∪ contextColumns context

end QueryMind.Retrieval
