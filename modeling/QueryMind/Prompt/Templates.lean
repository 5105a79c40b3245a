import QueryMind.Prompt.Models

namespace QueryMind.Prompt
open Sql
set_option autoImplicit true

def systemPreamble : String :=
  "You are a precise, careful SQL-writing assistant for QueryMind, a text-to-SQL analytics " ++
  "engine. Given the business context, schema, relationships, and example queries below, " ++
  "write SQL that correctly answers the user's question. Use only the tables and columns " ++
  "explicitly listed — never invent a table or column name."

def constraintRules : List String :=
  ["Only reference tables and columns explicitly listed in the Schema Context section.",
    "Never invent a table, column, or relationship that was not provided.",
    "Use the exact join paths given in the Relationships section when joining tables.",
    "Prefer the patterns shown in the Similar Examples section when one applies.",
    "Return exactly one SQL statement.",
    "Do not include any explanation, commentary, or markdown formatting around the SQL."]

def outputFormatInstruction (dialect : SQLDialect) : String :=
  "Write a single valid " ++ dialect.value ++ " SQL statement. Use clear indentation and " ++
  "standard SQL keywords in uppercase (SELECT, FROM, WHERE, GROUP BY, ...). Do not wrap the " ++
  "SQL in markdown code fences or add trailing commentary."

def SectionName.header : SectionName → String
  | .system => "# System Instructions"
  | .businessContext => "## Business Context"
  | .schemaContext => "## Schema Context"
  | .relationship => "## Table Relationships"
  | .retrievedExamples => "## Similar Examples"
  | .constraint => "## Constraints"
  | .outputFormat => "## Output Format"

def defaultPromptTemplate : PromptTemplate where
  version := "1.0.0"
  name := "default"
  sectionSpecs :=
    [⟨.system, SectionName.system.header, 1⟩,
      ⟨.businessContext, SectionName.businessContext.header, 2⟩,
      ⟨.schemaContext, SectionName.schemaContext.header, 3⟩,
      ⟨.relationship, SectionName.relationship.header, 4⟩,
      ⟨.retrievedExamples, SectionName.retrievedExamples.header, 5⟩,
      ⟨.constraint, SectionName.constraint.header, 6⟩,
      ⟨.outputFormat, SectionName.outputFormat.header, 7⟩]

theorem defaultPromptTemplate_orderedNames :
    defaultPromptTemplate.orderedNames = SectionName.all := by
  decide

theorem defaultPromptTemplate_specFor (n : SectionName) :
    (defaultPromptTemplate.specFor n).map (·.header) = some n.header := by
  cases n <;> rfl

end QueryMind.Prompt
