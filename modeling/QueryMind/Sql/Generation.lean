import QueryMind.Lib.Lines
import QueryMind.Llm.Models
import QueryMind.Prompt.Models

namespace QueryMind.Sql
open Lib Lib.Lines Llm Prompt
set_option autoImplicit true

/-- `replace("\r\n", "\n").replace("\r", "\n")`. -/
def lineFeeds : List Char → List Char
  | '\r' :: '\n' :: cs => '\n' :: lineFeeds cs
  | '\r' :: cs => '\n' :: lineFeeds cs
  | c :: cs => c :: lineFeeds cs
  | [] => []

def isTrailer (c : Char) : Bool := c = ';' || Text.isSpace c

/-- `SQLNormalizer.normalize`: line endings, white space at the ends, and one semicolon. -/
def normalize (sql : String) : String :=
  let normalized := Text.strip (.ofList (lineFeeds sql.toList))
  .ofList (normalized.toList.rdropWhile isTrailer) ++ ";"

/-- A generated text with the metrics of the call it came from. -/
structure SQLGeneration extends GeneratedSQL where
  llmMetrics : GenerationMetrics
  deriving DecidableEq

theorem normalize_ne (sql : String) : normalize sql ≠ "" := by
  rw [normalize]
  intro h
  have hs := (String.append_eq_empty_iff.1 h).2
  exact absurd hs (by decide)

def generatedSql (extracted : String) (dialect : SQLDialect) : GeneratedSQL where
  sql := normalize extracted
  dialect := dialect
  sql_nonempty := normalize_ne extracted

theorem generatedSql_sql (extracted : String) (dialect : SQLDialect) :
    (generatedSql extracted dialect).sql = normalize extracted := by
  rw [generatedSql]

/-- `SQLGenerationEngine.generate`, over the adapter and the extractor. -/
def generate (llm : CompiledPrompt → Except ε LLMResponse)
    (extract : String → Except ε String) (compiledPrompt : CompiledPrompt) :
    Except ε SQLGeneration := do
  let llmResponse ← llm compiledPrompt
  let extracted ← extract llmResponse.content
  return { generatedSql extracted compiledPrompt.dialect with llmMetrics := llmResponse.metrics }

theorem head?_all_of_prefix {p : α → Bool} (h : front <+: List.dropWhile p l) :
    front.head?.all (fun c => !p c) = true := by
  cases front with
  | nil => rfl
  | cons c front =>
    obtain ⟨rest, hr⟩ := h
    have hd := List.head?_dropWhile_not p l
    rw [← hr] at hd
    rw [List.head?_cons, Option.all_some, Bool.not_eq_true']
    exact hd

theorem normalize_strip (sql : String) : Text.strip (normalize sql) = normalize sql := by
  apply strip_of_trimmed
  simp only [trimmed, normalize, Text.strip, String.toList_append, String.toList_ofList,
    Text.stripChars, Bool.and_eq_true]
  constructor
  · have hp : ((List.dropWhile Text.isSpace (lineFeeds sql.toList)).rdropWhile
        Text.isSpace).rdropWhile isTrailer <+: List.dropWhile Text.isSpace (lineFeeds sql.toList) :=
      (List.rdropWhile_prefix _ _).trans (List.rdropWhile_prefix _ _)
    have hh := head?_all_of_prefix hp
    cases hl : ((List.dropWhile Text.isSpace (lineFeeds sql.toList)).rdropWhile
      Text.isSpace).rdropWhile isTrailer with
    | nil => rfl
    | cons c front =>
      rw [hl] at hh
      exact hh
  · rw [List.getLast?_append]
    rfl

example : normalize "  SELECT 1 ;; \r\n" = "SELECT 1;" := by decide

end QueryMind.Sql
