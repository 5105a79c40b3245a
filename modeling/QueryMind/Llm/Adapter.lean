import QueryMind.Prompt.Models

namespace QueryMind.Llm
open Prompt
set_option autoImplicit true

structure LLMProviderConfig where
  model : String
  temperature : Rat
  maxTokens : Nat
  deriving DecidableEq, Repr

structure LLMRequest where
  prompt : String
  model : String
  temperature : Rat
  maxTokens : Nat
  deriving DecidableEq, Repr

def request (config : LLMProviderConfig) (prompt : CompiledPrompt) : LLMRequest where
  prompt := prompt.asText
  model := config.model
  temperature := config.temperature
  maxTokens := config.maxTokens

end QueryMind.Llm
