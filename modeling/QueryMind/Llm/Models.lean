import Mathlib.Data.Rat.Init

namespace QueryMind.Llm
set_option autoImplicit true

inductive LLMProvider
  | claude
  | groq
  deriving DecidableEq, Repr

inductive FinishReason
  | complete
  | maxTokens
  | contentFilter
  | error
  deriving DecidableEq, Repr

structure TokenUsage where
  promptTokens : Nat
  completionTokens : Nat
  deriving DecidableEq, Repr

structure GenerationMetrics where
  provider : LLMProvider
  model : String
  latencyMs : Rat
  tokenUsage : TokenUsage
  retryCount : Nat
  finishReason : FinishReason
  deriving DecidableEq, Repr

structure LLMResponse where
  content : String
  metrics : GenerationMetrics
  deriving DecidableEq, Repr

end QueryMind.Llm
