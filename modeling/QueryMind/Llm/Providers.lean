import Mathlib.Data.NNRat.Defs
import QueryMind.Lib.Hoare
import QueryMind.Lib.PyValue
import QueryMind.Llm.Models

namespace QueryMind.Llm
open Lib
set_option autoImplicit true

inductive LLMError
  | transientError (message : String)
  | permanentError (message : String)
  | responseParsingError (message : String)
  deriving DecidableEq, Repr

/-- What `generate` raises: one of the errors declared for it, or any other exception. -/
inductive ProviderFailure
  | llm (error : LLMError)
  | escaped (exc : PyException)
  deriving DecidableEq, Repr

/-- Pydantic's validation of an `int` field with `ge=0` and of a `str` field. -/
structure FieldValidators where
  tokens : PyValue → Option Nat
  text : PyValue → Option String

def FieldValidators.tokenUsage (v : FieldValidators) (promptTokens completionTokens : PyValue) :
    Except PyException TokenUsage :=
  match v.tokens promptTokens, v.tokens completionTokens with
  | some promptTokens, some completionTokens => .ok ⟨promptTokens, completionTokens⟩
  | _, _ => .error .validationError

/-- What comes back from one POST request, with the texts of `httpx`'s exceptions. -/
inductive HttpAnswer
  | timeoutException
  | httpError (exc : String)
  | response (statusCode : Nat) (body : Option PyValue)

/-- `HttpxTransport.post_json`; a body that is not JSON counts as a failure of the network. -/
def postJson (url timeout : String) : HttpAnswer → Except LLMError (Nat × PyValue)
  | .timeoutException => .error (.transientError s!"Request to {url} timed out after {timeout}s.")
  | .httpError exc => .error (.transientError s!"Network error calling {url}: {exc}")
  | .response statusCode none =>
    .error (.transientError s!"Response from {url} (HTTP {statusCode}) was not valid JSON.")
  | .response statusCode (some body) => .ok (statusCode, body)

def retryableStatusCodes : List Nat := [408, 409, 429, 500, 502, 503, 504]

/-- What the two providers have each their own of. -/
structure ResponseShape where
  provider : LLMProvider
  label : String
  caught : PyException → Bool
  /-- The text, and the value that the reason is looked up in. -/
  readText : PyValue → Except PyException (PyValue × PyValue)
  promptTokens : String
  completionTokens : String
  reason : String
  finishReasonMap : List (String × FinishReason)

namespace ResponseShape

def fields (shape : ResponseShape) (v : FieldValidators) (rawResponse : PyValue) :
    Except PyException (PyValue × PyValue × TokenUsage × PyValue) := do
  let read ← shape.readText rawResponse
  let usage ← rawResponse.subscript "usage"
  let promptTokens ← usage.subscript shape.promptTokens
  let completionTokens ← usage.subscript shape.completionTokens
  let tokenUsage ← v.tokenUsage promptTokens completionTokens
  let model ← rawResponse.subscript "model"
  pure (read.1, read.2, tokenUsage, model)

def response (shape : ResponseShape) (v : FieldValidators) (latencyMs : Rat)
    (text holder : PyValue) (tokenUsage : TokenUsage) (model : PyValue) :
    Except PyException LLMResponse := do
  let reason ← holder.get shape.reason .none
  let finishReason ← PyValue.lookupIn shape.finishReasonMap .error
    (if reason.truthy then reason else .str "")
  match v.text model, v.text text with
  | some model, some content =>
    .ok ⟨content, ⟨shape.provider, model, latencyMs, tokenUsage, 0, finishReason⟩⟩
  | _, _ => .error .validationError

end ResponseShape

/-- The argument of `str()` is what the message of an exception says. -/
def exceptionText : PyException → String
  | .keyError text | .indexError text | .typeError text | .attributeError text => text
  | .validationError => "validation error"

namespace ResponseShape

def parse (shape : ResponseShape) (v : FieldValidators) (rawResponse : PyValue)
    (latencyMs : Rat) : Except ProviderFailure LLMResponse :=
  match shape.fields v rawResponse with
  | .error exc =>
    if shape.caught exc then .error (.llm (.responseParsingError
      s!"Malformed {shape.label} response: missing {exceptionText exc}."))
    else .error (.escaped exc)
  | .ok (text, holder, tokenUsage, model) =>
    (shape.response v latencyMs text holder tokenUsage model).mapError .escaped

/-- `display` is Python's `str()`. -/
def errorMessage (shape : ResponseShape) (display : PyValue → String) (rawResponse : PyValue)
    (statusCode : Nat) : Except PyException String := do
  let error ← rawResponse.get "error" (.dict [])
  let detail := if error.isDict then (error.member "message").getD (.str "unknown error")
    else .str "unknown error"
  pure s!"{shape.label} API returned HTTP {statusCode}: {display detail}"

/-- The clock that the elapsed seconds are read from never goes back. -/
def generate (shape : ResponseShape) (v : FieldValidators) (display : PyValue → String)
    (url timeout : String) (answer : HttpAnswer) (elapsed : NNRat) :
    Except ProviderFailure LLMResponse := do
  let (statusCode, rawResponse) ← (postJson url timeout answer).mapError .llm
  let latencyMs : Rat := elapsed * 1000
  if statusCode ≥ 400 then
    let message ← (shape.errorMessage display rawResponse statusCode).mapError .escaped
    if statusCode ∈ retryableStatusCodes then .error (.llm (.transientError message))
    else .error (.llm (.permanentError message))
  else shape.parse v rawResponse latencyMs

end ResponseShape

namespace Claude

def textBlocks : List PyValue → Except PyException (List PyValue)
  | [] => .ok []
  | block :: contentBlocks => do
    let type ← block.get "type" .none
    if type.asString = some "text" then
      let text ← block.get "text" (.str "")
      let texts ← textBlocks contentBlocks
      pure (text :: texts)
    else textBlocks contentBlocks

def shape : ResponseShape where
  provider := .claude
  label := "Claude"
  caught
    | .keyError _ | .typeError _ => true
    | .indexError _ | .attributeError _ | .validationError => false
  readText rawResponse := do
    let contentBlocks ← rawResponse.subscript "content"
    let blocks ← contentBlocks.iterate
    let text ← PyValue.join 0 (← textBlocks blocks)
    pure (.str text, rawResponse)
  promptTokens := "input_tokens"
  completionTokens := "output_tokens"
  reason := "stop_reason"
  finishReasonMap := [("end_turn", .complete), ("stop_sequence", .complete),
    ("max_tokens", .maxTokens), ("refusal", .contentFilter)]

end Claude

namespace Groq

def shape : ResponseShape where
  provider := .groq
  label := "Groq"
  caught
    | .keyError _ | .indexError _ | .typeError _ => true
    | .attributeError _ | .validationError => false
  readText rawResponse := do
    let choice ← (← rawResponse.subscript "choices").first
    let content ← (← choice.subscript "message").subscript "content"
    pure (if content.truthy then content else .str "", choice)
  promptTokens := "prompt_tokens"
  completionTokens := "completion_tokens"
  reason := "finish_reason"
  finishReasonMap := [("stop", .complete), ("length", .maxTokens),
    ("content_filter", .contentFilter)]

end Groq

end QueryMind.Llm
