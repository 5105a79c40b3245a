import QueryMind.Execution.Engine
import QueryMind.Lib.Transition
import QueryMind.Orchestrator.Execution
import QueryMind.Prompt.Question
import QueryMind.Repair.Engine
import QueryMind.Sql.Validation

namespace QueryMind.Api
open Lib Execution Llm Nlu Orchestrator Prompt Repair ResultFormatter SchemaLinker Sql Streaming
set_option autoImplicit true

/-- The engines built once, which answer alike all through the life of the server. -/
structure ApplicationContainer where
  repr : String → String
  sqlValidationEngine : SQLValidationEngine
  sqlExecutionEngine : SQLExecutionEngine
  repairStrategy : RepairStrategy
  dialect : SQLDialect

/-- What everything else answers during one call. -/
structure Surroundings where
  parse : String → Except Raised QueryContext
  link : QueryContext → Except Raised LinkedQueryContext
  load : Except Raised Unit
  retrieve : LinkedQueryContext → Except Raised RetrievedKnowledgeBundle
  compile : RetrievedKnowledgeBundle → SQLDialect → Except Raised CompiledPrompt
  llm : CompiledPrompt → Except Raised LLMResponse
  repairLlm : Nat → CompiledPrompt → Except Raised LLMResponse
  extract : String → Except Raised String
  database : Collaborators
  format : SQLExecutionResult → Except Raised BusinessAnswer
  clock : Clock
  publisher : Option Publisher

/-- A call that reaches one of the two routes. -/
inductive Call
  | query (question : String) (surroundings : Surroundings)
  | execute (validationResult : SQLValidationResult) (database : Collaborators)

namespace ApplicationContainer

def validate (c : ApplicationContainer) (gs : GeneratedSQL) :
    Except Raised SQLValidationResult :=
  match c.sqlValidationEngine.validate c.repr gs with
  | .ok report => .ok report.toSQLValidationResult
  | .error (.tokenError message) => .error ⟨"TokenError", message⟩
  | .error (.renderingError message) => .error ⟨"ValueError", message⟩

/-- `RepairedSQLExtractor.extract`: the first pass's extractor, under an error of its own. -/
def extractRepaired (w : Surroundings) (llmResponse : LLMResponse) (dialect : SQLDialect) :
    Except Raised GeneratedSQL :=
  match w.extract llmResponse.content with
  | .ok extracted => .ok (generatedSql extracted dialect)
  | .error e => .error ⟨"RepairedSQLExtractionError", e.errorMessage⟩

/-- The repair engine validates with the validation engine itself. -/
def sqlRepairEngine (c : ApplicationContainer) (w : Surroundings) : SQLRepairEngine Raised where
  strategy := c.repairStrategy
  llm := w.repairLlm
  extract := extractRepaired w
  validate := fun _ => c.validate

/-- `SQLExecutionEngine.execute`, with the exceptions of the guard's parser. -/
def execute (c : ApplicationContainer) (database : Collaborators) (gs : GeneratedSQL)
    (v : SQLValidationResult) : Except Raised SQLExecutionResult × List String :=
  let executed := c.sqlExecutionEngine.execute database gs v
  match executed.1 with
  | .ok result => (.ok result, executed.2)
  | .error (.parseError message) => (.error ⟨"ParseError", message⟩, executed.2)
  | .error (.tokenError message) => (.error ⟨"TokenError", message⟩, executed.2)

def pipelineRunner (c : ApplicationContainer) (w : Surroundings) : PipelineRunner where
  parse := w.parse
  link := w.link
  load := w.load
  retrieve := w.retrieve
  compile := w.compile
  generate := generate w.llm w.extract
  validate := c.validate
  repair := fun gs v bundle => ((c.sqlRepairEngine w).repair gs v bundle).result
  execute := c.execute w.database
  format := w.format
  dialect := c.dialect

/-- `execute_sql`: the verdict of the body stands for a validation. -/
def executeSql (c : ApplicationContainer) (validationResult : SQLValidationResult)
    (database : Collaborators) : Except Raised SQLExecutionResult × List String :=
  c.execute database validationResult.generatedSql validationResult

def handed (c : ApplicationContainer) : Call → List String
  | .query question w => handedBy (c.pipelineRunner w) w.clock w.publisher question
  | .execute validationResult database => (c.executeSql validationResult database).2

end ApplicationContainer

structure Handed where
  call : Call
  text : String

/-- A call adds the texts it hands on to those handed on before. -/
def ApplicationContainer.Step (c : ApplicationContainer) (log : List Handed) (call : Call)
    (log' : List Handed) : Prop :=
  log' = log ++ (c.handed call).map (Handed.mk call)

def ApplicationContainer.Permits (c : ApplicationContainer) (gs : GeneratedSQL)
    (v : SQLValidationResult) (text : String) : Prop :=
  ∃ permit, c.sqlExecutionEngine.guard.check c.sqlExecutionEngine.parse gs v = .ok permit ∧
    permit.sql = text

/-- The server's own validator found this very text valid, and the guard lets it run. -/
def ApplicationContainer.Validated (c : ApplicationContainer) (text : String) : Prop :=
  ∃ gs v, gs.sql = text ∧ c.validate gs = .ok v ∧ v.isValid = true ∧ c.Permits gs v text

/-- Someone else's verdict calls a text valid, and the guard lets it run. -/
def ApplicationContainer.Vouched (c : ApplicationContainer) (posted : SQLValidationResult)
    (text : String) : Prop :=
  Text.strip posted.generatedSql.sql = text ∧ posted.isValid = true ∧
    c.Permits posted.generatedSql posted text

/-- What stands behind a text: the server's validator, or the body of the request. -/
def ApplicationContainer.Answered (c : ApplicationContainer) (h : Handed) : Prop :=
  match h.call with
  | .query _ _ => c.Validated h.text
  | .execute posted _ => c.Vouched posted h.text

section Container
variable {c : ApplicationContainer} {w : Surroundings}

theorem execute_snd (database : Collaborators) (gs : GeneratedSQL) (v : SQLValidationResult) :
    (c.execute database gs v).2 = (c.sqlExecutionEngine.execute database gs v).2 := by
  rw [ApplicationContainer.execute]
  split <;> rfl

theorem execute_permits (h : text ∈ (c.execute database gs v).2) :
    v.isValid = true ∧ Text.strip gs.sql = text ∧ c.Permits gs v text := by
  rw [execute_snd] at h
  have hp := execute_handed _ _ _ _ text h
  obtain ⟨hv, -, he, -⟩ := check_ok hp
  exact ⟨hv, (congrArg ExecutionPermit.sql he).symm, _, hp, rfl⟩

theorem generate_normalized {llm : CompiledPrompt → Except ε LLMResponse}
    {extract : String → Except ε String} (h : generate llm extract prompt = .ok g) :
    ∃ extracted, g.sql = normalize extracted := by
  obtain ⟨response, _, h⟩ := bind_ok h
  obtain ⟨extracted, _, h⟩ := bind_ok h
  refine ⟨extracted, ?_⟩
  rw [← Except.ok.inj h]
  exact generatedSql_sql extracted prompt.dialect

theorem extractRepaired_normalized
    (h : ApplicationContainer.extractRepaired w response dialect = .ok gs) :
    ∃ extracted, gs.sql = normalize extracted := by
  rw [ApplicationContainer.extractRepaired] at h
  split at h
  · rename_i extracted _
    refine ⟨extracted, ?_⟩
    rw [← Except.ok.inj h]
    exact generatedSql_sql extracted dialect
  · cases h

theorem repair_validated (h : ((c.sqlRepairEngine w).repair gs v bundle).result = .ok r)
    (hv : v.isValid = false) (hr : r.finalValidationResult.isValid = true) :
    (∃ extracted, r.finalSql.sql = normalize extracted) ∧
      c.validate r.finalSql = .ok r.finalValidationResult := by
  obtain ⟨he, -⟩ := (repair_ended _ gs v bundle).2 r h
  have hn : r.history ≠ [] := by
    intro hn
    have hverdict := he.chained.verdict
    simp only [hn, List.getLast?_nil, Option.map_none, Option.getD_none] at hverdict
    rw [hverdict, hv] at hr
    cases hr
  obtain ⟨response, dialect, hx⟩ := he.chained.extracted hn
  obtain ⟨_, hj⟩ := he.chained.judged hn
  exact ⟨extractRepaired_normalized hx, hj⟩

theorem decided_validated (h : Decided (c.pipelineRunner w) outcome)
    (hv : outcome.finalValidationResult.isValid = true) :
    (∃ extracted, outcome.finalGeneratedSql.sql = normalize extracted) ∧
      c.validate outcome.finalGeneratedSql = .ok outcome.finalValidationResult := by
  cases h with
  | generated hg hc _ => exact ⟨generate_normalized hg, hc⟩
  | repaired hg hc hi hr => exact repair_validated hr hi hv

theorem query_validated
    (h : text ∈ handedBy (c.pipelineRunner w) w.clock w.publisher question) :
    c.Validated text := by
  obtain ⟨outcome, hd, ht⟩ := handedBy_decided _ _ _ _ text h
  obtain ⟨hv, hs, hp⟩ := execute_permits ht
  obtain ⟨⟨extracted, hn⟩, hc⟩ := decided_validated hd hv
  refine ⟨_, _, ?_, hc, hv, hp⟩
  rw [← hs, hn, normalize_strip]

theorem handed_answered (h : text ∈ c.handed call) : c.Answered ⟨call, text⟩ := by
  cases call with
  | query question w => exact query_validated h
  | execute posted database =>
    obtain ⟨hv, hs, hp⟩ := execute_permits h
    exact ⟨hs, hv, hp⟩

theorem step_answered (hs : c.Step log call log') (h : ∀ entry ∈ log, c.Answered entry) :
    ∀ entry ∈ log', c.Answered entry := by
  intro entry he
  rw [hs] at he
  rcases List.mem_append.1 he with he | he
  · exact h entry he
  · obtain ⟨text, ht, rfl⟩ := List.mem_map.1 he
    exact handed_answered ht

end Container

/-- Through all calls, a pipeline run executes what the server validated; a posted text is executed
on the verdict it was posted with. -/
theorem executed_sql_answered (c : ApplicationContainer) {requests : List Call}
    (h : Run c.Step [] requests log) :
    ∀ entry ∈ log, c.Answered entry := by
  apply h.invariant (I := fun log => ∀ entry ∈ log, c.Answered entry)
  · intro entry he
    cases he
  · intro log call log' hl hs
    exact step_answered hs hl

def idsOf (table : String) : Node :=
  mk "" .select [
    mk "expressions" .column [ident "this" "id"],
    mk "from" .from [mk "this" .table [ident "this" table]]]

def customersText : String := "SELECT id FROM customers;"

def parseIds (sql : String) : Node := idsOf (if sql = customersText then "customers" else "vault")

def customersServer : ApplicationContainer where
  repr := fun s => "'" ++ s ++ "'"
  sqlValidationEngine := {
    parser := { parseOne := fun sql _ => .ok (parseIds sql), render := fun _ _ => .ok "" }
    registry := nameValidators (fun s => "'" ++ s ++ "'")
      ⟨[⟨"customers", [⟨"customers", "id", "integer", none⟩], none⟩]⟩ }
  sqlExecutionEngine := {
    guard := strictEngine.guard, parse := fun sql _ => .ok [some (parseIds sql)] }
  repairStrategy := defaultStrategy
  dialect := .postgresql

/-- A model that answers every question with the same text. -/
def listsCustomers : Surroundings where
  parse := fun _ => .ok (asksFor "customers").linkedQueryContext.queryContext
  link := fun _ => .ok (asksFor "customers").linkedQueryContext
  load := .ok ()
  retrieve := fun _ => .ok (asksFor "customers")
  compile := fun b dialect => .ok (assemble defaultPromptTemplate defaultBudget b dialect)
  llm := fun _ => .ok {
    content := customersText
    metrics := {
      provider := .groq, model := "llama-3.3-70b-versatile", latencyMs := 412, retryCount := 0
      tokenUsage := { promptTokens := 1204, completionTokens := 18 }, finishReason := .complete } }
  repairLlm := fun _ _ => .error ⟨"LLMTimeoutError", "timed out"⟩
  extract := .ok
  database := answersIds
  format := fun _ => .error ⟨"ResultFormattingError", "no rows"⟩
  clock := ⟨fun _ => 1, fun _ => 1, 1⟩
  publisher := none

def vaultSql : GeneratedSQL where
  sql := "SELECT id FROM vault"
  dialect := .postgresql
  sql_nonempty := by decide

def forgedVerdict : SQLValidationResult := ⟨vaultSql, true, [], []⟩

def forgedCall : Call := .execute forgedVerdict answersIds

def customersCall : Call := .query "customers?" listsCustomers

theorem handed_customersCall : customersServer.handed customersCall = [customersText] := rfl

theorem handed_forgedCall : customersServer.handed forgedCall = [vaultSql.sql] := rfl

theorem executed_sql_answered_example :
    customersServer.Answered ⟨customersCall, customersText⟩ ∧
      customersServer.Answered ⟨forgedCall, vaultSql.sql⟩ := by
  have hq : customersServer.Step [] customersCall [⟨customersCall, customersText⟩] := by
    rw [ApplicationContainer.Step, handed_customersCall]
    rfl
  have hf : customersServer.Step [⟨customersCall, customersText⟩] forgedCall
      [⟨customersCall, customersText⟩, ⟨forgedCall, vaultSql.sql⟩] := by
    rw [ApplicationContainer.Step, handed_forgedCall]
    rfl
  have h := executed_sql_answered customersServer (.cons hq (.single hf))
  exact ⟨h _ List.mem_cons_self, h _ (List.mem_cons_of_mem _ List.mem_cons_self)⟩

theorem vault_invalid (dialect : SQLDialect) :
    (customersServer.validate ⟨vaultSql.sql, dialect, vaultSql.sql_nonempty⟩).map
      SQLValidationResult.isValid = .ok false := by
  cases dialect <;> decide +kernel

/-- A verdict written by the client stands in for a validation that would have failed. -/
theorem forged_verdict_executed : ¬ ∀ (c : ApplicationContainer) (requests : List Call)
    (log : List Handed), Run c.Step [] requests log → ∀ entry ∈ log, c.Validated entry.text := by
  intro h
  have hs : customersServer.Step [] forgedCall [⟨forgedCall, vaultSql.sql⟩] := by
    rw [ApplicationContainer.Step, handed_forgedCall]
    rfl
  obtain ⟨⟨sql, dialect, hn⟩, v, rfl, hv, hvalid, -⟩ :=
    h _ _ _ (.single hs) _ (List.mem_singleton_self _)
  have hi := vault_invalid dialect
  rw [hv] at hi
  cases hvalid.symm.trans (Except.ok.inj hi)

end QueryMind.Api
