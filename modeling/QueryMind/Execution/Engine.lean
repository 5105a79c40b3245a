import QueryMind.Execution.Executor

namespace QueryMind.Execution
open Lib Sql
set_option autoImplicit true

/-- The injected collaborators, as they answer one call. -/
structure Collaborators where
  databaseName : String
  acquire : Except String Unit
  execute : String → Nat → Except ExecutorError RawQueryResult
  format : RawQueryResult → Except String QueryResult

/-- A backend that raises nothing but what the executor translates. -/
def Backend.Translated (b : Backend) : Prop :=
  ∀ sql timeoutMs pythonType message,
    (SQLExecutor.execute b sql timeoutMs).1 ≠ .error (.other pythonType message)

def Backend.collaborators (b : Backend) (h : b.Translated) (databaseName : String)
    (acquire : Except String Unit) : Collaborators where
  databaseName := databaseName
  acquire := acquire
  execute := fun sql timeoutMs =>
    match he : (SQLExecutor.execute b sql timeoutMs).1 with
    | .ok raw => .ok raw
    | .error (.executor e) => .error e
    | .error (.other pythonType message) => absurd he (h sql timeoutMs pythonType message)
  format := formatResult

theorem readsLeftToRight_translated (w : WordClass) : (readsLeftToRight w).Translated := by
  intro sql timeoutMs pythonType message
  rw [SQLExecutor.execute, SQLExecutor.executeText]
  by_cases hp : ((readsLeftToRight w).read sql).any (fun x => x.2 = .parameter) = true
  · rw [if_pos hp]
    intro h
    cases h
  · rw [if_neg hp]
    intro h
    cases h

/-- The guard lets an error of the parser through when it gets that far. -/
theorem check_parseFailure {g : ExecutionGuard} :
    g.check parse gs vr = .error (.parseFailure e) ↔
      vr.isValid = true ∧ (Text.strip gs.sql).isEmpty = false ∧
        parse (Text.strip gs.sql) gs.dialect.sqlglot = .error e := by
  simp only [ExecutionGuard.check]
  split
  · rename_i hv
    rw [Bool.not_eq_true'] at hv
    simp only [hv, Except.error.injEq, reduceCtorEq, Bool.false_eq_true, false_and]
  · rename_i hv
    rw [Bool.not_eq_true', Bool.not_eq_false] at hv
    rw [hv, eq_self, true_and]
    split
    · rename_i he
      simp only [he, Except.error.injEq, reduceCtorEq, Bool.true_eq_false, false_and]
    · rename_i he
      rw [Bool.not_eq_true] at he
      rw [he, eq_self, true_and]
      split
      · rename_i e' hp
        simp only [hp, Except.error.injEq, GuardError.parseFailure.injEq]
      · rename_i parsed hp
        simp only [hp, reduceCtorEq, iff_false]
        split
        · split
          · simp only [Except.error.injEq, reduceCtorEq, not_false_eq_true]
          · split <;> simp only [Except.error.injEq, reduceCtorEq, not_false_eq_true]
        · simp only [Except.error.injEq, reduceCtorEq, not_false_eq_true]

structure SQLExecutionEngine where
  guard : ExecutionGuard
  parse : Parse

namespace SQLExecutionEngine

def result (c : Collaborators) (generatedSql : GeneratedSQL) (status : ExecutionStatus)
    (sql : String) (error : ExecutionError) : SQLExecutionResult :=
  { status, executedSql := sql, queryResult := none
    statistics := {
      rowsReturned := 0, columnsReturned := 0, databaseName := c.databaseName
      dialect := generatedSql.dialect }
    executionError := some error }

def successResult (c : Collaborators) (generatedSql : GeneratedSQL) (sql : String)
    (queryResult : QueryResult) : SQLExecutionResult :=
  { status := .success, executedSql := sql, queryResult := some queryResult
    statistics := {
      rowsReturned := queryResult.rowCount, columnsReturned := queryResult.columns.length
      databaseName := c.databaseName, dialect := generatedSql.dialect }
    executionError := none }

/-- The texts handed to the executor are kept beside the answer. -/
def execute (engine : SQLExecutionEngine) (c : Collaborators) (generatedSql : GeneratedSQL)
    (validationResult : SQLValidationResult) :
    Except ParseFailure SQLExecutionResult × List String :=
  match engine.guard.check engine.parse generatedSql validationResult with
  | .error (.parseFailure e) => (.error e, [])
  | .error (.executionRejected reason) =>
    (.ok (result c generatedSql .rejected generatedSql.sql
      { code := "execution_rejected", message := reason }), [])
  | .ok permit =>
    match c.acquire with
    | .error message =>
      (.ok (result c generatedSql .failed permit.sql
        { code := "database_connection_error", message }), [])
    | .ok () =>
      match c.execute permit.sql permit.timeoutMs with
      | .error (.timeout message) =>
        (.ok (result c generatedSql .timeout permit.sql { code := "execution_timeout", message }),
          [permit.sql])
      | .error (.failure message) =>
        (.ok (result c generatedSql .failed permit.sql { code := "execution_failed", message }),
          [permit.sql])
      | .ok raw =>
        match c.format raw with
        | .error message =>
          (.ok (result c generatedSql .failed permit.sql
            { code := "result_formatting_failed", message }), [permit.sql])
        | .ok queryResult =>
          (.ok (successResult c generatedSql permit.sql queryResult), [permit.sql])

end SQLExecutionEngine

/-- The guard refuses to let a text run: it rejects it, or its parser raises. -/
def Refused (engine : SQLExecutionEngine) (gs : GeneratedSQL) (vr : SQLValidationResult) : Prop :=
  ∀ permit, engine.guard.check engine.parse gs vr ≠ .ok permit

/-- An answer whose status, rows and dealings with the database fit the guard's decision. -/
structure Answers (engine : SQLExecutionEngine) (gs : GeneratedSQL) (vr : SQLValidationResult)
    (r : SQLExecutionResult) (handed : List String) : Prop where
  rejected : r.status = .rejected ↔ Refused engine gs vr
  unsent : Refused engine gs vr → handed = []
  result : r.queryResult.isSome = true ↔ r.status = .success
  error : r.executionError.isSome = true ↔ r.status ≠ .success

/-- The guard gets as far as parsing the text, and the parser raises. -/
def ParserRaises (engine : SQLExecutionEngine) (gs : GeneratedSQL) (vr : SQLValidationResult) :
    Prop :=
  vr.isValid = true ∧ (Text.strip gs.sql).isEmpty = false ∧
    ∃ e, engine.parse (Text.strip gs.sql) gs.dialect.sqlglot = .error e

theorem Answers.of_result (hacc : ¬ Refused engine gs vr) (hr : status ≠ .rejected)
    (hs : status ≠ .success) :
    Answers engine gs vr (SQLExecutionEngine.result c gs status sql err) handed where
  rejected := iff_of_false hr hacc
  unsent h := absurd h hacc
  result := iff_of_false Bool.false_ne_true hs
  error := iff_of_true rfl hs

theorem Answers.of_success (hacc : ¬ Refused engine gs vr) :
    Answers engine gs vr (SQLExecutionEngine.successResult c gs sql queryResult) handed where
  rejected := iff_of_false (by intro h; cases h) hacc
  unsent h := absurd h hacc
  result := iff_of_true rfl rfl
  error := iff_of_false Bool.false_ne_true (fun h => h rfl)

theorem Answers.of_rejected (href : Refused engine gs vr) :
    Answers engine gs vr (SQLExecutionEngine.result c gs .rejected sql err) [] where
  rejected := iff_of_true rfl href
  unsent _ := rfl
  result := iff_of_false Bool.false_ne_true (by intro h; cases h)
  error := iff_of_true rfl (by intro h; cases h)

theorem execute_handed (engine : SQLExecutionEngine) (c : Collaborators) (gs : GeneratedSQL)
    (vr : SQLValidationResult) : ∀ sql ∈ (engine.execute c gs vr).2,
      engine.guard.check engine.parse gs vr = .ok ⟨sql, engine.guard.timeoutMs⟩ := by
  intro sql hs
  rw [SQLExecutionEngine.execute] at hs
  split at hs
  · cases hs
  · cases hs
  · rename_i permit hc
    have he : sql = permit.sql := by
      split at hs
      · cases hs
      · split at hs
        · exact List.mem_singleton.1 hs
        · exact List.mem_singleton.1 hs
        · split at hs
          · exact List.mem_singleton.1 hs
          · exact List.mem_singleton.1 hs
    obtain ⟨_, _, hp, _⟩ := check_ok hc
    rw [hc, he, hp]

/-- Execution answers exactly where the guard's parser does not raise. -/
theorem execution_total (engine : SQLExecutionEngine) (c : Collaborators) (gs : GeneratedSQL)
    (vr : SQLValidationResult) :
    (∃ r, (engine.execute c gs vr).1 = .ok r ∧
        Answers engine gs vr r (engine.execute c gs vr).2) ↔ ¬ ParserRaises engine gs vr := by
  constructor
  · rintro ⟨r, hr, _⟩ ⟨hv, he, e, hp⟩
    rw [SQLExecutionEngine.execute, check_parseFailure.2 ⟨hv, he, hp⟩] at hr
    cases hr
  · intro hno
    simp only [SQLExecutionEngine.execute]
    cases hc : engine.guard.check engine.parse gs vr with
    | error e =>
      cases e with
      | parseFailure e =>
        obtain ⟨hv, he, hp⟩ := check_parseFailure.1 hc
        exact absurd ⟨hv, he, e, hp⟩ hno
      | executionRejected reason =>
        have href : Refused engine gs vr := by
          intro permit hp
          rw [hc] at hp
          cases hp
        exact ⟨_, rfl, .of_rejected href⟩
    | ok permit =>
      have hacc : ¬ Refused engine gs vr := fun h => h permit hc
      simp only
      split
      · exact ⟨_, rfl, .of_result hacc (by decide) (by decide)⟩
      · split
        · exact ⟨_, rfl, .of_result hacc (by decide) (by decide)⟩
        · exact ⟨_, rfl, .of_result hacc (by decide) (by decide)⟩
        · split
          · exact ⟨_, rfl, .of_result hacc (by decide) (by decide)⟩
          · exact ⟨_, rfl, .of_success hacc⟩

def answersIds : Collaborators :=
  (readsLeftToRight asciiWord).collaborators (readsLeftToRight_translated _) "querymind" (.ok ())

def openQuote : GeneratedSQL where
  sql := "SELECT 'abc"
  dialect := .postgresql
  sql_nonempty := by decide

def strictEngine : SQLExecutionEngine where
  guard := ⟨30000, by decide⟩
  parse := fun _ _ => .error (.tokenError "Error tokenizing 'SELECT 'ab'")

theorem execute_openQuote : ¬ ∀ (engine : SQLExecutionEngine) (c : Collaborators)
    (gs : GeneratedSQL) (vr : SQLValidationResult), ∃ r, (engine.execute c gs vr).1 = .ok r ∧
      Answers engine gs vr r (engine.execute c gs vr).2 := by
  intro h
  obtain ⟨r, hr, _⟩ := h strictEngine answersIds openQuote
    ⟨openQuote, true, [], []⟩
  rw [SQLExecutionEngine.execute, check_parseFailure.2 ⟨rfl, by decide, rfl⟩] at hr
  cases hr

end QueryMind.Execution
