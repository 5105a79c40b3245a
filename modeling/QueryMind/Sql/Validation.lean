import QueryMind.Sql.Validators

namespace QueryMind.Sql
open Lib Metadata
set_option autoImplicit true

/-- The tree of one text, and the dialect it was parsed under. -/
structure ParsedSQL where
  ast : Node
  dialect : String
  rawSql : String

/-- What `SQLParser.parse` raises: its own error, or the one it does not catch. -/
inductive ParserRaised
  | sqlSyntaxError (message : String)
  | tokenError (message : String)
  deriving DecidableEq, Repr

/-- `sqlglot.parse_one` under a dialect, and the text of a function call in one. -/
structure SQLParser where
  parseOne : String → String → Except ParseFailure Node
  render : String → Node → Except String String

def SQLParser.parse (p : SQLParser) (sql dialect : String) : Except ParserRaised ParsedSQL :=
  match p.parseOne sql dialect with
  | .ok ast => .ok { ast, dialect, rawSql := sql }
  | .error (.parseError message) => .error (.sqlSyntaxError message)
  | .error (.tokenError message) => .error (.tokenError message)

/-- The `IF` branches of a `CASE` are not calls of their own. -/
def isCall (parent : Option Label) (n : Node) : Bool :=
  n.cls.isFunc && !(n.cls = .func "If" && parent.any (fun l => l.cls = .func "Case"))

/-- The function calls to be named, in the order of the walk. -/
def calls (ast : Node) : List Node :=
  (((OrderedTree.within none ast).walk.map OrderedTree.label).filter
    (fun c => isCall c.1 c.2)).map Prod.snd

/-- The name of a call is what stands before its first bracket. -/
def callName (render : Node → Except String String) (n : Node) : Except String String :=
  if n.cls = .func "Case" then .ok "CASE"
  else (render n).map (fun rendered =>
    Text.upper (Text.strip (.ofList (rendered.toList.takeWhile (· ≠ '(')))))

def extractFunctions (render : Node → Except String String) (ast : Node) :
    Except String (List String) := (calls ast).mapM (callName render)

def isJoin (c : NodeClass) : Bool := c = .join

/-- A validator reports, or raises an exception with some text. -/
structure Validator where
  name : String
  validate : ParsedSQL → Except String (List ValidationIssue)

structure ValidationStatistics where
  tableCount : Nat
  columnCount : Nat
  joinCount : Nat
  functionCount : Nat
  errorCount : Nat
  warningCount : Nat
  deriving DecidableEq, Repr

structure SQLValidationReport extends SQLValidationResult where
  validatedTables : List String
  validatedColumns : List String
  validatedFunctions : List String
  validationStatistics : ValidationStatistics
  deriving DecidableEq

def sortedSet (names : List String) : List String :=
  names.eraseDups.mergeSort (fun a b => decide (a ≤ b))

def buildResult (generatedSql : GeneratedSQL) (issues : List ValidationIssue)
    (validatedTables validatedColumns validatedFunctions : List String) (joinCount : Nat) :
    SQLValidationReport :=
  let errors := issues.filter (fun issue => issue.severity = .error)
  let warnings := issues.filter (fun issue => issue.severity = .warning)
  { generatedSql, isValid := errors.length = 0, errors, warnings
    validatedTables := sortedSet validatedTables
    validatedColumns := sortedSet validatedColumns
    validatedFunctions := sortedSet validatedFunctions
    validationStatistics := {
      tableCount := validatedTables.eraseDups.length
      columnCount := validatedColumns.eraseDups.length
      joinCount
      functionCount := validatedFunctions.eraseDups.length
      errorCount := errors.length
      warningCount := warnings.length } }

def syntaxIssue (message : String) : ValidationIssue :=
  { code := "sql_syntax_error", severity := .error, message, relatedObject := none }

/-- `f"{column.qualifier}.{column.name}"`, or the name alone. -/
def ColumnReference.display (column : ColumnReference) : String :=
  match column.qualifier with
  | some qualifier => qualifier ++ "." ++ column.name
  | none => column.name

/-- What `validate` may let escape. -/
inductive ValidationRaised
  | tokenError (message : String)
  | renderingError (message : String)
  deriving DecidableEq, Repr

structure SQLValidationEngine where
  parser : SQLParser
  registry : List Validator

section Engine
variable (repr : String → String)

def internalIssue (name exc : String) : ValidationIssue :=
  errorIssue "validator_internal_error"
    ("Validator " ++ repr name ++ " raised an unexpected error: " ++ exc) name

/-- One validator's findings, or the issue that stands for its crash. -/
def runValidator (parsed : ParsedSQL) (v : Validator) : List ValidationIssue :=
  match v.validate parsed with
  | .ok issues => issues
  | .error exc => [internalIssue repr v.name exc]

def SQLValidationEngine.validate (engine : SQLValidationEngine) (generatedSql : GeneratedSQL) :
    Except ValidationRaised SQLValidationReport :=
  let dialect := generatedSql.dialect.sqlglot
  match engine.parser.parse generatedSql.sql dialect with
  | .error (.sqlSyntaxError message) =>
    .ok (buildResult generatedSql [syntaxIssue message] [] [] [] 0)
  | .error (.tokenError message) => .error (.tokenError message)
  | .ok parsed =>
    let issues := engine.registry.foldl (fun issues v => issues ++ runValidator repr parsed v) []
    let tableNames := (extractTables parsed.ast).map TableReference.name
    let columnNames := (extractColumns parsed.ast).map ColumnReference.display
    match extractFunctions (engine.parser.render dialect) parsed.ast with
    | .error message => .error (.renderingError message)
    | .ok functionNames =>
      .ok (buildResult generatedSql issues tableNames columnNames functionNames
        (parsed.ast.findAll isJoin).length)

/-- The findings about a text: of every validator in order, or of the parser alone. -/
def SQLValidationEngine.findings (engine : SQLValidationEngine) (generatedSql : GeneratedSQL) :
    List ValidationIssue :=
  let dialect := generatedSql.dialect.sqlglot
  match engine.parser.parseOne generatedSql.sql dialect with
  | .ok ast => engine.registry.flatMap (runValidator repr ⟨ast, dialect, generatedSql.sql⟩)
  | .error (.parseError message) => [syntaxIssue message]
  | .error (.tokenError _) => []

/-- A verdict that reports some findings, all of them and nothing else. -/
structure Reports (generatedSql : GeneratedSQL) (findings : List ValidationIssue)
    (r : SQLValidationResult) : Prop where
  sql : r.generatedSql = generatedSql
  errors : r.errors = findings.filter (fun issue => issue.severity = .error)
  warnings : r.warnings = findings.filter (fun issue => issue.severity = .warning)
  valid : r.isValid = true ↔ ∀ issue ∈ findings, issue.severity ≠ .error

theorem buildResult_reports (gs : GeneratedSQL) (issues : List ValidationIssue)
    (tables columns functions : List String) (joins : Nat) :
    Reports gs issues
      (buildResult gs issues tables columns functions joins).toSQLValidationResult := by
  refine ⟨rfl, rfl, rfl, ?_⟩
  simp only [buildResult, List.length_eq_zero_iff, decide_eq_true_eq, List.filter_eq_nil_iff]

theorem foldl_runValidator (parsed : ParsedSQL) (acc : List ValidationIssue) (vs : List Validator) :
    vs.foldl (fun issues v => issues ++ runValidator repr parsed v) acc =
      acc ++ vs.flatMap (runValidator repr parsed) := by
  induction vs generalizing acc with
  | nil => rw [List.foldl_nil, List.flatMap_nil, List.append_nil]
  | cons v vs ih => rw [List.foldl_cons, ih, List.flatMap_cons, List.append_assoc]

end Engine

/-- Some call of the tree cannot be written out in the dialect. -/
def Unrenderable (render : Node → Except String String) (ast : Node) : Prop :=
  ∃ n ∈ calls ast, n.cls ≠ .func "Case" ∧ ∃ message, render n = .error message

theorem mapM_error {f : α → Except ε β} {l : List α} (h : l.mapM f = .error e) :
    ∃ a ∈ l, f a = .error e := by
  induction l with
  | nil => cases h
  | cons a l ih =>
    rw [List.mapM_cons] at h
    cases ha : f a with
    | error e' =>
      rw [ha] at h
      cases h
      exact ⟨a, List.mem_cons_self, ha⟩
    | ok b =>
      cases hl : l.mapM f with
      | error e' =>
        rw [ha, hl] at h
        cases h
        obtain ⟨a', hm, he⟩ := ih hl
        exact ⟨a', List.mem_cons_of_mem _ hm, he⟩
      | ok bs =>
        rw [ha, hl] at h
        cases h

theorem mapM_ok {f : α → Except ε β} {l : List α} (h : l.mapM f = .ok bs) :
    ∀ a ∈ l, ∃ b, f a = .ok b := by
  induction l generalizing bs with
  | nil =>
    intro a ha
    cases ha
  | cons a l ih =>
    rw [List.mapM_cons] at h
    cases ha : f a with
    | error e =>
      rw [ha] at h
      cases h
    | ok b =>
      cases hl : l.mapM f with
      | error e =>
        rw [ha, hl] at h
        cases h
      | ok bs' =>
        intro a' hm
        rcases List.mem_cons.1 hm with rfl | hm
        · exact ⟨b, ha⟩
        · exact ih hl a' hm

theorem callName_error {render : Node → Except String String} :
    callName render n = .error message ↔ n.cls ≠ .func "Case" ∧ render n = .error message := by
  rw [callName]
  split
  · rename_i hc
    simp only [hc, reduceCtorEq, ne_eq, not_true_eq_false, false_and]
  · rename_i hc
    cases render n with
    | error m => simp only [Except.map, Except.error.injEq, ne_eq, hc, not_false_eq_true, true_and]
    | ok r => simp only [Except.map, reduceCtorEq, and_false]

theorem extractFunctions_error {render : Node → Except String String} {ast : Node} :
    (∃ message, extractFunctions render ast = .error message) ↔ Unrenderable render ast := by
  constructor
  · rintro ⟨message, h⟩
    obtain ⟨n, hn, he⟩ := mapM_error h
    obtain ⟨hc, hr⟩ := callName_error.1 he
    exact ⟨n, hn, hc, message, hr⟩
  · rintro ⟨n, hn, hc, message, hr⟩
    cases hx : extractFunctions render ast with
    | error m => exact ⟨m, rfl⟩
    | ok names =>
      obtain ⟨name, ho⟩ := mapM_ok hx n hn
      rw [callName_error.2 ⟨hc, hr⟩] at ho
      cases ho

/-- The texts on which `validate` raises: the tokenizer refuses the text, or the tree has a call
that cannot be written out. -/
def SQLValidationEngine.Escapes (engine : SQLValidationEngine) (gs : GeneratedSQL) : Prop :=
  (∃ message, engine.parser.parseOne gs.sql gs.dialect.sqlglot = .error (.tokenError message)) ∨
    ∃ ast, engine.parser.parseOne gs.sql gs.dialect.sqlglot = .ok ast ∧
      Unrenderable (engine.parser.render gs.dialect.sqlglot) ast

/-- Validation answers with all findings exactly where nothing escapes it. -/
theorem validation_total (repr : String → String) (engine : SQLValidationEngine)
    (gs : GeneratedSQL) :
    (∃ r, engine.validate repr gs = .ok r ∧
        Reports gs (engine.findings repr gs) r.toSQLValidationResult) ↔
      ¬ engine.Escapes gs := by
  simp only [SQLValidationEngine.validate, SQLValidationEngine.findings,
    SQLValidationEngine.Escapes, SQLParser.parse]
  cases hp : engine.parser.parseOne gs.sql gs.dialect.sqlglot with
  | error e =>
    cases e with
    | parseError message =>
      simp only [Except.ok.injEq, exists_eq_left', Except.error.injEq, reduceCtorEq, exists_false,
        false_and, or_self, not_false_eq_true, iff_true]
      exact buildResult_reports gs _ [] [] [] 0
    | tokenError message =>
      simp only [reduceCtorEq, false_and, exists_false, false_iff, not_not]
      exact .inl ⟨message, rfl⟩
  | ok ast =>
    simp only [reduceCtorEq, exists_false, false_or, Except.ok.injEq, exists_eq_left']
    rw [← extractFunctions_error]
    cases hx : extractFunctions (engine.parser.render gs.dialect.sqlglot) ast with
    | error message =>
      simp only [reduceCtorEq, false_and, exists_false, false_iff, not_not]
      exact ⟨message, rfl⟩
    | ok names =>
      simp only [Except.ok.injEq, exists_eq_left', reduceCtorEq, exists_false, not_false_eq_true,
        iff_true, foldl_runValidator, List.nil_append]
      exact buildResult_reports gs _ _ _ _ _

theorem unterminated_nonempty : "SELECT 'abc" ≠ "" := by decide

def unterminated : GeneratedSQL where
  sql := "SELECT 'abc"
  dialect := .postgresql
  sql_nonempty := unterminated_nonempty

def refusing : SQLParser where
  parseOne := fun _ _ => .error (.tokenError "Error tokenizing 'SELECT 'ab'")
  render := fun _ _ => .ok ""

theorem validate_unterminated : ¬ ∀ (repr : String → String) (engine : SQLValidationEngine)
    (gs : GeneratedSQL), ∃ r, engine.validate repr gs = .ok r ∧
      Reports gs (engine.findings repr gs) r.toSQLValidationResult := by
  intro h
  obtain ⟨r, hr, _⟩ := h id ⟨refusing, []⟩ unterminated
  cases hr

/-- The validators that look names up, as entries of the registry. -/
def nameValidators (repr : String → String) (registry : MetadataRegistry) : List Validator :=
  [⟨"schema", fun parsed => .ok (schemaValidator repr registry parsed.ast)⟩,
    ⟨"table", fun parsed => .ok (tableValidator repr registry parsed.ast)⟩,
    ⟨"column", fun parsed => .ok (columnValidator repr registry parsed.ast)⟩]

end QueryMind.Sql
