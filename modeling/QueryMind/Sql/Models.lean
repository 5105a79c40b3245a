import QueryMind.Sql.Ast

namespace QueryMind.Sql
set_option autoImplicit true

inductive SQLDialect
  | postgresql
  | mysql
  | sqlite
  | ansi
  deriving DecidableEq, Repr

def SQLDialect.value : SQLDialect → String
  | .postgresql => "postgresql"
  | .mysql => "mysql"
  | .sqlite => "sqlite"
  | .ansi => "ansi"

def SQLDialect.sqlglot : SQLDialect → String
  | .postgresql => "postgres"
  | .mysql => "mysql"
  | .sqlite => "sqlite"
  | .ansi => ""

/-- A generated text; the model rejects an empty one. -/
structure GeneratedSQL where
  sql : String
  dialect : SQLDialect
  sql_nonempty : sql ≠ ""
  deriving DecidableEq

inductive ValidationSeverity
  | error
  | warning
  deriving DecidableEq, Repr

structure ValidationIssue where
  code : String
  severity : ValidationSeverity
  message : String
  relatedObject : Option String
  deriving DecidableEq, Repr

/-- A verdict and the text it was reached for. -/
structure SQLValidationResult where
  generatedSql : GeneratedSQL
  isValid : Bool
  errors : List ValidationIssue
  warnings : List ValidationIssue
  deriving DecidableEq

/-- The exceptions `sqlglot.parse` and `sqlglot.parse_one` may raise. -/
inductive ParseFailure
  | parseError (message : String)
  | tokenError (message : String)
  deriving DecidableEq, Repr

/-- `sqlglot.parse` under a dialect: an empty statement comes back as none. -/
abbrev Parse := String → String → Except ParseFailure (List (Option Node))

end QueryMind.Sql
