import QueryMind.Sql.Models

namespace QueryMind.Execution
open Sql
set_option autoImplicit true

inductive ExecutionStatus
  | success
  | failed
  | rejected
  | timeout
  deriving DecidableEq, Repr

def ExecutionStatus.value : ExecutionStatus → String
  | .success => "success"
  | .failed => "failed"
  | .rejected => "rejected"
  | .timeout => "timeout"

structure ExecutionError where
  code : String
  message : String
  details : Option String := none
  deriving DecidableEq, Repr

structure QueryColumn where
  name : String
  databaseType : String
  pythonType : String
  nullable : Option Bool
  deriving DecidableEq, Repr

/-- A value the driver returned: an exact number, or the Python type and text of anything else. -/
inductive Value
  | null
  | bool (b : Bool)
  | int (n : Int)
  | decimal (unscaled : Int) (scale : Nat)
  | str (s : String)
  | other (pythonType text : String)
  deriving DecidableEq, Repr

structure QueryRow where
  values : List Value
  deriving DecidableEq, Repr

structure QueryResult where
  columns : List QueryColumn
  rows : List QueryRow
  rowCount : Nat
  deriving DecidableEq, Repr

structure RawQueryResult where
  columnNames : List String
  columnTypeOids : List (Option Nat)
  rows : List (List Value)
  deriving DecidableEq, Repr

structure ExecutionStatistics where
  rowsReturned : Nat
  columnsReturned : Nat
  databaseName : String
  dialect : SQLDialect
  deriving DecidableEq, Repr

structure SQLExecutionResult where
  status : ExecutionStatus
  executedSql : String
  queryResult : Option QueryResult
  statistics : ExecutionStatistics
  executionError : Option ExecutionError
  deriving DecidableEq, Repr

/-- What `SQLExecutor.execute` raises. -/
inductive ExecutorError
  | timeout (message : String)
  | failure (message : String)
  deriving DecidableEq, Repr

/-- `_POSTGRES_OID_TYPES`: the database type and the Python type of an identifier. -/
def postgresOidTypes : List (Nat × String × String) :=
  [(16, "boolean", "bool"), (20, "bigint", "int"), (21, "smallint", "int"),
    (23, "integer", "int"), (25, "text", "str"), (114, "json", "dict"), (700, "real", "float"),
    (701, "double precision", "float"), (1042, "char", "str"), (1043, "varchar", "str"),
    (1082, "date", "date"), (1083, "time", "time"), (1114, "timestamp", "datetime"),
    (1184, "timestamptz", "datetime"), (1700, "numeric", "Decimal"), (2950, "uuid", "UUID"),
    (3802, "jsonb", "dict")]

def oidText : Option Nat → String
  | none => "None"
  | some oid => oid.repr

def resultColumn (name : String) (typeOid : Option Nat) : QueryColumn :=
  let types := (typeOid.bind (fun oid => postgresOidTypes.lookup oid)).getD
    ("oid:" ++ oidText typeOid, "object")
  { name, databaseType := types.1, pythonType := types.2, nullable := none }

def formatResult (raw : RawQueryResult) : Except String QueryResult :=
  if raw.columnNames.length ≠ raw.columnTypeOids.length then
    .error ("column_names (" ++ raw.columnNames.length.repr ++ ") and column_type_oids (" ++
      raw.columnTypeOids.length.repr ++ ") have different lengths.")
  else
    .ok {
      columns := List.zipWith resultColumn raw.columnNames raw.columnTypeOids
      rows := raw.rows.map QueryRow.mk
      rowCount := raw.rows.length }

end QueryMind.Execution
