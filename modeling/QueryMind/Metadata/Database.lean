import Mathlib.Data.List.Nodup
import QueryMind.Metadata.Registry
import QueryMind.Metadata.Relationships

namespace QueryMind.Metadata
set_option autoImplicit true

/-- A column with the texts it can be found by. -/
structure ColumnEntry where
  column : ColumnMetadata
  synonyms : List String
  searchKeywords : List String
  displayName : Option String
  deriving DecidableEq, Repr

/-- A table with the texts it can be found by; it owns its columns, which have different names. -/
structure TableEntry where
  name : String
  description : Option String
  synonyms : List String
  columns : List ColumnEntry
  owned : ∀ entry ∈ columns, entry.column.tableName = name
  nodup : (columns.map (·.column.name)).Nodup
  deriving DecidableEq, Repr

def TableEntry.metadata (table : TableEntry) : TableMetadata :=
  ⟨table.name, table.columns.map ColumnEntry.column, table.description⟩

/-- The extracted schema; the tables of one schema have different names. -/
structure DatabaseMetadata where
  tables : List TableEntry
  relationships : List RelationshipMetadata
  nodup : (tables.map TableEntry.name).Nodup
  deriving DecidableEq, Repr

inductive LookupError
  | tableNotFound (table : String)
  | columnNotFound (table column : String)
  deriving DecidableEq, Repr

namespace DatabaseMetadata
variable (database : DatabaseMetadata)

def getTable (tableName : String) : Except LookupError TableEntry :=
  match database.tables.find? fun table => table.name = tableName with
  | some table => .ok table
  | none => .error (.tableNotFound tableName)

def getColumn (tableName columnName : String) : Except LookupError ColumnMetadata := do
  let table ← database.getTable tableName
  match table.columns.find? fun entry => entry.column.name = columnName with
  | some entry => .ok entry.column
  | none => .error (.columnNotFound tableName columnName)

def buildGraph : RelationshipGraph :=
  .new (database.tables.map TableEntry.name) database.relationships

end DatabaseMetadata

theorem find_of_nodup {f : α → β} [DecidableEq β] {l : List α} (h : (l.map f).Nodup) (ha : a ∈ l) :
    l.find? (fun b => f b = f a) = some a := by
  induction l with
  | nil => cases ha
  | cons b l ih =>
    rw [List.map_cons, List.nodup_cons] at h
    rw [List.find?_cons]
    by_cases he : f b = f a
    · rw [decide_eq_true he]
      rcases List.mem_cons.1 ha with rfl | ha
      · rfl
      · exact absurd (List.mem_map.2 ⟨a, ha, he.symm⟩) h.1
    · rw [decide_eq_false he]
      rcases List.mem_cons.1 ha with rfl | ha
      · exact absurd rfl he
      · exact ih h.2 ha

theorem DatabaseMetadata.getTable_of_mem {database : DatabaseMetadata}
    (h : table ∈ database.tables) : database.getTable table.name = .ok table := by
  rw [getTable, find_of_nodup database.nodup h]

theorem DatabaseMetadata.getColumn_of_mem {database : DatabaseMetadata}
    (ht : table ∈ database.tables) (h : entry ∈ table.columns) :
    database.getColumn table.name entry.column.name = .ok entry.column := by
  rw [getColumn, getTable_of_mem ht]
  change (match table.columns.find? fun e => e.column.name = entry.column.name with
    | some entry => Except.ok entry.column
    | none => .error (LookupError.columnNotFound table.name entry.column.name)) = _
  rw [find_of_nodup table.nodup h]

end QueryMind.Metadata
