import Mathlib.Data.List.Basic

namespace QueryMind.Metadata
set_option autoImplicit true

structure ColumnMetadata where
  tableName : String
  name : String
  sqlType : String
  description : Option String
  deriving DecidableEq, Repr

structure TableMetadata where
  name : String
  columns : List ColumnMetadata
  description : Option String
  deriving DecidableEq, Repr

structure MetadataRegistry where
  tables : List TableMetadata
  deriving DecidableEq, Repr

def MetadataRegistry.listTables (r : MetadataRegistry) : List String :=
  r.tables.map TableMetadata.name

def MetadataRegistry.getTable (r : MetadataRegistry) (name : String) : Option TableMetadata :=
  r.tables.find? (fun t => t.name = name)

end QueryMind.Metadata
