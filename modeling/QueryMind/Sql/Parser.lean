import QueryMind.Sql.Models

namespace QueryMind.Sql
open Lib
set_option autoImplicit true

/-- One base table, CTE or derived table reference found in a query. -/
structure TableReference where
  name : String
  alias? : Option String
  node : Node

structure ColumnReference where
  name : String
  qualifier : Option String
  node : Node

/-- An empty string stands for a missing name. -/
def orNone (s : String) : Option String := if s = "" then none else some s

def isCte (c : NodeClass) : Bool := c = .cte

def isSubquery (c : NodeClass) : Bool := c = .subquery

def isTable (c : NodeClass) : Bool := c = .table

def isColumn (c : NodeClass) : Bool := c = .column

def cteNames (ast : Node) : List String :=
  (ast.findAll isCte).filterMap (fun cte => orNone cte.aliasName)

def derivedTableAliases (ast : Node) : List String :=
  (ast.findAll isSubquery).filterMap (fun subquery => orNone subquery.aliasName)

def localScopeNames (ast : Node) : List String := cteNames ast ++ derivedTableAliases ast

def extractTables (ast : Node) : List TableReference :=
  (ast.findAll isTable).map (fun table => ⟨table.name, orNone table.aliasName, table⟩)

def extractColumns (ast : Node) : List ColumnReference :=
  (ast.findAll isColumn).map (fun column => ⟨column.name, orNone (column.text "table"), column⟩)

/-- A dictionary write: the key keeps its place, the value is replaced. -/
def setItem (k v : String) : List (String × String) → List (String × String)
  | [] => [(k, v)]
  | (k', v') :: m => if k' = k then (k, v) :: m else (k', v') :: setItem k v m

/-- Every qualifier a column may use, and the name it refers to. -/
def buildAliasMap (ast : Node) : List (String × String) :=
  (derivedTableAliases ast).foldl (fun m a => setItem a a m)
    ((extractTables ast).foldl (fun m ref => setItem (ref.alias?.getD ref.name) ref.name m) [])

theorem mem_extractTables {ast : Node} {ref : TableReference} :
    ref ∈ extractTables ast ↔ ∃ t : Node, OrderedTree.Below t ast ∧ t.cls = .table ∧
      ref = ⟨t.name, orNone t.aliasName, t⟩ := by
  simp only [extractTables, List.mem_map, Node.mem_findAll, isTable, decide_eq_true_eq, and_assoc]
  constructor
  · rintro ⟨t, hb, hc, rfl⟩
    exact ⟨t, hb, hc, rfl⟩
  · rintro ⟨t, hb, hc, rfl⟩
    exact ⟨t, hb, hc, rfl⟩

end QueryMind.Sql
