import QueryMind.Lib.Text
import QueryMind.Lib.Tree

namespace QueryMind.Sql
open Lib
set_option autoImplicit true

/-- The node types of sqlglot that the program tells apart. -/
inductive NodeClass
  | select
  | union
  | intersect
  | except
  | subquery
  | with
  | cte
  | tableAlias
  | from
  | join
  | lateral
  | values
  | into
  | lock
  | table
  | schema
  | column
  | identifier
  | star
  | alias
  | literal
  | null
  | var
  | where
  | group
  | having
  | order
  | ordered
  | limit
  | window
  | insert
  | update
  | delete
  | merge
  | create
  | alter
  | drop
  | truncateTable
  | copy
  | func (name : String)
  | other (name : String)
  deriving DecidableEq, Repr

def NodeClass.name : NodeClass → String
  | .select => "Select"
  | .union => "Union"
  | .intersect => "Intersect"
  | .except => "Except"
  | .subquery => "Subquery"
  | .with => "With"
  | .cte => "CTE"
  | .tableAlias => "TableAlias"
  | .from => "From"
  | .join => "Join"
  | .lateral => "Lateral"
  | .values => "Values"
  | .into => "Into"
  | .lock => "Lock"
  | .table => "Table"
  | .schema => "Schema"
  | .column => "Column"
  | .identifier => "Identifier"
  | .star => "Star"
  | .alias => "Alias"
  | .literal => "Literal"
  | .null => "Null"
  | .var => "Var"
  | .where => "Where"
  | .group => "Group"
  | .having => "Having"
  | .order => "Order"
  | .ordered => "Ordered"
  | .limit => "Limit"
  | .window => "Window"
  | .insert => "Insert"
  | .update => "Update"
  | .delete => "Delete"
  | .merge => "Merge"
  | .create => "Create"
  | .alter => "Alter"
  | .drop => "Drop"
  | .truncateTable => "TruncateTable"
  | .copy => "Copy"
  | .func name | .other name => name

def NodeClass.isFunc : NodeClass → Bool
  | .func _ => true
  | _ => false

/-- The argument a node is in its parent, its type, and its arguments that are plain strings. -/
structure Label where
  key : String
  cls : NodeClass
  attrs : List (String × String)
  deriving DecidableEq, Repr

abbrev Node := OrderedTree Label

namespace Node

def key (n : Node) : String := n.label.key

def cls (n : Node) : NodeClass := n.label.cls

def attr (n : Node) (key : String) : Option String := n.label.attrs.lookup key

def arg (n : Node) (key : String) : Option Node := n.children.find? (fun c => c.key = key)

def argList (n : Node) (key : String) : List Node := n.children.filter (fun c => c.key = key)

def findAll (n : Node) (p : NodeClass → Bool) : List Node := n.walk.filter (fun m => p m.cls)

def find (n : Node) (p : NodeClass → Bool) : Option Node := n.walk.find? (fun m => p m.cls)

def text (n : Node) (key : String) : String :=
  match n.attr key with
  | some s => s
  | none =>
    match n.arg key with
    | none => ""
    | some c =>
      match c.cls with
      | .identifier | .literal | .var => (c.attr "this").getD ""
      | .star => "*"
      | .null => "NULL"
      | _ => ""

/-- `name` of a node that is not a table. -/
def plainName (n : Node) : String :=
  match n.cls with
  | .star => "*"
  | .null => "NULL"
  | _ => n.text "this"

/-- `name`: a table function has none. -/
def name (n : Node) : String :=
  match n.cls with
  | .table =>
    match n.arg "this" with
    | none => ""
    | some t => if t.cls.isFunc then "" else t.plainName
  | _ => n.plainName

/-- `alias`: the name of the alias clause, when there is one. -/
def aliasName (n : Node) : String :=
  match n.arg "alias" with
  | some a => if a.cls = .tableAlias then a.name else n.text "alias"
  | none => n.text "alias"

def quoted (n : Node) : Bool := n.attr "quoted" = some "True"

theorem mem_findAll {n m : Node} {p : NodeClass → Bool} :
    m ∈ n.findAll p ↔ OrderedTree.Below m n ∧ p m.cls = true := by
  rw [findAll, List.mem_filter, OrderedTree.mem_walk]

theorem find_none {n : Node} {p : NodeClass → Bool} :
    n.find p = none ↔ ∀ m : Node, OrderedTree.Below m n → p m.cls = false := by
  simp only [find, List.find?_eq_none, OrderedTree.mem_walk, Bool.not_eq_true]

end Node

def mk (key : String) (cls : NodeClass) (children : List Node) : Node :=
  .node ⟨key, cls, []⟩ children

def ident (key name : String) : Node :=
  .node ⟨key, .identifier, [("this", name), ("quoted", "False")]⟩ []

end QueryMind.Sql
