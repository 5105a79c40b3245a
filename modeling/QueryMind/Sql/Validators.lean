import QueryMind.Sql.Parser
import QueryMind.Metadata.Registry

namespace QueryMind.Sql
open Lib Metadata
set_option autoImplicit true

def columnExists (r : MetadataRegistry) (table column : String) : Bool :=
  match r.getTable table with
  | none => false
  | some t => t.columns.any (fun c => c.name = column)

def supportedSchema : String := "public"

def errorIssue (code message : String) (relatedObject : String) : ValidationIssue :=
  { code, severity := .error, message, relatedObject := some relatedObject }

section Validators
variable (repr : String → String) (registry : MetadataRegistry)

def unknownTable (name : String) : ValidationIssue :=
  errorIssue "unknown_table" ("Table " ++ repr name ++ " does not exist in the schema.") name

def unknownColumn (table column : String) : ValidationIssue :=
  errorIssue "unknown_column"
    ("Column " ++ repr column ++ " does not exist on table " ++ repr table ++ ".")
    (table ++ "." ++ column)

/-- The findings of the schema validator about one table reference. -/
def schemaTableIssues (localNames : List String) (ref : TableReference) : List ValidationIssue :=
  if ref.name ∈ localNames then
    []
  else
    (match ref.node.arg "db" with
      | none => []
      | some schemaNode =>
        if Text.lower schemaNode.name ≠ supportedSchema then
          [errorIssue "unknown_schema" ("Schema " ++ repr schemaNode.name ++
            " is not supported (only " ++ repr supportedSchema ++ " is).") ref.name]
        else
          []) ++
      if ref.name ∉ registry.listTables then [unknownTable repr ref.name] else []

def schemaColumnIssues (localNames : List String) (aliasMap : List (String × String))
    (column : ColumnReference) : List ValidationIssue :=
  match column.qualifier with
  | none => []
  | some qualifier =>
    if qualifier ∈ localNames then
      []
    else
      match aliasMap.lookup qualifier with
      | none => []
      | some realTable =>
        if realTable ∉ registry.listTables then []
        else if columnExists registry realTable column.name then []
        else [unknownColumn repr realTable column.name]

def schemaValidator (ast : Node) : List ValidationIssue :=
  (extractTables ast).flatMap (schemaTableIssues repr registry (localScopeNames ast)) ++
    (extractColumns ast).flatMap
      (schemaColumnIssues repr registry (localScopeNames ast) (buildAliasMap ast))

def duplicateAliasIssues (refs : List TableReference) : List ValidationIssue :=
  let aliases := refs.filterMap TableReference.alias?
  aliases.eraseDups.flatMap (fun a =>
    if aliases.count a > 1 then
      [errorIssue "duplicate_table_alias" ("Alias " ++ repr a ++ " is declared " ++
        (aliases.count a).repr ++ " times.") a]
    else
      [])

def ambiguousReferenceIssues (refs : List TableReference) : List ValidationIssue :=
  let names := (refs.filter (fun r => r.alias?.isNone)).map TableReference.name
  names.eraseDups.flatMap (fun n =>
    if names.count n > 1 then
      [errorIssue "ambiguous_table_reference" ("Table " ++ repr n ++
        " is referenced more than once with no alias to disambiguate the references.") n]
    else
      [])

def tableValidator (ast : Node) : List ValidationIssue :=
  (extractTables ast).flatMap (fun ref =>
      if ref.name ∉ localScopeNames ast ∧ ref.name ∉ registry.listTables then
        [unknownTable repr ref.name]
      else
        []) ++
    duplicateAliasIssues repr (extractTables ast) ++
    ambiguousReferenceIssues repr (extractTables ast)

def outputAliases (ast : Node) : List String :=
  if ast.cls = .select then
    (ast.argList "expressions").filterMap
      (fun item => if item.cls = .alias then orNone item.aliasName else none)
  else
    []

def sortedNames (names : List String) : String :=
  ", ".intercalate (names.mergeSort (fun a b => decide (a ≤ b)))

def columnIssues (localNames : List String) (aliasMap : List (String × String))
    (tablesInScope outputs : List String) (column : ColumnReference) : List ValidationIssue :=
  match column.qualifier with
  | some qualifier =>
    match aliasMap.lookup qualifier with
    | none =>
      [errorIssue "invalid_qualification" ("Column qualifier " ++ repr qualifier ++
        " does not match any table or alias in scope.") (qualifier ++ "." ++ column.name)]
    | some realTable =>
      if realTable ∈ localNames then []
      else if columnExists registry realTable column.name then []
      else [unknownColumn repr realTable column.name]
  | none =>
    if column.name ∈ outputs then
      []
    else
      match tablesInScope.filter (fun t => columnExists registry t column.name) with
      | [] =>
        [errorIssue "unknown_column" ("Column " ++ repr column.name ++
          " does not exist on any table in scope.") column.name]
      | [_] => []
      | owners =>
        [errorIssue "ambiguous_column" ("Column " ++ repr column.name ++
          " exists on more than one table in scope (" ++ sortedNames owners ++
          ") and must be qualified.") column.name]

def columnValidator (ast : Node) : List ValidationIssue :=
  let aliasMap := buildAliasMap ast
  let localNames := localScopeNames ast
  let tablesInScope := ((aliasMap.map Prod.snd).filter (fun t => t ∉ localNames)).eraseDups
  (extractColumns ast).flatMap
    (columnIssues repr registry localNames aliasMap tablesInScope (outputAliases ast))

end Validators

section AliasValidator
variable (repr : String → String)

def declaredTwice (what : String) (aliases : List String) : List ValidationIssue :=
  aliases.eraseDups.flatMap (fun a =>
    if aliases.count a > 1 then
      [errorIssue "duplicate_alias"
        (what ++ " alias " ++ repr a ++ " is declared " ++ (aliases.count a).repr ++ " times.") a]
    else
      [])

def checkDuplicateTableAliases (ast : Node) : List ValidationIssue :=
  declaredTwice repr "Table" ((extractTables ast).filterMap TableReference.alias?)

end AliasValidator

/-- The three validators that look names up find nothing to object to. -/
def Accepted (repr : String → String) (registry : MetadataRegistry) (ast : Node) : Prop :=
  ∀ issue ∈ schemaValidator repr registry ast ++ tableValidator repr registry ast ++
    columnValidator repr registry ast, issue.severity ≠ .error

theorem Accepted.table {repr : String → String} {ast t : Node} (h : Accepted repr registry ast)
    (hb : OrderedTree.Below t ast) (ht : t.cls = .table) (hl : t.name ∉ localScopeNames ast) :
    t.name ∈ registry.listTables ∧ ∀ d ∈ t.arg "db", Text.lower d.name = supportedSchema := by
  have hno : schemaTableIssues repr registry (localScopeNames ast)
      ⟨t.name, orNone t.aliasName, t⟩ = [] := by
    refine List.eq_nil_iff_forall_not_mem.2 fun issue hi => ?_
    have hm : issue ∈ schemaValidator repr registry ast :=
      List.mem_append_left _ (List.mem_flatMap.2 ⟨_, mem_extractTables.2 ⟨t, hb, ht, rfl⟩, hi⟩)
    refine h issue (List.mem_append_left _ (List.mem_append_left _ hm)) ?_
    simp only [schemaTableIssues, hl, if_false, List.mem_append] at hi
    rcases hi with hi | hi
    · split at hi
      · cases hi
      · split at hi
        · rw [List.mem_singleton.1 hi]; rfl
        · cases hi
    · split at hi
      · rw [List.mem_singleton.1 hi]; rfl
      · cases hi
  simp only [schemaTableIssues, hl, if_false, List.append_eq_nil_iff] at hno
  obtain ⟨hschema, hname⟩ := hno
  constructor
  · by_contra hn
    rw [if_pos hn] at hname
    cases hname
  · intro d hd
    rw [Option.mem_def.1 hd] at hschema
    by_contra hn
    simp only [if_pos hn] at hschema
    cases hschema

end QueryMind.Sql
