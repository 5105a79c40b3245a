import QueryMind.Sql.Models

namespace QueryMind.Execution
open Lib Sql
set_option autoImplicit true

inductive GuardError
  | executionRejected (message : String)
  | parseFailure (e : ParseFailure)
  deriving DecidableEq, Repr

/-- A timeout, in milliseconds, that `__init__` accepts. -/
structure ExecutionGuard where
  timeoutMs : Nat
  timeout_pos : 0 < timeoutMs

structure ExecutionPermit where
  sql : String
  timeoutMs : Nat
  deriving DecidableEq, Repr

def isWriteNode : NodeClass → Bool
  | .insert | .update | .delete | .merge | .create | .alter | .drop | .truncateTable | .copy => true
  | _ => false

def ExecutionGuard.check (g : ExecutionGuard) (parse : Parse) (generatedSql : GeneratedSQL)
    (validationResult : SQLValidationResult) : Except GuardError ExecutionPermit :=
  if !validationResult.isValid then
    .error (.executionRejected
      "SQL did not pass validation (SQLValidationResult.is_valid is False).")
  else
    let sql := Text.strip generatedSql.sql
    if sql.isEmpty then
      .error (.executionRejected "SQL is empty.")
    else
      match parse sql generatedSql.dialect.sqlglot with
      | .error e => .error (.parseFailure e)
      | .ok parsed =>
        match parsed.filterMap id with
        | [statement] =>
          if statement.cls ≠ .select then
            .error (.executionRejected
              ("Only SELECT (including WITH ... SELECT) statements are permitted; got " ++
                Text.upper statement.cls.name ++ "."))
          else
            match statement.find isWriteNode with
            | some node =>
              .error (.executionRejected ("Statement contains a " ++ Text.upper node.cls.name ++
                " operation, which is not read-only (e.g. inside a writable CTE)."))
            | none => .ok { sql, timeoutMs := g.timeoutMs }
        | statements =>
          .error (.executionRejected ("Expected exactly one SQL statement, found " ++
            statements.length.repr ++ "."))

/-- Node types, beside those of rows and tables, by which a statement writes: it loads rows,
attaches a database, changes a comment, a right or a setting that is stored, refreshes what is
stored, or is a command that is kept unparsed. -/
def otherWrites : List String :=
  ["LoadData", "Comment", "Grant", "Attach", "Detach", "Cache", "Uncache", "Refresh", "Pragma",
    "Command"]

def writesData : NodeClass → Bool
  | .insert | .update | .delete | .merge | .copy | .into => true
  | .create | .alter | .drop | .truncateTable => true
  | .other name => name ∈ otherWrites
  | _ => false

/-- The writes that `_WRITE_NODE_TYPES` does not list. -/
def unlistedWrite : NodeClass → Bool
  | .into => true
  | .other name => name ∈ otherWrites
  | _ => false

theorem writesData_eq (c : NodeClass) : writesData c = (isWriteNode c || unlistedWrite c) := by
  cases c <;> rfl

/-- The text parses to one statement, and that is a `Select`. -/
def ParsesToSelect (parse : Parse) (gs : GeneratedSQL) (root : Node) : Prop :=
  ∃ parsed, parse (Text.strip gs.sql) gs.dialect.sqlglot = .ok parsed ∧
    parsed.filterMap id = [root] ∧ root.cls = .select

/-- A permit that is sound: one statement, a `Select` that writes nothing, and its own text. -/
def ReadOnly (parse : Parse) (gs : GeneratedSQL) (permit : ExecutionPermit) : Prop :=
  permit.sql = Text.strip gs.sql ∧
    ∃ root, ParsesToSelect parse gs root ∧
      ∀ n : Node, OrderedTree.Below n root → writesData n.cls = false

theorem ParsesToSelect.unique (h : ParsesToSelect parse gs root)
    (h' : ParsesToSelect parse gs root') : root = root' := by
  obtain ⟨parsed, hp, hr, _⟩ := h
  obtain ⟨parsed', hp', hr', _⟩ := h'
  rw [hp] at hp'
  cases hp'
  rw [hr] at hr'
  exact List.singleton_inj.1 hr'

theorem check_ok {g : ExecutionGuard} (h : g.check parse gs vr = .ok permit) :
    vr.isValid = true ∧ (Text.strip gs.sql).isEmpty = false ∧
      permit = ⟨Text.strip gs.sql, g.timeoutMs⟩ ∧
      ∃ root, ParsesToSelect parse gs root ∧
        ∀ n : Node, OrderedTree.Below n root → isWriteNode n.cls = false := by
  simp only [ExecutionGuard.check] at h
  split at h
  · cases h
  · rename_i hv
    split at h
    · cases h
    · rename_i he
      split at h
      · cases h
      · rename_i parsed hp
        split at h
        · rename_i root hr
          split at h
          · cases h
          · rename_i hs
            split at h
            · cases h
            · rename_i hw
              cases h
              exact ⟨by simpa using hv, by simpa using he, rfl, root,
                ⟨parsed, hp, hr, not_not.1 hs⟩, Node.find_none.1 hw⟩
        · cases h

theorem check_of {g : ExecutionGuard} (hv : vr.isValid = true)
    (he : (Text.strip gs.sql).isEmpty = false) (hp : ParsesToSelect parse gs root)
    (hw : ∀ n : Node, OrderedTree.Below n root → isWriteNode n.cls = false) :
    g.check parse gs vr = .ok ⟨Text.strip gs.sql, g.timeoutMs⟩ := by
  obtain ⟨parsed, hp, hr, hs⟩ := hp
  simp only [ExecutionGuard.check, hv, he, hp, hr, hs, Node.find_none.2 hw, Bool.not_true,
    Bool.false_eq_true, if_false, ne_eq, not_true_eq_false]

/-- A `SELECT` that the guard has no reason to refuse, with a write that its list does not name. -/
def WritesUnlisted (parse : Parse) (gs : GeneratedSQL) (vr : SQLValidationResult) : Prop :=
  vr.isValid = true ∧ (Text.strip gs.sql).isEmpty = false ∧
    ∃ root, ParsesToSelect parse gs root ∧
      (∀ n : Node, OrderedTree.Below n root → isWriteNode n.cls = false) ∧
      ∃ n : Node, OrderedTree.Below n root ∧ unlistedWrite n.cls = true

/-- A permit is read-only exactly when the statement has no write that the guard's list lacks. -/
theorem permit_read_only (g : ExecutionGuard) (parse : Parse) (gs : GeneratedSQL)
    (vr : SQLValidationResult) :
    (∀ permit, g.check parse gs vr = .ok permit → ReadOnly parse gs permit) ↔
      ¬ WritesUnlisted parse gs vr := by
  constructor
  · rintro h ⟨hv, he, root, hp, hw, n, hn, hu⟩
    obtain ⟨_, root', hp', hro⟩ := h _ (check_of hv he hp hw)
    rw [← hp.unique hp'] at hro
    have hno := hro n hn
    rw [writesData_eq, hu, Bool.or_true] at hno
    cases hno
  · intro hno permit hc
    obtain ⟨hv, he, rfl, root, hp, hw⟩ := check_ok hc
    refine ⟨rfl, root, hp, fun n hn => ?_⟩
    rw [writesData_eq, hw n hn, Bool.false_or, Bool.eq_false_iff]
    exact fun hu => hno ⟨hv, he, root, hp, hw, n, hn, hu⟩

def selectInto : Node :=
  mk "" .select [
    mk "expressions" .star [],
    mk "into" .into [mk "this" .table [ident "this" "backup"]],
    mk "from" .from [mk "this" .table [ident "this" "customers"]]]

def parseSelectInto : Parse := fun _ _ => .ok [some selectInto]

def selectIntoSql : GeneratedSQL where
  sql := "SELECT * INTO backup FROM customers"
  dialect := .postgresql
  sql_nonempty := by decide

theorem permit_select_into :
    ∃ permit, ExecutionGuard.check ⟨30000, by decide⟩ parseSelectInto selectIntoSql
        ⟨selectIntoSql, true, [], []⟩ = .ok permit ∧
      ¬ ReadOnly parseSelectInto selectIntoSql permit := by
  refine ⟨⟨"SELECT * INTO backup FROM customers", 30000⟩, by decide, ?_⟩
  rintro ⟨_, root, ⟨parsed, hp, hr, _⟩, hro⟩
  cases hp
  cases hr
  have hno := hro _ (OrderedTree.Below.child (.tail _ (.head _)) .refl)
  cases hno

end QueryMind.Execution
