import QueryMind.Sql.Validators

namespace QueryMind.Sql
open Lib Metadata
set_option autoImplicit true

/-- What an identifier means to the database: lower case, unless it is quoted. -/
def folded (id : Node) : String := if id.quoted then id.name else Text.lower id.name

/-- The table a reference names; a table function names none. -/
def resolvedTable (t : Node) : String :=
  match t.arg "this" with
  | none => ""
  | some i => if i.cls.isFunc then "" else folded i

def cteName (cte : Node) : String :=
  match cte.arg "alias" with
  | none => ""
  | some a =>
    match a.arg "this" with
    | none => ""
    | some i => folded i

/-- A reference is to a visible CTE when it has no schema and one of the visible names. -/
def boundTable (visible : List String) (t : Node) : Bool :=
  match t.arg "this" with
  | none => false
  | some i => i.cls = .identifier && (t.arg "db").isNone && folded i ∈ visible

/-- The names declared by the `WITH` clause among the arguments of a query. -/
def withNames (args : List Node) : List String :=
  (args.filter (fun a => a.cls = .with)).flatMap (fun w => w.children.map cteName)

def isRecursive (l : Label) : Bool := l.attrs.lookup "recursive" = some "True"

/-- The table a statement writes to is looked up among the real tables only. -/
def isTarget (c : NodeClass) (arg : Node) : Bool :=
  arg.key = "this" && match c with
    | .into | .insert | .update | .delete | .merge | .create | .alter | .drop | .copy => true
    | _ => false

/-- The CTEs an argument sees: a query's `WITH` clause does not see the names it declares. -/
def argScope (c : NodeClass) (outer inner : List String) (arg : Node) : List String :=
  if arg.cls = .with then outer else if isTarget c arg then [] else inner

mutual
/-- The table references of a tree that are not bound to a CTE visible where they stand. -/
def unbound (visible : List String) : Node → List Node
  | .node l cs =>
    (if l.cls = .table && !boundTable visible (.node l cs) then [.node l cs] else []) ++
      match l.cls with
      -- a CTE sees its earlier siblings, or all of them and itself after RECURSIVE
      | .with => unboundCtes (if isRecursive l then visible ++ cs.map cteName else visible) cs
      -- the tables of a locking clause name items of the FROM list
      | .lock => []
      | c => unboundArgs c visible (visible ++ withNames cs) cs

def unboundArgs (c : NodeClass) (outer inner : List String) : List Node → List Node
  | [] => []
  | n :: ns => unbound (argScope c outer inner n) n ++ unboundArgs c outer inner ns

def unboundCtes (visible : List String) : List Node → List Node
  | [] => []
  | n :: ns => unbound visible n ++ unboundCtes (visible ++ [cteName n]) ns
end

mutual
theorem mem_unbound : ∀ {visible : List String} {t : Node}, u ∈ unbound visible t →
    OrderedTree.Below u t ∧ Node.cls u = .table
  | visible, .node l cs, h => by
    rw [unbound, List.mem_append] at h
    rcases h with h | h
    · split at h
      · rename_i hc
        rw [List.mem_singleton.1 h]
        exact ⟨.refl, of_decide_eq_true (Bool.and_eq_true_iff.1 hc).1⟩
      · cases h
    · split at h
      · obtain ⟨c, hc, hb, hk⟩ := mem_unboundCtes h
        exact ⟨.child hc hb, hk⟩
      · cases h
      · obtain ⟨c, hc, hb, hk⟩ := mem_unboundArgs h
        exact ⟨.child hc hb, hk⟩

theorem mem_unboundArgs : ∀ {c : NodeClass} {outer inner : List String} {ts : List Node},
    u ∈ unboundArgs c outer inner ts → ∃ t ∈ ts, OrderedTree.Below u t ∧ Node.cls u = .table
  | _, _, _, [], h => by cases h
  | c, outer, inner, t :: ts, h => by
    rw [unboundArgs, List.mem_append] at h
    rcases h with h | h
    · exact ⟨t, .head _, mem_unbound h⟩
    · obtain ⟨t', ht', hb⟩ := mem_unboundArgs h
      exact ⟨t', .tail _ ht', hb⟩

theorem mem_unboundCtes : ∀ {visible : List String} {ts : List Node},
    u ∈ unboundCtes visible ts → ∃ t ∈ ts, OrderedTree.Below u t ∧ Node.cls u = .table
  | _, [], h => by cases h
  | visible, t :: ts, h => by
    rw [unboundCtes, List.mem_append] at h
    rcases h with h | h
    · exact ⟨t, .head _, mem_unbound h⟩
    · obtain ⟨t', ht', hb⟩ := mem_unboundCtes h
      exact ⟨t', .tail _ ht', hb⟩
end

/-- A reference to a table of the registry, in schema public. -/
def Registered (registry : MetadataRegistry) (t : Node) : Prop :=
  resolvedTable t ∈ registry.listTables ∧ ∀ d ∈ t.arg "db", folded d = supportedSchema

/-- Every table that a query reads from the database is a registered one. -/
def Confined (registry : MetadataRegistry) (ast : Node) : Prop :=
  ∀ t ∈ unbound [] ast, Registered registry t

/-- The database reads the names of a reference the way the validators compare them. -/
def AsWritten (t : Node) : Prop :=
  resolvedTable t = t.name ∧ ∀ d ∈ t.arg "db", folded d = Text.lower d.name

/-- A reference the validators pass over: exempt by a name that is not visible there, or misread. -/
def Overlooked (ast t : Node) : Prop :=
  t ∈ unbound [] ast ∧ (t.name ∈ localScopeNames ast ∨ ¬ AsWritten t)

/-- An accepted query is confined exactly when nothing it overlooks is unregistered. -/
theorem table_confinement {repr : String → String} {ast : Node}
    (h : Accepted repr registry ast) :
    Confined registry ast ↔ ∀ t, Overlooked ast t → Registered registry t := by
  constructor
  · intro hc t ho
    exact hc t ho.1
  · intro ho t ht
    by_cases hl : t.name ∈ localScopeNames ast ∨ ¬ AsWritten t
    · exact ho t ⟨ht, hl⟩
    · rw [not_or, not_not] at hl
      obtain ⟨hl, hname, hschema⟩ := hl
      obtain ⟨hb, hc⟩ := mem_unbound ht
      obtain ⟨hk, hs⟩ := h.table hb hc hl
      refine ⟨by rw [hname]; exact hk, fun d hd => ?_⟩
      rw [hschema d hd]
      exact hs d hd

def customersRegistry : MetadataRegistry :=
  ⟨[⟨"customers",
    [⟨"customers", "id", "UUID", none⟩, ⟨"customers", "name", "VARCHAR(255)", none⟩], none⟩]⟩

def shopRegistry : MetadataRegistry :=
  ⟨customersRegistry.tables ++ [⟨"orders",
    [⟨"orders", "id", "UUID", none⟩, ⟨"orders", "customer_id", "UUID", none⟩], none⟩]⟩

def columnOf (key table column : String) : Node :=
  mk key .column [ident "this" column, ident "table" table]

/-- `WITH users AS (SELECT u.password_hash FROM users AS u) SELECT users.password_hash FROM
users`. -/
def shadowedUsers : Node :=
  mk "" .select [
    mk "with" .with [
      mk "expressions" .cte [
        mk "this" .select [
          columnOf "expressions" "u" "password_hash",
          mk "from" .from [
            mk "this" .table [
              ident "this" "users",
              mk "alias" .tableAlias [ident "this" "u"]]]],
        mk "alias" .tableAlias [ident "this" "users"]]],
    columnOf "expressions" "users" "password_hash",
    mk "from" .from [mk "this" .table [ident "this" "users"]]]

/-- `WITH recent AS (SELECT customer_id FROM orders AS o) SELECT c.name FROM customers AS c WHERE
EXISTS (SELECT recent.customer_id FROM recent WHERE recent.customer_id = c.id)`. -/
def recentCustomers : Node :=
  mk "" .select [
    mk "with" .with [
      mk "expressions" .cte [
        mk "this" .select [
          mk "expressions" .column [ident "this" "customer_id"],
          mk "from" .from [
            mk "this" .table [
              ident "this" "orders",
              mk "alias" .tableAlias [ident "this" "o"]]]],
        mk "alias" .tableAlias [ident "this" "recent"]]],
    columnOf "expressions" "c" "name",
    mk "from" .from [
      mk "this" .table [
        ident "this" "customers",
        mk "alias" .tableAlias [ident "this" "c"]]],
    mk "where" .where [
      mk "this" (.other "Exists") [
        mk "this" .select [
          columnOf "expressions" "recent" "customer_id",
          mk "from" .from [mk "this" .table [ident "this" "recent"]],
          mk "where" .where [
            mk "this" (.other "EQ") [
              columnOf "this" "recent" "customer_id",
              columnOf "expression" "c" "id"]]]]]]

instance {repr : String → String} : Decidable (Accepted repr registry ast) :=
  inferInstanceAs (Decidable (∀ _ ∈ _, _))

instance : Decidable (Registered registry t) := inferInstanceAs (Decidable (_ ∧ _))

instance : Decidable (Confined registry ast) := inferInstanceAs (Decidable (∀ _ ∈ _, _))

theorem table_confinement_customers :
    Confined shopRegistry recentCustomers ↔
      ∀ t, Overlooked recentCustomers t → Registered shopRegistry t :=
  table_confinement (by decide : Accepted id shopRegistry recentCustomers)

/-- A CTE that reads the unregistered table it is named after passes every validator. -/
theorem shadowed_users_accepted :
    Accepted id customersRegistry shadowedUsers ∧ shadowedUsers.cls = .select ∧
      ¬ Confined customersRegistry shadowedUsers := by
  refine ⟨by decide, rfl, by decide⟩

end QueryMind.Sql
