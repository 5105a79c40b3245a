import QueryMind.Lib.SetOrder
import QueryMind.Metadata.Relationships
import QueryMind.Sql.Scope
import QueryMind.Sql.Validation

namespace QueryMind.Sql
open Lib Metadata
set_option autoImplicit true

def sourceName (n : Node) : String := (orNone n.aliasName).getD n.name

structure JoinReference where
  joinType : String
  leftTable : Option String
  rightTable : Option String
  onColumns : List String
  node : Node

def joinedTable (join : Node) : Option Node := (join.arg "this").filter fun t => isTable t.cls

def onColumns (join : Node) : List Node :=
  match join.arg "on" with
  | none => []
  | some condition => condition.findAll isColumn

/-- The qualifiers of an ON condition, without the joined table's own. -/
def leftQualifiers (join : Node) : List String :=
  let onQualifiers := (onColumns join).filterMap fun c => orNone (c.text "table")
  match joinedTable join with
  | none => onQualifiers
  | some t => onQualifiers.filter (· ≠ sourceName t)

def joinType (join : Node) : String :=
  Text.upper ((orNone (join.text "kind")).getD ((orNone (join.text "side")).getD "INNER"))

def extractJoins (order : SetOrder) (ast : Node) : List JoinReference :=
  let aliasMap := buildAliasMap ast
  (ast.findAll isJoin).map fun join =>
    { joinType := joinType join
      leftTable := (order.first (leftQualifiers join)).bind fun q => aliasMap.lookup q
      rightTable := (joinedTable join).map Node.name
      onColumns := (onColumns join).map Node.name
      node := join }

section JoinValidator
variable (repr : String → String) (graph : RelationshipGraph)

def hasRelationship (leftTable rightTable : String) : Bool :=
  (graph.edgesFrom leftTable).any (fun edge => edge.targetTable = rightTable) ||
    (graph.edgesFrom rightTable).any (fun edge => edge.targetTable = leftTable)

def onConditionMatchesARelationship (leftTable rightTable : String) (onColumns : List String) :
    Bool :=
  (graph.edgesFrom leftTable ++ graph.edgesFrom rightTable).any fun edge =>
    (edge.targetTable = leftTable || edge.targetTable = rightTable) &&
      (edge.sourceColumns ++ edge.targetColumns).any (· ∈ onColumns)

def joinIssues (join : JoinReference) : List ValidationIssue :=
  if join.joinType = "CROSS" then []
  else
    match join.leftTable, join.rightTable with
    | some leftTable, some rightTable =>
      if leftTable ∉ graph.nodes then []
      else if rightTable ∉ graph.nodes then []
      else if !hasRelationship graph leftTable rightTable then
        [errorIssue "unknown_join_relationship"
          ("No known relationship connects " ++ repr leftTable ++ " and " ++ repr rightTable ++
            " — this JOIN does not follow the schema.")
          (leftTable ++ "-" ++ rightTable)]
      else if join.onColumns ≠ [] ∧
          onConditionMatchesARelationship graph leftTable rightTable join.onColumns = false then
        [{ code := "join_columns_do_not_match_relationship"
           severity := .warning
           message := "A relationship exists between " ++ repr leftTable ++ " and " ++
             repr rightTable ++
             ", but this JOIN's ON condition doesn't match its declared columns."
           relatedObject := some (leftTable ++ "-" ++ rightTable) }]
      else []
    | _, _ => []

def joinValidator (order : SetOrder) (ast : Node) : List ValidationIssue :=
  (extractJoins order ast).flatMap (joinIssues repr graph)

end JoinValidator

mutual
/-- The items that a FROM item adds to its scope: those of a join in brackets are its tables. -/
def exposed : Node → List Node
  | .node l cs =>
    match l.cls with
    | .table => .node l cs :: exposedIn (fun c => c.key = "joins") cs
    | .join => exposedIn (fun c => c.key = "this") cs
    | .subquery =>
      if Node.aliasName (.node l cs) = "" ∧ (Node.arg (.node l cs) "this").any (isTable ·.cls) then
        exposedIn (fun c => c.key = "this") cs
      else [.node l cs]
    | _ => [.node l cs]

def exposedIn (p : Label → Bool) : List Node → List Node
  | [] => []
  | c :: cs => (if p c.label then exposed c else []) ++ exposedIn p cs
end

/-- A join, the items on its left in its FROM clause, and the CTEs that are visible there. -/
structure JoinSite where
  join : Node
  lefts : List Node
  visible : List String

def siteList (visible : List String) : List Node → List Node → List JoinSite
  | _, [] => []
  | lefts, join :: joins =>
    ⟨join, lefts, visible⟩ :: siteList visible (lefts ++ exposed join) joins

/-- What stands before the joins of a node: the table itself, or the first item of a FROM clause. -/
def firstItems (l : Label) (cs : List Node) : List Node :=
  match l.cls with
  | .table => [.node l cs]
  | _ => (cs.filter fun c => c.cls = .from).flatMap fun c => (c.argList "this").flatMap exposed

mutual
def joinSites (visible : List String) : Node → List JoinSite
  | .node l cs =>
    siteList (visible ++ withNames cs) (firstItems l cs) (cs.filter fun c => isJoin c.cls) ++
      match l.cls with
      | .with => joinSitesCtes (if isRecursive l then visible ++ cs.map cteName else visible) cs
      | _ => joinSitesArgs visible (visible ++ withNames cs) cs

def joinSitesArgs (outer inner : List String) : List Node → List JoinSite
  | [] => []
  | n :: ns =>
    joinSites (if n.cls = .with then outer else inner) n ++ joinSitesArgs outer inner ns

def joinSitesCtes (visible : List String) : List Node → List JoinSite
  | [] => []
  | n :: ns => joinSites visible n ++ joinSitesCtes (visible ++ [cteName n]) ns
end

theorem mem_siteList {site : JoinSite} {lefts joins : List Node}
    (h : site ∈ siteList visible lefts joins) : site.join ∈ joins := by
  induction joins generalizing lefts with
  | nil => cases h
  | cons join joins ih =>
    rcases List.mem_cons.1 h with rfl | h
    · exact List.mem_cons_self
    · exact List.mem_cons_of_mem _ (ih h)

mutual
theorem mem_joinSites : ∀ {visible : List String} {t : Node} {site : JoinSite},
    site ∈ joinSites visible t → OrderedTree.Below site.join t ∧ isJoin site.join.cls = true
  | visible, .node l cs, site, h => by
    rw [joinSites, List.mem_append] at h
    rcases h with h | h
    · obtain ⟨hm, hj⟩ := List.mem_filter.1 (mem_siteList h)
      exact ⟨.child hm .refl, hj⟩
    · split at h
      · obtain ⟨c, hc, hb, hj⟩ := mem_joinSitesCtes h
        exact ⟨.child hc hb, hj⟩
      · obtain ⟨c, hc, hb, hj⟩ := mem_joinSitesArgs h
        exact ⟨.child hc hb, hj⟩

theorem mem_joinSitesArgs : ∀ {outer inner : List String} {ts : List Node} {site : JoinSite},
    site ∈ joinSitesArgs outer inner ts →
      ∃ t ∈ ts, OrderedTree.Below site.join t ∧ isJoin site.join.cls = true
  | _, _, [], _, h => by cases h
  | outer, inner, t :: ts, site, h => by
    rw [joinSitesArgs, List.mem_append] at h
    rcases h with h | h
    · exact ⟨t, .head _, mem_joinSites h⟩
    · obtain ⟨t', ht', hb⟩ := mem_joinSitesArgs h
      exact ⟨t', .tail _ ht', hb⟩

theorem mem_joinSitesCtes : ∀ {visible : List String} {ts : List Node} {site : JoinSite},
    site ∈ joinSitesCtes visible ts →
      ∃ t ∈ ts, OrderedTree.Below site.join t ∧ isJoin site.join.cls = true
  | _, [], _, h => by cases h
  | visible, t :: ts, site, h => by
    rw [joinSitesCtes, List.mem_append] at h
    rcases h with h | h
    · exact ⟨t, .head _, mem_joinSites h⟩
    · obtain ⟨t', ht', hb⟩ := mem_joinSitesCtes h
      exact ⟨t', .tail _ ht', hb⟩
end

def isQuery : NodeClass → Bool
  | .select | .union | .intersect | .except => true
  | _ => false

/-- The qualifiers in the ON condition itself, not those in a query nested in it. -/
def ownQualifiers (join : Node) : List String :=
  match join.arg "on" with
  | none => []
  | some condition =>
    ((condition.own fun l => isQuery l.cls).filter fun c : Node => isColumn c.cls).filterMap
      fun c : Node => orNone (c.text "table")

/-- The items that the joined table is connected to: those its condition names, or else all. -/
def JoinSite.partners (site : JoinSite) : List Node :=
  let named := site.lefts.filter fun s => sourceName s ∈ ownQualifiers site.join
  if named = [] then site.lefts else named

def BaseTable (graph : RelationshipGraph) (visible : List String) (t : Node) : Prop :=
  isTable t.cls = true ∧ boundTable visible t = false ∧ t.name ∈ graph.nodes

/-- A join of two base tables that is not a CROSS JOIN. -/
structure JoinsBase (graph : RelationshipGraph) (site : JoinSite) (right : Node) : Prop where
  kind : joinType site.join ≠ "CROSS"
  joined : site.join.arg "this" = some right
  base : BaseTable graph site.visible right
  partner : ∃ s ∈ site.partners, BaseTable graph site.visible s

/-- A related base table is among those that the joined table is connected to. -/
def Connected (tables : List String) (relationships : List RelationshipMetadata) (site : JoinSite)
    (right : Node) : Prop :=
  ∃ s ∈ site.partners, BaseTable (.new tables relationships) site.visible s ∧
    Related relationships s.name right.name

/-- A join whose left side the validator cannot tell, or tells wrong: what the whole query declares
under the qualifier that it takes is not a base table that the join is connected to. -/
inductive Misjudged (order : SetOrder) (graph : RelationshipGraph) (ast : Node) (site : JoinSite) :
    Prop
  | untold (h : leftQualifiers site.join = [])
  | mistold (q : String) (hq : order.first (leftQualifiers site.join) = some q)
      (h : ∀ s ∈ site.partners, BaseTable graph site.visible s →
        (buildAliasMap ast).lookup q ≠ some s.name)

theorem hasRelationship_new (tables : List String) (relationships : List RelationshipMetadata)
    (a b : String) :
    hasRelationship (.new tables relationships) a b = true ↔ Related relationships a b := by
  have hside : ∀ x y : String,
      ((RelationshipGraph.new tables relationships).edgesFrom x).any
          (fun edge => edge.targetTable = y) = true ↔
        ∃ r ∈ relationships, r.sourceTable = x ∧ r.targetTable = y := by
    intro x y
    rw [RelationshipGraph.edgesFrom_new, List.any_map, List.any_eq_true]
    constructor
    · intro ⟨r, hr, ht⟩
      obtain ⟨hm, hs⟩ := List.mem_filter.1 hr
      exact ⟨r, hm, of_decide_eq_true hs, of_decide_eq_true ht⟩
    · intro ⟨r, hm, hs, ht⟩
      exact ⟨r, List.mem_filter.2 ⟨hm, decide_eq_true hs⟩, decide_eq_true ht⟩
  rw [hasRelationship, Bool.or_eq_true, hside, hside, Related]
  constructor
  · intro h
    rcases h with ⟨r, hr, hab⟩ | ⟨r, hr, hba⟩
    · exact ⟨r, hr, .inl hab⟩
    · exact ⟨r, hr, .inr hba⟩
  · intro ⟨r, hr, h⟩
    rcases h with hab | hba
    · exact .inl ⟨r, hr, hab⟩
    · exact .inr ⟨r, hr, hba⟩

section Accepted
variable {repr : String → String} {order : SetOrder} {graph : RelationshipGraph} {ast : Node}

/-- Of an accepted query, a join whose two sides the validator tells follows a relationship. -/
theorem related_of_accepted
    (h : ∀ issue ∈ joinValidator repr graph order ast, issue.severity ≠ .error)
    (hm : join ∈ ast.findAll isJoin) (hk : joinType join ≠ "CROSS")
    (hl : (order.first (leftQualifiers join)).bind (fun q => (buildAliasMap ast).lookup q) = some a)
    (hr : (joinedTable join).map Node.name = some b) (ha : a ∈ graph.nodes) (hb : b ∈ graph.nodes) :
    hasRelationship graph a b = true := by
  by_contra hn
  have hissue : errorIssue "unknown_join_relationship"
      ("No known relationship connects " ++ repr a ++ " and " ++ repr b ++
        " — this JOIN does not follow the schema.") (a ++ "-" ++ b) ∈
      joinValidator repr graph order ast := by
    apply List.mem_flatMap.2
    refine ⟨_, List.mem_map.2 ⟨join, hm, rfl⟩, ?_⟩
    simp only [joinIssues, if_neg hk, hl, hr, ha, hb, not_true_eq_false, if_false,
      eq_false_of_ne_true hn, Bool.not_false, if_true, List.mem_singleton]
  exact h _ hissue rfl

theorem joinedTable_eq {join right : Node} (h : join.arg "this" = some right)
    (ht : isTable right.cls = true) : joinedTable join = some right := by
  rw [joinedTable, h]
  exact Option.filter_some_pos ht

end Accepted

/-- The joins of base tables of an accepted query all follow a relationship, just when those do
whose left side the validator misjudges. -/
theorem joins_connected_iff {repr : String → String} {order : SetOrder} {ast : Node}
    (h : ∀ issue ∈ joinValidator repr (.new tables relationships) order ast,
      issue.severity ≠ .error) :
    (∀ site ∈ joinSites [] ast, ∀ right, JoinsBase (.new tables relationships) site right →
        Connected tables relationships site right) ↔
      ∀ site ∈ joinSites [] ast, ∀ right, JoinsBase (.new tables relationships) site right →
        Misjudged order (.new tables relationships) ast site →
        Connected tables relationships site right := by
  constructor
  · intro hall site hs right hj _
    exact hall site hs right hj
  · intro hall site hs right hj
    by_cases hmis : Misjudged order (.new tables relationships) ast site
    · exact hall site hs right hj hmis
    obtain ⟨hb, hc⟩ := mem_joinSites hs
    have hne : leftQualifiers site.join ≠ [] := fun he => hmis (.untold he)
    obtain ⟨q, hq⟩ := Option.isSome_iff_exists.1 (order.isSome _ hne)
    have htold : ∃ s ∈ site.partners, BaseTable (.new tables relationships) site.visible s ∧
        (buildAliasMap ast).lookup q = some s.name := by
      by_contra hno
      apply hmis
      refine .mistold q hq ?_
      intro s hsp hbase he
      exact hno ⟨s, hsp, hbase, he⟩
    obtain ⟨s, hsp, hbase, he⟩ := htold
    refine ⟨s, hsp, hbase, (hasRelationship_new tables relationships _ _).1 ?_⟩
    apply related_of_accepted h (Node.mem_findAll.2 ⟨hb, hc⟩) hj.kind
    · rw [hq]
      exact he
    · rw [joinedTable_eq hj.joined hj.base.1]
      rfl
    · exact hbase.2.2
    · exact hj.base.2.2

def tableAs (key name aliasName : String) : Node :=
  mk key .table [ident "this" name, mk "alias" .tableAlias [ident "this" aliasName]]

def ordersToCustomers : RelationshipMetadata :=
  ⟨"customer", "orders", "customers", ["customer_id"], ["id"]⟩

/-- `SELECT c.name FROM orders AS o JOIN customers AS c ON o.customer_id = c.id`. -/
def orderCustomers : Node :=
  mk "" .select [
    columnOf "expressions" "c" "name",
    mk "from" .from [tableAs "this" "orders" "o"],
    mk "joins" .join [
      tableAs "this" "customers" "c",
      mk "on" (.other "EQ") [columnOf "this" "o" "customer_id", columnOf "expression" "c" "id"]]]

theorem joins_connected_orders :
    (∀ site ∈ joinSites [] orderCustomers, ∀ right,
        JoinsBase (.new ["customers", "orders"] [ordersToCustomers]) site right →
        Connected ["customers", "orders"] [ordersToCustomers] site right) ↔
      ∀ site ∈ joinSites [] orderCustomers, ∀ right,
        JoinsBase (.new ["customers", "orders"] [ordersToCustomers]) site right →
        Misjudged listOrder (.new ["customers", "orders"] [ordersToCustomers]) orderCustomers
          site →
        Connected ["customers", "orders"] [ordersToCustomers] site right :=
  joins_connected_iff (by decide : ∀ issue ∈ joinValidator id
    (.new ["customers", "orders"] [ordersToCustomers]) listOrder orderCustomers,
    issue.severity ≠ .error)

/-- `SELECT c.name FROM orders AS o, customers AS c`. -/
def commaJoin : Node :=
  mk "" .select [
    columnOf "expressions" "c" "name",
    mk "from" .from [tableAs "this" "orders" "o"],
    mk "joins" .join [tableAs "this" "customers" "c"]]

theorem commaJoin_sites : joinSites [] commaJoin =
    [⟨mk "joins" .join [tableAs "this" "customers" "c"], [tableAs "this" "orders" "o"], []⟩] := rfl

/-- A comma join of two tables without a relationship passes the validator. -/
theorem comma_join_accepted :
    (∀ issue ∈ joinValidator id (.new ["customers", "orders"] []) listOrder commaJoin,
        issue.severity ≠ .error) ∧ commaJoin.cls = .select ∧
      ¬ ∀ site ∈ joinSites [] commaJoin, ∀ right,
        JoinsBase (.new ["customers", "orders"] []) site right →
        Connected ["customers", "orders"] [] site right := by
  refine ⟨by decide, rfl, ?_⟩
  intro h
  rw [commaJoin_sites] at h
  obtain ⟨s, _, _, r, hr, _⟩ := h _ (List.mem_singleton_self _) (tableAs "this" "customers" "c") {
    kind := by decide
    joined := rfl
    base := ⟨rfl, rfl, by decide⟩
    partner := ⟨tableAs "this" "orders" "o", .head _, rfl, rfl, by decide⟩ }
  cases hr

/-- The left table of a join, as the iteration order has it. -/
def leftTable (order : SetOrder) (ast join : Node) : Option String :=
  (order.first (leftQualifiers join)).bind fun q => (buildAliasMap ast).lookup q

/-- The qualifiers of a join's condition, the joined table's own apart, all name one table. -/
def OneLeftTable (ast join : Node) : Prop :=
  ∀ q ∈ leftQualifiers join, ∀ q' ∈ leftQualifiers join,
    (buildAliasMap ast).lookup q = (buildAliasMap ast).lookup q'

theorem leftTable_of_mem (h : OneLeftTable ast join) (hq : q ∈ leftQualifiers join)
    (order : SetOrder) : leftTable order ast join = (buildAliasMap ast).lookup q := by
  obtain ⟨q', hq'⟩ := Option.isSome_iff_exists.1 (order.isSome _ (List.ne_nil_of_mem hq))
  rw [leftTable, hq']
  exact h q' (order.mem _ _ hq') q hq

theorem leftTable_of_nil (h : leftQualifiers join = []) (order : SetOrder) :
    leftTable order ast join = none := by
  rw [leftTable, h]
  cases hq : order.first [] with
  | none => rfl
  | some q => cases order.mem _ _ hq

theorem leftTable_order_free (h : OneLeftTable ast join) (order order' : SetOrder) :
    leftTable order ast join = leftTable order' ast join := by
  cases hl : leftQualifiers join with
  | nil => rw [leftTable_of_nil hl, leftTable_of_nil hl]
  | cons q l =>
    have hq : q ∈ leftQualifiers join := hl ▸ List.mem_cons_self
    rw [leftTable_of_mem h hq, leftTable_of_mem h hq]

theorem oneLeftTable_of_order_free
    (h : ∀ order order' : SetOrder, leftTable order ast join = leftTable order' ast join) :
    OneLeftTable ast join := by
  intro q hq q' hq'
  have he := h (.preferring q) (.preferring q')
  rw [leftTable, leftTable, SetOrder.preferring_first hq, SetOrder.preferring_first hq'] at he
  exact he

theorem extractJoins_eq_iff (order order' : SetOrder) (ast : Node) :
    extractJoins order ast = extractJoins order' ast ↔
      ∀ join ∈ ast.findAll isJoin, leftTable order ast join = leftTable order' ast join := by
  rw [extractJoins, extractJoins, List.map_inj_left]
  apply forall₂_congr
  intro join _
  exact ⟨congrArg JoinReference.leftTable, fun h => by rw [leftTable, leftTable] at h; rw [h]⟩

/-- No order of the sets of qualifiers matters to a query, just when the condition of each join
names one table besides the joined one. -/
theorem joins_order_free_iff (ast : Node) :
    (∀ order order' : SetOrder, extractJoins order ast = extractJoins order' ast ∧
        ∀ repr graph, joinValidator repr graph order ast = joinValidator repr graph order' ast) ↔
      ∀ join ∈ ast.findAll isJoin, OneLeftTable ast join := by
  constructor
  · intro h join hj
    apply oneLeftTable_of_order_free
    intro order order'
    exact (extractJoins_eq_iff order order' ast).1 (h order order').1 join hj
  · intro h order order'
    have he : extractJoins order ast = extractJoins order' ast := by
      rw [extractJoins_eq_iff]
      intro join hj
      exact leftTable_order_free (h join hj) order order'
    refine ⟨he, ?_⟩
    intro repr graph
    rw [joinValidator, joinValidator, he]

/-- `SELECT c.name FROM orders AS o JOIN stores AS s ON o.store_id = s.id
JOIN customers AS c ON o.customer_id = c.id AND s.region = c.region`. -/
def storeCustomers : Node :=
  mk "" .select [
    columnOf "expressions" "c" "name",
    mk "from" .from [tableAs "this" "orders" "o"],
    mk "joins" .join [
      tableAs "this" "stores" "s",
      mk "on" (.other "EQ") [columnOf "this" "o" "store_id", columnOf "expression" "s" "id"]],
    mk "joins" .join [
      tableAs "this" "customers" "c",
      mk "on" (.other "And") [
        mk "this" (.other "EQ") [columnOf "this" "o" "customer_id", columnOf "expression" "c" "id"],
        mk "expression" (.other "EQ") [
          columnOf "this" "s" "region", columnOf "expression" "c" "region"]]]]

def ordersToStores : RelationshipMetadata :=
  ⟨"store", "orders", "stores", ["store_id"], ["id"]⟩

def salesGraph : RelationshipGraph :=
  .new ["customers", "orders", "stores"] [ordersToCustomers, ordersToStores]

/-- One text passes in one process, and is rejected in another. -/
theorem joins_order_dependent :
    joinValidator id salesGraph (.preferring "o") storeCustomers = [] ∧
      (∃ issue ∈ joinValidator id salesGraph (.preferring "s") storeCustomers,
        issue.severity = .error) ∧
      ¬ ∀ order order' : SetOrder,
        extractJoins order storeCustomers = extractJoins order' storeCustomers ∧
          ∀ repr graph, joinValidator repr graph order storeCustomers =
            joinValidator repr graph order' storeCustomers := by
  have hpass : joinValidator id salesGraph (.preferring "o") storeCustomers = [] := by decide
  have hfail : ∃ issue ∈ joinValidator id salesGraph (.preferring "s") storeCustomers,
      issue.severity = .error := by decide
  refine ⟨hpass, hfail, ?_⟩
  intro h
  obtain ⟨issue, hi, _⟩ := hfail
  rw [← (h (.preferring "o") (.preferring "s")).2 id salesGraph, hpass] at hi
  cases hi

end QueryMind.Sql
