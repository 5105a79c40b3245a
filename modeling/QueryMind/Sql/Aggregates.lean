import QueryMind.Sql.Joins

namespace QueryMind.Sql
open Lib
set_option autoImplicit true

section Validator
variable (aggFunc : String → Bool) (repr : String → String) (sql normalized : Node → String)

/-- `aggFunc` knows the classes of sqlglot below `AggFunc` by their names. -/
def isAggFunc : NodeClass → Bool
  | .func name => aggFunc name
  | _ => false

def unaliased (item : Node) : Node :=
  if item.cls = .alias then (item.arg "this").getD item else item

def groupTexts (select : Node) : List String :=
  match select.arg "group" with
  | none => []
  | some group => (group.argList "expressions").map normalized

def missingGroupBy (unaliased : Node) : ValidationIssue :=
  errorIssue "missing_group_by" (repr (sql unaliased) ++
    " must appear in GROUP BY or be wrapped in an aggregate function.") (sql unaliased)

def itemIssues (select item : Node) : List ValidationIssue :=
  if ((unaliased item).find (isAggFunc aggFunc)).isSome then []
  else if (unaliased item).cls = .literal then []
  else if normalized (unaliased item) ∉ groupTexts normalized select then
    [missingGroupBy repr sql (unaliased item)]
  else []

def unconcerned (select : Node) : Bool :=
  (select.arg "group").isNone && (select.find (isAggFunc aggFunc)).isNone

def checkGroupBy (select : Node) : List ValidationIssue :=
  if unconcerned aggFunc select then []
  else (select.argList "expressions").flatMap (itemIssues aggFunc repr sql normalized select)

def checkHaving (select : Node) : List ValidationIssue :=
  match select.arg "having" with
  | none => []
  | some _ =>
    if unconcerned aggFunc select then
      [{ code := "having_without_aggregation"
         severity := .warning
         message := "HAVING is used without GROUP BY or any aggregate function."
         relatedObject := none }]
    else []

/-- The aggregates in the order of the walk, each with whether it has an aggregate above it. -/
def nestedAggregates (select : Node) : List Node :=
  (((select.under (fun l => isAggFunc aggFunc l.cls) false).walk.map OrderedTree.label).filter
    fun x : Bool × Node => isAggFunc aggFunc x.2.cls && x.1).map Prod.snd

def checkNestedAggregates (select : Node) : List ValidationIssue :=
  (nestedAggregates aggFunc select).map fun aggregate =>
    errorIssue "nested_aggregate" (repr (sql aggregate) ++
      " is nested inside another aggregate function, which is not valid SQL.") (sql aggregate)

def aggregateValidator (ast : Node) : List ValidationIssue :=
  if ast.cls = .select then
    checkGroupBy aggFunc repr sql normalized ast ++ checkHaving aggFunc ast ++
      checkNestedAggregates aggFunc repr sql ast
  else []

def groupIssues (select item : Node) : List ValidationIssue :=
  if unconcerned aggFunc select then []
  else itemIssues aggFunc repr sql normalized select item

end Validator

/-- What may stand between a window and its function, or between a call and its clauses. -/
def isWrapper (c : NodeClass) : Bool :=
  c.name ∈ ["Filter", "WithinGroup", "IgnoreNulls", "RespectNulls"]

mutual
/-- The tree of an expression's nodes, each with whether it is the function of a window. -/
def marked (windowed : Bool) : Node → OrderedTree (Bool × Node)
  | .node l cs =>
    .node (windowed, .node l cs)
      (markedList (l.cls = .window || (windowed && isWrapper l.cls)) cs)

def markedList (inWindow : Bool) : List Node → List (OrderedTree (Bool × Node))
  | [] => []
  | c :: cs => marked (inWindow && c.key = "this") c :: markedList inWindow cs
end

def isItemList (c : NodeClass) : Bool :=
  c.name ∈ ["Tuple", "Paren", "Rollup", "Cube", "GroupingSets"]

mutual
def groupLeaves : Node → List Node
  | .node l cs => if isItemList l.cls then groupLeavesList cs else [.node l cs]

def groupLeavesList : List Node → List Node
  | [] => []
  | c :: cs => groupLeaves c ++ groupLeavesList cs
end

/-- The output expressions that an unqualified name is the alias of. -/
def namedOutputs (select item : Node) : List Node :=
  if item.cls = .column ∧ item.text "table" = "" then
    ((select.argList "expressions").filter fun o =>
      o.cls = .alias && o.aliasName = item.name).map unaliased
  else []

def positionedOutput (select item : Node) : List Node :=
  if item.cls = .literal ∧ item.attr "is_string" = some "False" then
    match Text.natLiteral? (item.text "this").toList with
    | some (n + 1) => ((select.argList "expressions")[n]?).toList.map unaliased
    | _ => []
  else []

/-- What a query is grouped by: its grouping items, and the output expressions that they stand
for. -/
def groupKeys (select : Node) : List Node :=
  match select.arg "group" with
  | none => []
  | some group =>
    let items := group.children.flatMap groupLeaves
    group.argList "expressions" ++ items ++
      items.flatMap fun item => namedOutputs select item ++ positionedOutput select item

section Rule
variable (aggFunc : String → Bool)

mutual
def aggregateCall : Node → Bool
  | .node l cs => isAggFunc aggFunc l.cls || (isWrapper l.cls && aggregateCallThis cs)

def aggregateCallThis : List Node → Bool
  | [] => false
  | c :: cs => (c.key = "this" && aggregateCall c) || aggregateCallThis cs
end

mutual
/-- Some column stands outside the plain aggregates, the nested queries and the grouped parts. -/
def loose (grouped : Node → Bool) : OrderedTree (Bool × Node) → Bool
  | .node (windowed, n) cs =>
    if grouped n || isQuery n.cls || n.cls = .literal || (aggregateCall aggFunc n && !windowed) then
      false
    else n.cls = .column || n.cls = .star || looseAny grouped cs

def looseAny (grouped : Node → Bool) : List (OrderedTree (Bool × Node)) → Bool
  | [] => false
  | t :: ts => loose grouped t || looseAny grouped ts
end

mutual
def aggregates : OrderedTree (Bool × Node) → Bool
  | .node (windowed, n) cs =>
    if isQuery n.cls then false
    else (isAggFunc aggFunc n.cls && !windowed) || aggregatesAny cs

def aggregatesAny : List (OrderedTree (Bool × Node)) → Bool
  | [] => false
  | t :: ts => aggregates t || aggregatesAny ts
end

mutual
/-- A plain aggregate has another one of its scope in its arguments. -/
def nests : OrderedTree (Bool × Node) → Bool
  | .node (windowed, n) cs =>
    (isAggFunc aggFunc n.cls && !windowed && aggregatesAny aggFunc cs) || nestsAny cs

def nestsAny : List (OrderedTree (Bool × Node)) → Bool
  | [] => false
  | t :: ts => nests t || nestsAny ts
end

def groupsOrAggregates (select : Node) : Bool :=
  (select.arg "group").isSome || aggregatesAny aggFunc (markedList false select.children)

/-- An output expression of a grouped query with a column that is not grouped. -/
def Ungrouped (same : Node → Node → Bool) (select item : Node) : Prop :=
  groupsOrAggregates aggFunc select = true ∧
    loose aggFunc (fun e => (groupKeys select).any (same e)) (marked false (unaliased item)) = true

end Rule

section Rule
variable {aggFunc : String → Bool}

mutual
theorem aggregates_below : ∀ (windowed : Bool) (t : Node),
    aggregates aggFunc (marked windowed t) = true →
      ∃ m : Node, OrderedTree.Below m t ∧ isAggFunc aggFunc m.cls = true
  | windowed, .node l cs, h => by
    rw [marked, aggregates] at h
    split at h
    · cases h
    rcases Bool.or_eq_true_iff.1 h with h | h
    · exact ⟨_, .refl, (Bool.and_eq_true_iff.1 h).1⟩
    · obtain ⟨c, hc, m, hm, ha⟩ := aggregatesAny_below _ cs h
      exact ⟨m, .child hc hm, ha⟩

theorem aggregatesAny_below : ∀ (inWindow : Bool) (ts : List Node),
    aggregatesAny aggFunc (markedList inWindow ts) = true →
      ∃ t ∈ ts, ∃ m : Node, OrderedTree.Below m t ∧ isAggFunc aggFunc m.cls = true
  | inWindow, [], h => by cases h
  | inWindow, t :: ts, h => by
    rw [markedList, aggregatesAny] at h
    rcases Bool.or_eq_true_iff.1 h with h | h
    · exact ⟨t, .head _, aggregates_below _ t h⟩
    · obtain ⟨t', ht', hm⟩ := aggregatesAny_below inWindow ts h
      exact ⟨t', .tail _ ht', hm⟩
end

/-- An aggregate beneath an aggregate. -/
def Stacked (aggFunc : String → Bool) (u t : Node) : Prop :=
  OrderedTree.Beneath (fun l => isAggFunc aggFunc l.cls) u t ∧ isAggFunc aggFunc u.cls = true

mutual
theorem nests_stacked : ∀ (windowed : Bool) (t : Node),
    nests aggFunc (marked windowed t) = true → ∃ u, Stacked aggFunc u t
  | windowed, .node l cs, h => by
    rw [marked, nests] at h
    rcases Bool.or_eq_true_iff.1 h with h | h
    · rw [Bool.and_eq_true_iff, Bool.and_eq_true_iff] at h
      obtain ⟨⟨hl, _⟩, hcs⟩ := h
      obtain ⟨c, hc, m, hm, ha⟩ := aggregatesAny_below _ cs hcs
      exact ⟨m, OrderedTree.beneath_node.2 (.inl ⟨hl, c, hc, hm⟩), ha⟩
    · obtain ⟨c, hc, u, hu, ha⟩ := nestsAny_stacked _ cs h
      exact ⟨u, OrderedTree.beneath_node.2 (.inr ⟨c, hc, hu⟩), ha⟩

theorem nestsAny_stacked : ∀ (inWindow : Bool) (ts : List Node),
    nestsAny aggFunc (markedList inWindow ts) = true → ∃ t ∈ ts, ∃ u, Stacked aggFunc u t
  | inWindow, [], h => by cases h
  | inWindow, t :: ts, h => by
    rw [markedList, nestsAny] at h
    rcases Bool.or_eq_true_iff.1 h with h | h
    · exact ⟨t, .head _, nests_stacked _ t h⟩
    · obtain ⟨t', ht', hu⟩ := nestsAny_stacked inWindow ts h
      exact ⟨t', .tail _ ht', hu⟩
end

theorem mem_nestedAggregates {select u : Node} :
    u ∈ nestedAggregates aggFunc select ↔ Stacked aggFunc u select := by
  have hu : (true, u) ∈
      (select.under (fun l => isAggFunc aggFunc l.cls) false).walk.map OrderedTree.label ↔
      OrderedTree.Beneath (fun l => isAggFunc aggFunc l.cls) u select := by
    rw [OrderedTree.mem_under]
    exact or_iff_right (fun h => Bool.false_ne_true h.1)
  rw [nestedAggregates, List.mem_map, Stacked, ← hu]
  constructor
  · rintro ⟨⟨above, v⟩, hm, rfl⟩
    obtain ⟨hm, hb⟩ := List.mem_filter.1 hm
    obtain ⟨ha, habove⟩ := Bool.and_eq_true_iff.1 hb
    cases habove
    exact ⟨hm, ha⟩
  · rintro ⟨hm, ha⟩
    exact ⟨(true, u), List.mem_filter.2 ⟨hm, Bool.and_eq_true_iff.2 ⟨ha, rfl⟩⟩, rfl⟩

theorem unconcerned_of_groups {select : Node} (h : groupsOrAggregates aggFunc select = true) :
    unconcerned aggFunc select = false := by
  rw [unconcerned, Bool.and_eq_false_iff]
  rcases Bool.or_eq_true_iff.1 h with h | h
  · left
    rw [Option.isNone_eq_false_iff]
    exact h
  · right
    obtain ⟨t, ht, m, hm, ha⟩ := aggregatesAny_below false _ h
    rw [Option.isNone_eq_false_iff, Option.isSome_iff_ne_none]
    intro hn
    cases select with
    | node l cs =>
      rw [Node.find_none.1 hn m (.child ht hm)] at ha
      cases ha

theorem loose_node {grouped : Node → Bool} {t : Node}
    (h : loose aggFunc grouped (marked windowed t) = true) :
    grouped t = false ∧ t.cls ≠ .literal := by
  cases t with
  | node l cs =>
    rw [marked, loose] at h
    split at h
    · cases h
    · rename_i hn
      simp only [Bool.or_eq_true, not_or, Bool.not_eq_true, decide_eq_true_eq] at hn
      exact ⟨hn.1.1.1, hn.1.2⟩

end Rule

section Match
variable (aggFunc : String → Bool) (repr : String → String) (sql normalized : Node → String)
  (same : Node → Node → Bool) (select : Node)

/-- The reports about a query are those of the grouping rule. -/
structure Matches : Prop where
  outputs : ∀ item ∈ select.argList "expressions",
    groupIssues aggFunc repr sql normalized select item ≠ [] ↔ Ungrouped aggFunc same select item
  nested : checkNestedAggregates aggFunc repr sql select ≠ [] ↔
    nests aggFunc (marked false select) = true

/-- An output expression that the validator takes for another kind: `a + SUM(b)`, in which an
aggregate hides the column; `a` beside the `SUM(b) OVER ()` of a query that groups nothing;
`lower(a)` or `now()` under `GROUP BY a`, which leave no column ungrouped. -/
inductive Misread (item : Node) : Prop
  | mixed (hu : Ungrouped aggFunc same select item)
      (ha : (unaliased item).find (isAggFunc aggFunc) ≠ none)
  | ungrouping (hc : unconcerned aggFunc select = false)
      (hg : groupsOrAggregates aggFunc select = false)
      (ha : (unaliased item).find (isAggFunc aggFunc) = none) (hl : (unaliased item).cls ≠ .literal)
  | respelled (hg : groupsOrAggregates aggFunc select = true)
      (hn : ¬ Ungrouped aggFunc same select item)
      (ha : (unaliased item).find (isAggFunc aggFunc) = none) (hl : (unaliased item).cls ≠ .literal)
      (ht : normalized (unaliased item) ∉ groupTexts normalized select)

/-- No output expression is misread, and aggregates are stacked only in queries that nest plain
ones. -/
structure Plain : Prop where
  outputs : ∀ item ∈ select.argList "expressions", ¬ Misread aggFunc normalized same select item
  stacked : ∀ u, Stacked aggFunc u select → nests aggFunc (marked false select) = true

theorem groupIssues_ne_nil (item : Node) :
    groupIssues aggFunc repr sql normalized select item ≠ [] ↔
      unconcerned aggFunc select = false ∧ (unaliased item).find (isAggFunc aggFunc) = none ∧
        (unaliased item).cls ≠ .literal ∧
        normalized (unaliased item) ∉ groupTexts normalized select := by
  rw [groupIssues, itemIssues]
  split
  · rename_i h
    simp only [ne_eq, not_true_eq_false, h, false_and, Bool.true_eq_false]
  rename_i hc
  split
  · rename_i h
    obtain ⟨a, ha⟩ := Option.isSome_iff_exists.1 h
    simp only [ne_eq, not_true_eq_false, ha, reduceCtorEq, false_and, and_false]
  rename_i hf
  split
  · rename_i h
    simp only [ne_eq, not_true_eq_false, h, false_and, and_false]
  rename_i hl
  split
  · rename_i h
    apply iff_of_true (List.cons_ne_nil _ _)
    exact ⟨eq_false_of_ne_true hc, Option.not_isSome_iff_eq_none.1 hf, hl, h⟩
  · rename_i h
    apply iff_of_false (fun he => he rfl)
    exact fun he => h he.2.2.2

theorem checkNestedAggregates_ne_nil :
    checkNestedAggregates aggFunc repr sql select ≠ [] ↔ ∃ u, Stacked aggFunc u select := by
  rw [checkNestedAggregates, ne_eq, List.map_eq_nil_iff, List.eq_nil_iff_forall_not_mem,
    not_forall_not]
  exact exists_congr (fun u => mem_nestedAggregates)

end Match

theorem grouped_of_text {normalized : Node → String} {same : Node → Node → Bool} {select e : Node}
    (hsame : ∀ a b, normalized a = normalized b → same a b = true)
    (h : normalized e ∈ groupTexts normalized select) :
    (groupKeys select).any (same e) = true := by
  rw [groupTexts] at h
  rw [groupKeys]
  cases hg : select.arg "group" with
  | none =>
    rw [hg] at h
    cases h
  | some group =>
    rw [hg] at h
    obtain ⟨g, hm, he⟩ := List.mem_map.1 h
    apply List.any_eq_true.2
    refine ⟨g, ?_, hsame e g he.symm⟩
    exact List.mem_append_left _ (List.mem_append_left _ hm)

theorem groupTexts_nil {normalized : Node → String} {select : Node}
    (h : groupsOrAggregates aggFunc select = false) : groupTexts normalized select = [] := by
  rw [groupsOrAggregates, Bool.or_eq_false_iff, Option.isSome_eq_false_iff,
    Option.isNone_iff_eq_none] at h
  rw [groupTexts, h.1]

/-- The validator follows the grouping rule exactly on the queries that are plain. -/
theorem aggregates_match_iff (aggFunc : String → Bool) (repr : String → String)
    (sql normalized : Node → String) (same : Node → Node → Bool) (select : Node)
    (hsame : ∀ a b, normalized a = normalized b → same a b = true) :
    Matches aggFunc repr sql normalized same select ↔ Plain aggFunc normalized same select := by
  constructor
  · intro h
    constructor
    · intro item hi hmis
      cases hmis with
      | mixed hu ha =>
        exact ha ((groupIssues_ne_nil ..).1 ((h.outputs item hi).2 hu)).2.1
      | ungrouping hc hg ha hl =>
        have ht : normalized (unaliased item) ∉ groupTexts normalized select := by
          rw [groupTexts_nil hg]
          exact List.not_mem_nil
        have hu := (h.outputs item hi).1 ((groupIssues_ne_nil ..).2 ⟨hc, ha, hl, ht⟩)
        rw [hu.1] at hg
        cases hg
      | respelled hg hn ha hl ht =>
        exact hn ((h.outputs item hi).1
          ((groupIssues_ne_nil ..).2 ⟨unconcerned_of_groups hg, ha, hl, ht⟩))
    · intro u hu
      exact h.nested.1 ((checkNestedAggregates_ne_nil ..).2 ⟨u, hu⟩)
  · intro h
    constructor
    · intro item hi
      rw [groupIssues_ne_nil]
      constructor
      · intro ⟨hc, ha, hl, ht⟩
        by_contra hn
        cases hg : groupsOrAggregates aggFunc select with
        | false => exact h.outputs item hi (.ungrouping hc hg ha hl)
        | true => exact h.outputs item hi (.respelled hg hn ha hl ht)
      · intro hu
        obtain ⟨hn, hl⟩ := loose_node hu.2
        have ha : (unaliased item).find (isAggFunc aggFunc) = none := by
          by_contra hne
          exact h.outputs item hi (.mixed hu hne)
        refine ⟨unconcerned_of_groups hu.1, ha, hl, ?_⟩
        intro ht
        rw [grouped_of_text hsame ht] at hn
        cases hn
    · rw [checkNestedAggregates_ne_nil]
      constructor
      · intro ⟨u, hu⟩
        exact h.stacked u hu
      · exact nests_stacked false select

mutual
def plainSql : Node → String
  | .node l cs =>
    match l.cls with
    | .column => Node.name (.node l cs)
    | .func name => Text.upper name ++ "(" ++ plainSqlList cs ++ ")"
    | _ => plainSqlList cs

def plainSqlList : List Node → String
  | [] => ""
  | [c] => plainSql c
  | c :: cs => plainSql c ++ " + " ++ plainSqlList cs
end

def isSum (name : String) : Bool := name = "Sum"

def column (key name : String) : Node := mk key .column [ident "this" name]

/-- `SELECT a, SUM(b) FROM t GROUP BY a`. -/
def groupedSum : Node :=
  mk "" .select [
    column "expressions" "a",
    mk "expressions" (.func "Sum") [column "this" "b"],
    mk "from" .from [mk "this" .table [ident "this" "t"]],
    mk "group" .group [column "expressions" "a"]]

theorem aggregates_match_groupedSum :
    Matches isSum id plainSql plainSql (fun a b => plainSql a = plainSql b) groupedSum ↔
      Plain isSum plainSql (fun a b => plainSql a = plainSql b) groupedSum :=
  aggregates_match_iff _ _ _ _ _ _ (fun _ _ h => decide_eq_true h)

/-- `SELECT a + SUM(b) FROM t`. -/
def mixedSum : Node :=
  mk "" .select [
    mk "expressions" (.other "Add") [
      column "this" "a",
      mk "expression" (.func "Sum") [column "this" "b"]],
    mk "from" .from [mk "this" .table [ident "this" "t"]]]

/-- A column beside an aggregate in one expression is not reported. -/
theorem mixed_sum_unreported :
    mixedSum.cls = .select ∧ aggregateValidator isSum id plainSql plainSql mixedSum = [] ∧
      ¬ Matches isSum id plainSql plainSql (fun a b => plainSql a = plainSql b) mixedSum := by
  refine ⟨rfl, by decide, ?_⟩
  intro h
  have hu := (h.outputs _ (List.mem_singleton_self _)).2 ⟨by decide, by decide⟩
  exact hu (by decide)

end QueryMind.Sql
