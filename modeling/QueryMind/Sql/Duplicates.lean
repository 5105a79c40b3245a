import QueryMind.Sql.Joins
import QueryMind.Sql.Places

namespace QueryMind.Sql
open Lib Metadata
set_option autoImplicit true

/-- How an item of a FROM list has its name: a table by its alias, or by its own name. -/
inductive Form
  | aliased
  | plain
  | other
  deriving DecidableEq, Repr

/-- A name that an item introduces, with the path to the query in whose FROM list it stands. -/
structure Introduction where
  scope : Option (List Nat)
  form : Form
  name : String
  deriving DecidableEq, Repr

namespace Introduction

def isTable (i : Introduction) : Bool := i.form ≠ .other

def key (i : Introduction) : Form × String := (i.form, i.name)

end Introduction

/-- What a query calls a table: a table function without an alias is called nothing. -/
def tableKey (t : Node) : Form × String :=
  if t.aliasName = "" then (.plain, t.name) else (.aliased, t.aliasName)

def introducesTable (scope : Option (List Nat)) (t : Node) : Introduction where
  scope := if (tableKey t).2 = "" then none else scope
  form := (tableKey t).1
  name := (tableKey t).2

def introducesOther (scope : Option (List Nat)) (n : Node) : Introduction where
  scope := if n.aliasName = "" then none else scope
  form := .other
  name := n.aliasName

def bracketsItem (n : Node) : Bool :=
  (n.arg "this").any fun t => t.cls = .table || t.cls = .subquery

mutual
/-- What a tree introduces that stands in no FROM list itself. -/
def introductions (path : List Nat) : Node → List Introduction
  | .node l cs =>
    (if l.cls = .table then [introducesTable none (.node l cs)] else []) ++
      introducedArgs false path path 0 cs

/-- What an item of the FROM list of the query at a path introduces. -/
def introducedItem (list path : List Nat) : Node → List Introduction
  | .node l cs =>
    match l.cls with
    | .table => introducesTable (some list) (.node l cs) :: introducedArgs false list path 0 cs
    | .subquery =>
      if isBracket (.node l cs) then introducedArgs true list path 0 cs
      else
        -- an alias hides the names of the tables in the brackets
        introducesOther (some list) (.node l cs) ::
          introducedArgs (bracketsItem (.node l cs)) path path 0 cs
    | _ => introducesOther (some list) (.node l cs) :: introducedArgs false path path 0 cs

def introducedClause (list path : List Nat) : Node → List Introduction
  | .node _ cs => introducedArgs true list path 0 cs

/-- Those of the arguments of a node, whose FROM and JOIN clauses fill a list. -/
def introducedArgs (items : Bool) (list path : List Nat) (i : Nat) : List Node → List Introduction
  | [] => []
  | c :: cs =>
    (if c.cls = .from ∨ c.cls = .join then introducedClause list (path ++ [i]) c
      else if items = true ∧ c.key = "this" then introducedItem list (path ++ [i]) c
      else introductions (path ++ [i]) c) ++
      introducedArgs items list path (i + 1) cs
end

def OneScope (a b : Introduction) : Prop := a.scope = b.scope ∧ a.scope ≠ none

/-- Two tables that both have their alias for a name, or both their own name. -/
def SameForm (a b : Introduction) : Prop := a.form = b.form ∧ a.form ≠ .other

def PairNamed (ast : Node) (n : String) (a b : Introduction) : Prop :=
  [a, b].Sublist (introductions [] ast) ∧ a.name = n ∧ b.name = n

/-- One FROM list introduces a name twice. -/
def IntroducedTwice (ast : Node) (n : String) : Prop := ∃ a b, PairNamed ast n a b ∧ OneScope a b

/-- Two tables in different FROM lists have a name that no FROM list introduces twice. -/
structure Apart (ast : Node) (n : String) : Prop where
  tables : ∃ a b, PairNamed ast n a b ∧ SameForm a b ∧ ¬ OneScope a b
  once : ∀ a b, PairNamed ast n a b → ¬ OneScope a b

/-- One FROM list introduces a name in two forms, and the query has no two tables of one form
under it. -/
structure Mixed (ast : Node) (n : String) : Prop where
  items : ∃ a b, PairNamed ast n a b ∧ OneScope a b ∧ ¬ SameForm a b
  forms : ∀ a b, PairNamed ast n a b → ¬ SameForm a b

section Reports
variable (repr : String → String) (registry : MetadataRegistry) (ast : Node)

def isDuplicateCode (code : String) : Bool :=
  code = "duplicate_table_alias" || code = "ambiguous_table_reference"

/-- The table validator reports that a name stands for more than one table. -/
def TableReports (n : String) : Prop :=
  ∃ issue ∈ tableValidator repr registry ast,
    isDuplicateCode issue.code = true ∧ issue.relatedObject = some n

def TableReportsAlias (n : String) : Prop :=
  ∃ issue ∈ tableValidator repr registry ast,
    issue.code = "duplicate_table_alias" ∧ issue.relatedObject = some n

/-- The alias validator reports that a table alias is declared more than once. -/
def AliasReports (n : String) : Prop :=
  ∃ issue ∈ checkDuplicateTableAliases repr ast, issue.relatedObject = some n

end Reports

/-- The tables among some introductions, as the query calls them. -/
def tableKeys (l : List Introduction) : List (Form × String) :=
  (l.filter Introduction.isTable).map Introduction.key

def calledTables (t : Node) : List (Form × String) := (t.findAll isTable).map tableKey

theorem tableKeys_append (l l' : List Introduction) :
    tableKeys (l ++ l') = tableKeys l ++ tableKeys l' := by
  rw [tableKeys, List.filter_append, List.map_append]
  rfl

theorem tableKeys_table (scope : Option (List Nat)) (t : Node) (l : List Introduction) :
    tableKeys (introducesTable scope t :: l) = tableKey t :: tableKeys l := by
  have hform : (introducesTable scope t).isTable = true := by
    rw [Introduction.isTable, introducesTable, tableKey]
    split
    · rfl
    · rfl
  rw [tableKeys, List.filter_cons_of_pos hform, List.map_cons]
  rfl

theorem tableKeys_other (scope : Option (List Nat)) (n : Node) (l : List Introduction) :
    tableKeys (introducesOther scope n :: l) = tableKeys l := rfl

theorem calledTables_node (l : Label) (cs : List Node) :
    (calledTables (.node l cs)).Perm
      ((if l.cls = .table then [tableKey (.node l cs)] else []) ++ cs.flatMap calledTables) := by
  have hperm := ((OrderedTree.walk_perm l cs).filter fun m : Node => isTable m.cls).map tableKey
  apply hperm.trans
  rw [List.filter_cons, List.filter_flatMap]
  have hrest : (cs.flatMap fun c => c.walk.filter fun m : Node => isTable m.cls).map tableKey =
      cs.flatMap calledTables := by
    rw [List.map_flatMap]
    rfl
  by_cases h : l.cls = .table
  · have hp : isTable (Node.cls (.node l cs)) = true := decide_eq_true h
    rw [if_pos h, if_pos hp, List.map_cons, hrest]
    exact .refl _
  · have hp : ¬ isTable (Node.cls (.node l cs)) = true := fun hp => h (of_decide_eq_true hp)
    rw [if_neg h, if_neg hp, hrest]
    exact .refl _

mutual
/-- Every table of a tree introduces what the tree calls it, once. -/
theorem introductions_perm : ∀ (path : List Nat) (t : Node),
    (tableKeys (introductions path t)).Perm (calledTables t)
  | path, .node l cs => by
    rw [introductions, tableKeys_append]
    apply List.Perm.trans _ (calledTables_node l cs).symm
    apply List.Perm.append _ (introducedArgs_perm false path path 0 cs)
    split
    · rw [tableKeys_table]
      exact .refl _
    · exact .refl _

theorem introducedItem_perm : ∀ (list path : List Nat) (t : Node),
    (tableKeys (introducedItem list path t)).Perm (calledTables t)
  | list, path, .node l cs => by
    apply List.Perm.trans _ (calledTables_node l cs).symm
    rw [introducedItem]
    split
    · rename_i hc
      rw [tableKeys_table, if_pos hc]
      exact (introducedArgs_perm false list path 0 cs).cons _
    · rename_i hc
      have hno : ¬ l.cls = .table := fun h => by cases hc.symm.trans h
      rw [if_neg hno]
      split
      · exact introducedArgs_perm true list path 0 cs
      · rw [tableKeys_other]
        exact introducedArgs_perm _ path path 0 cs
    · rename_i hc _
      rw [tableKeys_other, if_neg hc]
      exact introducedArgs_perm false path path 0 cs

theorem introducedClause_perm : ∀ (list path : List Nat) (t : Node), t.cls ≠ .table →
    (tableKeys (introducedClause list path t)).Perm (calledTables t)
  | list, path, .node l cs, h => by
    apply List.Perm.trans _ (calledTables_node l cs).symm
    have hno : ¬ l.cls = .table := h
    rw [introducedClause, if_neg hno]
    exact introducedArgs_perm true list path 0 cs

theorem introducedArgs_perm : ∀ (items : Bool) (list path : List Nat) (i : Nat) (cs : List Node),
    (tableKeys (introducedArgs items list path i cs)).Perm (cs.flatMap calledTables)
  | _, _, _, _, [] => .refl _
  | items, list, path, i, c :: cs => by
    rw [introducedArgs, tableKeys_append, List.flatMap_cons]
    apply List.Perm.append _ (introducedArgs_perm items list path (i + 1) cs)
    split
    · rename_i hc
      apply introducedClause_perm
      rcases hc with hc | hc
      · rw [hc]
        exact NodeClass.noConfusion
      · rw [hc]
        exact NodeClass.noConfusion
    · split
      · exact introducedItem_perm list _ c
      · exact introductions_perm _ c
end

theorem two_le_count_map [BEq β] [LawfulBEq β] {f : α → β} {l : List α} {x : β} :
    2 ≤ (l.map f).count x ↔ ∃ a b, [a, b].Sublist l ∧ f a = x ∧ f b = x := by
  rw [← List.replicate_sublist_iff, List.sublist_map_iff]
  constructor
  · intro h
    obtain ⟨l', hs, he⟩ := h
    obtain ⟨a, l₁, rfl, ha, he₁⟩ := List.map_eq_cons_iff.1 he.symm
    obtain ⟨b, l₂, rfl, hb, he₂⟩ := List.map_eq_cons_iff.1 he₁
    rw [List.map_eq_nil_iff.1 he₂] at hs
    exact ⟨a, b, hs, ha, hb⟩
  · intro h
    obtain ⟨a, b, hs, ha, hb⟩ := h
    exact ⟨[a, b], hs, by rw [List.map_cons, List.map_cons, ha, hb]; rfl⟩

theorem two_le_calledTables (ast : Node) (n : String) :
    (∃ f, 2 ≤ (calledTables ast).count (f, n)) ↔
      ∃ a b, PairNamed ast n a b ∧ SameForm a b := by
  have hcount : ∀ f, 2 ≤ (calledTables ast).count (f, n) ↔
      ∃ a b, [a, b].Sublist ((introductions [] ast).filter Introduction.isTable) ∧
        a.key = (f, n) ∧ b.key = (f, n) := by
    intro f
    rw [← (introductions_perm [] ast).count_eq, tableKeys]
    exact two_le_count_map
  constructor
  · intro h
    obtain ⟨f, hf⟩ := h
    obtain ⟨a, b, hs, ha, hb⟩ := (hcount f).1 hf
    have hform : a.form ≠ .other :=
      of_decide_eq_true (List.mem_filter.1 (hs.subset List.mem_cons_self)).2
    rw [Introduction.key, Prod.mk.injEq] at ha hb
    exact ⟨a, b, ⟨hs.trans List.filter_sublist, ha.2, hb.2⟩, ha.1.trans hb.1.symm, hform⟩
  · intro h
    obtain ⟨a, b, ⟨hs, ha, hb⟩, he, hform⟩ := h
    have hf := hs.filter Introduction.isTable
    have hta : a.isTable = true := decide_eq_true hform
    have htb : b.isTable = true := decide_eq_true (he ▸ hform)
    rw [List.filter_cons_of_pos hta, List.filter_cons_of_pos htb, List.filter_nil] at hf
    refine ⟨a.form, (hcount a.form).2 ⟨a, b, hf, ?_, ?_⟩⟩
    · rw [Introduction.key, ha]
    · rw [Introduction.key, he, hb]

section Reported
variable {repr : String → String} {ast : Node}

theorem mem_reports {f : String → ValidationIssue} (hf : ∀ a, (f a).relatedObject = some a)
    (names : List String) :
    (∃ issue ∈ names.eraseDups.flatMap (fun a => if names.count a > 1 then [f a] else []),
        issue.relatedObject = some n) ↔ 2 ≤ names.count n := by
  constructor
  · intro h
    obtain ⟨issue, hi, hn⟩ := h
    obtain ⟨a, _, ha⟩ := List.mem_flatMap.1 hi
    split at ha
    · rename_i hc
      rw [List.mem_singleton.1 ha, hf, Option.some.injEq] at hn
      rw [← hn]
      exact hc
    · cases ha
  · intro h
    refine ⟨f n, List.mem_flatMap.2 ⟨n, ?_, ?_⟩, hf n⟩
    · rw [List.mem_eraseDups]
      exact List.count_pos_iff.1 (Nat.lt_of_lt_of_le Nat.zero_lt_two h)
    · have hc : names.count n > 1 := h
      rw [if_pos hc]
      exact List.mem_singleton_self _

theorem count_aliases (n : String) :
    ((extractTables ast).filterMap TableReference.alias?).count n =
      (calledTables ast).count (.aliased, n) := by
  rw [calledTables, extractTables, List.filterMap_map, List.count_filterMap, List.count_eq_countP,
    List.countP_map]
  apply List.countP_congr
  intro t _
  simp only [Function.comp_apply, tableKey, orNone]
  by_cases h : t.aliasName = ""
  · simp [h]
  · simp [h]

theorem count_plainNames (n : String) :
    (((extractTables ast).filter fun r => r.alias?.isNone).map TableReference.name).count n =
      (calledTables ast).count (.plain, n) := by
  rw [calledTables, extractTables, List.filter_map, List.map_map, List.count_eq_countP,
    List.countP_map, List.countP_filter, List.count_eq_countP, List.countP_map]
  apply List.countP_congr
  intro t _
  simp only [Function.comp_apply, tableKey, orNone]
  by_cases h : t.aliasName = ""
  · simp [h]
  · simp [h]

theorem aliasReports_iff (n : String) :
    AliasReports repr ast n ↔ 2 ≤ (calledTables ast).count (.aliased, n) := by
  rw [AliasReports, checkDuplicateTableAliases, declaredTwice, ← count_aliases]
  exact mem_reports (fun _ => rfl) _

theorem duplicateAliasIssues_iff (repr : String → String) (n : String) :
    (∃ issue ∈ duplicateAliasIssues repr (extractTables ast), issue.relatedObject = some n) ↔
      2 ≤ (calledTables ast).count (.aliased, n) := by
  rw [duplicateAliasIssues, ← count_aliases]
  exact mem_reports (fun _ => rfl) _

theorem ambiguousReferenceIssues_iff (repr : String → String) (n : String) :
    (∃ issue ∈ ambiguousReferenceIssues repr (extractTables ast), issue.relatedObject = some n) ↔
      2 ≤ (calledTables ast).count (.plain, n) := by
  rw [ambiguousReferenceIssues, ← count_plainNames]
  exact mem_reports (fun _ => rfl) _

theorem duplicateAliasIssues_code (h : issue ∈ duplicateAliasIssues repr refs) :
    issue.code = "duplicate_table_alias" := by
  obtain ⟨a, _, ha⟩ := List.mem_flatMap.1 h
  split at ha
  · rw [List.mem_singleton.1 ha]
    rfl
  · cases ha

theorem ambiguousReferenceIssues_code (h : issue ∈ ambiguousReferenceIssues repr refs) :
    issue.code = "ambiguous_table_reference" := by
  obtain ⟨a, _, ha⟩ := List.mem_flatMap.1 h
  split at ha
  · rw [List.mem_singleton.1 ha]
    rfl
  · cases ha

theorem tableValidator_cases (h : issue ∈ tableValidator repr registry ast) :
    issue.code = "unknown_table" ∨ issue ∈ duplicateAliasIssues repr (extractTables ast) ∨
      issue ∈ ambiguousReferenceIssues repr (extractTables ast) := by
  rw [tableValidator, List.mem_append, List.mem_append] at h
  rcases h with (h | h) | h
  · left
    obtain ⟨ref, _, hr⟩ := List.mem_flatMap.1 h
    split at hr
    · rw [List.mem_singleton.1 hr]
      rfl
    · cases hr
  · exact .inr (.inl h)
  · exact .inr (.inr h)

theorem tableReportsAlias_iff (n : String) :
    TableReportsAlias repr registry ast n ↔ 2 ≤ (calledTables ast).count (.aliased, n) := by
  rw [← duplicateAliasIssues_iff repr]
  constructor
  · intro h
    obtain ⟨issue, hi, hc, hn⟩ := h
    rcases tableValidator_cases hi with hcode | hi | hi
    · exact absurd (hc.symm.trans hcode) (by decide)
    · exact ⟨issue, hi, hn⟩
    · exact absurd (hc.symm.trans (ambiguousReferenceIssues_code hi)) (by decide)
  · intro h
    obtain ⟨issue, hi, hn⟩ := h
    exact ⟨issue, List.mem_append_left _ (List.mem_append_right _ hi),
      duplicateAliasIssues_code hi, hn⟩

theorem tableReports_iff (n : String) :
    TableReports repr registry ast n ↔ ∃ a b, PairNamed ast n a b ∧ SameForm a b := by
  rw [← two_le_calledTables]
  constructor
  · intro h
    obtain ⟨issue, hi, hc, hn⟩ := h
    rcases tableValidator_cases hi with hcode | hi | hi
    · rw [hcode] at hc
      exact absurd hc (by decide)
    · exact ⟨.aliased, (duplicateAliasIssues_iff repr n).1 ⟨issue, hi, hn⟩⟩
    · exact ⟨.plain, (ambiguousReferenceIssues_iff repr n).1 ⟨issue, hi, hn⟩⟩
  · intro h
    obtain ⟨f, hf⟩ := h
    cases f with
    | aliased =>
      obtain ⟨issue, hi, hn⟩ := (duplicateAliasIssues_iff repr n).2 hf
      refine ⟨issue, List.mem_append_left _ (List.mem_append_right _ hi), ?_, hn⟩
      rw [duplicateAliasIssues_code hi]
      rfl
    | plain =>
      obtain ⟨issue, hi, hn⟩ := (ambiguousReferenceIssues_iff repr n).2 hf
      refine ⟨issue, List.mem_append_right _ hi, ?_, hn⟩
      rw [ambiguousReferenceIssues_code hi]
      rfl
    | other =>
      have hm := List.count_pos_iff.1 (Nat.lt_of_lt_of_le Nat.zero_lt_two hf)
      obtain ⟨t, _, ht⟩ := List.mem_map.1 hm
      rw [tableKey] at ht
      split at ht
      · cases ht
      · cases ht

end Reported

/-- The validators report the names that one FROM list introduces twice, just when no name is
apart in several lists, and none is mixed in one. -/
theorem names_per_scope_iff (repr : String → String) (registry : MetadataRegistry) (ast : Node) :
    (∀ n, (TableReports repr registry ast n ↔ IntroducedTwice ast n) ∧
        (AliasReports repr ast n ↔ TableReportsAlias repr registry ast n)) ↔
      ∀ n, ¬ Apart ast n ∧ ¬ Mixed ast n := by
  constructor
  · intro h n
    obtain ⟨hn, _⟩ := h n
    rw [tableReports_iff] at hn
    constructor
    · intro hapart
      obtain ⟨a, b, hp, hf, _⟩ := hapart.tables
      obtain ⟨c, d, hp, hs⟩ := hn.1 ⟨a, b, hp, hf⟩
      exact hapart.once c d hp hs
    · intro hmixed
      obtain ⟨a, b, hp, hs, _⟩ := hmixed.items
      obtain ⟨c, d, hp, hf⟩ := hn.2 ⟨a, b, hp, hs⟩
      exact hmixed.forms c d hp hf
  · intro h n
    obtain ⟨hapart, hmixed⟩ := h n
    refine ⟨?_, (aliasReports_iff n).trans (tableReportsAlias_iff n).symm⟩
    rw [tableReports_iff]
    constructor
    · intro hrep
      obtain ⟨a, b, hp, hf⟩ := hrep
      by_contra hno
      have honce : ∀ a b, PairNamed ast n a b → ¬ OneScope a b :=
        fun a b hp hs => hno ⟨a, b, hp, hs⟩
      exact hapart ⟨⟨a, b, hp, hf, honce a b hp⟩, honce⟩
    · intro htwice
      obtain ⟨a, b, hp, hs⟩ := htwice
      by_contra hno
      have hforms : ∀ a b, PairNamed ast n a b → ¬ SameForm a b :=
        fun a b hp hf => hno ⟨a, b, hp, hf⟩
      exact hmixed ⟨⟨a, b, hp, hs, hforms a b hp⟩, hforms⟩

/-- `SELECT c.name FROM customers AS c WHERE c.id IN (SELECT c.customer_id FROM orders AS c)`. -/
def nestedAlias : Node :=
  mk "" .select [
    columnOf "expressions" "c" "name",
    mk "from" .from [tableAs "this" "customers" "c"],
    mk "where" .where [
      mk "this" (.other "In") [
        columnOf "this" "c" "id",
        mk "query" .subquery [
          mk "this" .select [
            columnOf "expressions" "c" "customer_id",
            mk "from" .from [tableAs "this" "orders" "c"]]]]]]

theorem nestedAlias_introductions : introductions [] nestedAlias =
    [⟨some [], .aliased, "c"⟩, ⟨some [2, 0, 1, 0], .aliased, "c"⟩] := by
  decide +kernel

/-- An alias that a subquery uses again is reported by both validators. -/
theorem nested_alias_reported :
    TableReports id customersRegistry nestedAlias "c" ∧ AliasReports id nestedAlias "c" ∧
      ¬ ∀ n, (TableReports id customersRegistry nestedAlias n ↔ IntroducedTwice nestedAlias n) ∧
        (AliasReports id nestedAlias n ↔ TableReportsAlias id customersRegistry nestedAlias n) := by
  have htable : TableReports id customersRegistry nestedAlias "c" := by
    rw [TableReports]
    decide
  refine ⟨htable, by rw [AliasReports]; decide, ?_⟩
  intro h
  obtain ⟨a, b, ⟨hs, _⟩, hscope, _⟩ := (h "c").1.1 htable
  rw [nestedAlias_introductions] at hs
  cases List.Sublist.eq_of_length hs rfl
  exact absurd hscope (by decide)

end QueryMind.Sql
