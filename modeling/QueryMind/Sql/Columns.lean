import QueryMind.Sql.Declarations
import Mathlib.Data.List.Perm.Basic

namespace QueryMind.Sql
open Lib Metadata
set_option autoImplicit true

def Source.provides (s : Source) (n : String) : Bool := n ∈ s.columns || n = "*"

namespace Context

def root : Context := ⟨[], [], []⟩

def source (x : Context) (q : String) : Option Source :=
  x.frames.findSome? fun frame => frame.find? fun s => s.name = q

/-- The items with a column, in the innermost FROM list that has one. -/
def providers (x : Context) (n : String) : List Source :=
  ((x.frames.map fun frame => frame.filter fun s => n ∈ s.columns).find? (· ≠ [])).getD []

/-- The items that an unqualified name may mean: a column that USING merges counts once. -/
def meanings (x : Context) (n : String) : List Source :=
  (x.providers n).filter fun s => n ∉ s.merged

/-- A name that is an output name here, or a column of a CTE or a derived table. -/
def exempts (x : Context) (n : String) : Bool :=
  n ∈ x.outputs || (x.providers n).any fun s => s.kind ≠ .base

def resolves (x : Context) : Option String → String → Bool
  | some q, n => (x.source q).any fun s => s.provides n
  | none, n => x.exempts n || (x.meanings n).length = 1

end Context

/-- The qualifier of a reference, as the database reads it. -/
def Place.qualifier (p : Place) : Option String :=
  (orNone (p.column.text "table")).map fun _ => argName p.column "table"

def Place.name (p : Place) : String := argName p.column "this"

def Place.resolves (p : Place) : Bool := p.context.resolves p.qualifier p.name

def tablesInScope (ast : Node) : List String :=
  (((buildAliasMap ast).map Prod.snd).filter fun t => t ∉ localScopeNames ast).eraseDups

section Report
variable (repr : String → String) (registry : MetadataRegistry) (ast : Node)

/-- What the column validator reports about one reference. -/
def columnReport (c : Node) : List ValidationIssue :=
  columnIssues repr registry (localScopeNames ast) (buildAliasMap ast) (tablesInScope ast)
    (outputAliases ast) ⟨c.name, orNone (c.text "table"), c⟩

def Reported (c : Node) : Prop :=
  ∃ issue ∈ columnReport repr registry ast c, issue.severity = .error

/-- A table that the query declares last, in whatever scope, and that has the column. -/
def Owner (column table : String) : Prop :=
  (∃ name, LastDeclared ast name table) ∧ table ∉ localScopeNames ast ∧
    column ∈ registryColumns registry table

/-- A reference that is judged by what the query declares in other scopes. -/
inductive Misresolved (p : Place) : Prop
  /-- Its qualifier is declared in other scopes only, last for a name of the query's own or for a
  table with the column. -/
  | strayed (hq : orNone (p.column.text "table") = some q)
      (hs : p.context.source (argName p.column "table") = none)
      (hd : LastDeclared ast q t)
      (ht : t ∈ localScopeNames ast ∨ p.column.name ∈ registryColumns registry t)
  /-- It names no column of its source, but its qualifier is declared last for a CTE or a derived
  table, of which the columns are not looked at, or for a table with the column. -/
  | borrowed (hq : orNone (p.column.text "table") = some q)
      (hs : p.context.source (argName p.column "table") = some s)
      (hn : s.provides p.name = false)
      (hd : LastDeclared ast q t)
      (ht : t ∈ localScopeNames ast ∨ p.column.name ∈ registryColumns registry t)
  /-- It names a column of its source, but its qualifier is declared last for a table without it. -/
  | hidden (hq : orNone (p.column.text "table") = some q)
      (hs : p.context.source (argName p.column "table") = some s)
      (hn : s.provides p.name = true)
      (hd : LastDeclared ast q t)
      (hl : t ∉ localScopeNames ast) (ht : p.column.name ∉ registryColumns registry t)
  /-- It names a column of its source, but no alias of the query is spelled as its qualifier. -/
  | respelled (hq : orNone (p.column.text "table") = some q)
      (hs : p.context.source (argName p.column "table") = some s)
      (hn : s.provides p.name = true)
      (hd : ∀ t, ¬ LastDeclared ast q t)
  /-- It is an output alias of the root, and here no output name, and no column or an ambiguous
  one. -/
  | exempted (hq : orNone (p.column.text "table") = none)
      (ho : p.column.name ∈ outputAliases ast)
      (hx : p.context.exempts p.name = false)
      (hm : (p.context.meanings p.name).length ≠ 1)
  /-- It is a column of a visible CTE or derived table, or an output name of a nested query, and
  none or several of the tables of the whole query have it. -/
  | unknown (hq : orNone (p.column.text "table") = none)
      (ho : p.column.name ∉ outputAliases ast)
      (hx : p.context.exempts p.name = true)
      (hn : ¬ ∃! t, Owner registry ast p.column.name t)
  /-- One visible table has it, and none or several of the tables of the whole query. -/
  | crowded (hq : orNone (p.column.text "table") = none)
      (ho : p.column.name ∉ outputAliases ast)
      (hm : (p.context.meanings p.name).length = 1)
      (hn : ¬ ∃! t, Owner registry ast p.column.name t)
  /-- No visible source has it, or several have, and one of the tables of the whole query. -/
  | lone (hq : orNone (p.column.text "table") = none)
      (ho : p.column.name ∉ outputAliases ast)
      (hx : p.context.exempts p.name = false)
      (hm : (p.context.meanings p.name).length ≠ 1)
      (hn : ∃! t, Owner registry ast p.column.name t)

/-- What the validator collects in the whole query is not what an item of a FROM clause is. -/
inductive Confused (s : Source) : Prop
  /-- Another scope declares its name for something else. -/
  | reused (hd : (s.name, t) ∈ declarations ast) (ht : t ≠ s.table)
  /-- A CTE or a derived table has the name of the table. -/
  | homonym (hk : s.kind = .base) (hl : s.table ∈ localScopeNames ast)
  | renamed (hk : s.kind = .base) (hr : s.renames ≠ [])
  | lateral (hk : s.kind = .lateral)
  | respelled (hr : ¬ AsRead ast)

/-- A reference for which the names of the whole query do not stand for what is visible. -/
inductive Crossed (p : Place) : Prop
  /-- Another scope declares its qualifier, and none that it sees. -/
  | strayed (hq : orNone (p.column.text "table") = some q)
      (hs : p.context.source (argName p.column "table") = none)
      (hd : (q, t) ∈ declarations ast)
  | confused (hq : orNone (p.column.text "table") = some q)
      (hs : p.context.source (argName p.column "table") = some s) (hc : Confused ast s)
  | star (hq : orNone (p.column.text "table") = some q) (hn : p.name = "*")
  /-- A column that a CTE or a derived table has not. -/
  | unchecked (hq : orNone (p.column.text "table") = some q)
      (hs : p.context.source (argName p.column "table") = some s) (hk : s.kind ≠ .base)
      (hn : s.provides p.name = false)
  /-- An output alias of the root, in another clause or in another query. -/
  | exempted (hq : orNone (p.column.text "table") = none)
      (ho : p.column.name ∈ outputAliases ast) (hx : p.name ∉ p.context.outputs)
  /-- A column of a CTE or a derived table, or an output alias of a nested query. -/
  | unknown (hq : orNone (p.column.text "table") = none)
      (ho : p.column.name ∉ outputAliases ast) (hx : p.context.exempts p.name = true)
  | meaning (hq : orNone (p.column.text "table") = none) (hs : s ∈ p.context.meanings p.name)
      (hc : Confused ast s)
  /-- A table of another scope, or one that USING merges, has the column. -/
  | foreign (hq : orNone (p.column.text "table") = none)
      (ht : Owner registry ast p.column.name t)
      (hs : ∀ s ∈ p.context.meanings p.name, s.table ≠ t)
  /-- A table stands twice in the FROM list. -/
  | twice (hq : orNone (p.column.text "table") = none)
      (hd : ¬ ((p.context.meanings p.name).map Source.table).Nodup)

end Report

section Report
variable {repr : String → String} {ast c : Node}

theorem mem_columnValidator (x : Context) : issue ∈ columnValidator repr registry ast ↔
    ∃ p ∈ places registry x ast, issue ∈ columnReport repr registry ast p.column := by
  have hcolumns : ∀ c, (∃ p ∈ places registry x ast, p.column = c) ↔
      OrderedTree.Below c ast ∧ isColumn c.cls = true := by
    intro c
    rw [← List.mem_map, mem_places, ColumnIn, isColumn, decide_eq_true_eq]
  rw [columnValidator, List.mem_flatMap]
  constructor
  · intro h
    obtain ⟨ref, href, hi⟩ := h
    obtain ⟨c, hc, rfl⟩ := List.mem_map.1 href
    obtain ⟨p, hp, rfl⟩ := (hcolumns c).2 (Node.mem_findAll.1 hc)
    exact ⟨p, hp, hi⟩
  · intro h
    obtain ⟨p, hp, hi⟩ := h
    have hc := (hcolumns p.column).1 ⟨p, hp, rfl⟩
    exact ⟨_, List.mem_map.2 ⟨p.column, Node.mem_findAll.2 hc, rfl⟩, hi⟩

theorem reported_iff : Reported repr registry ast c ↔ columnReport repr registry ast c ≠ [] := by
  constructor
  · intro ⟨issue, hi, _⟩ h
    rw [h] at hi
    cases hi
  · intro h
    obtain ⟨issue, hi⟩ := List.exists_mem_of_ne_nil _ h
    refine ⟨issue, hi, ?_⟩
    rw [columnReport, columnIssues] at hi
    repeat' split at hi
    all_goals simp only [List.not_mem_nil, List.mem_singleton] at hi
    all_goals rw [hi]; rfl

theorem lastDeclared_unique (h : LastDeclared ast q t) (h' : LastDeclared ast q t') : t = t' :=
  Option.some.inj ((lastDeclared_iff.1 h).symm.trans (lastDeclared_iff.1 h'))

theorem columnExists_iff :
    columnExists registry t n = true ↔ n ∈ registryColumns registry t := by
  rw [columnExists, registryColumns]
  cases registry.getTable t with
  | none => exact iff_of_false Bool.false_ne_true List.not_mem_nil
  | some table =>
    simp only [List.any_eq_true, List.mem_map, decide_eq_true_eq]

theorem reported_qualified (hq : orNone (c.text "table") = some q) :
    Reported repr registry ast c ↔ ∀ t, LastDeclared ast q t →
      ¬ (t ∈ localScopeNames ast ∨ c.name ∈ registryColumns registry t) := by
  simp only [reported_iff, columnReport, columnIssues, hq, lastDeclared_iff]
  cases hd : (buildAliasMap ast).lookup q with
  | none => exact iff_of_true (List.cons_ne_nil _ _) fun t ht => by cases ht
  | some t =>
    simp only [← columnExists_iff]
    split
    · rename_i h
      exact iff_of_false (fun hn => hn rfl) fun hn => hn t rfl (.inl h)
    · rename_i h
      split
      · rename_i he
        exact iff_of_false (fun hn => hn rfl) fun hn => hn t rfl (.inr he)
      · rename_i he
        apply iff_of_true (List.cons_ne_nil _ _)
        rintro t' ht
        cases ht
        exact not_or.2 ⟨h, he⟩

theorem nodup_eraseDups : ∀ l : List String, l.eraseDups.Nodup
  | [] => by
    rw [List.eraseDups_nil]
    exact List.nodup_nil
  | a :: l => by
    rw [List.eraseDups_cons, List.nodup_cons]
    refine ⟨?_, nodup_eraseDups _⟩
    rw [List.mem_eraseDups, List.mem_filter]
    intro h
    simp only [beq_self_eq_true, Bool.not_true, Bool.false_eq_true, and_false] at h
termination_by l => l.length
decreasing_by exact Nat.lt_succ_of_le (List.length_filter_le _ _)

theorem length_eq_one_iff_unique {l : List String} (h : l.Nodup) :
    l.length = 1 ↔ ∃! t, t ∈ l := by
  constructor
  · intro h1
    obtain ⟨t, rfl⟩ := List.length_eq_one_iff.1 h1
    exact ⟨t, List.mem_singleton.2 rfl, fun _ => List.mem_singleton.1⟩
  · rintro ⟨t, ht, hu⟩
    rw [List.length_eq_one_iff]
    exact ⟨t, List.perm_singleton.1 ((List.perm_ext_iff_of_nodup h (List.pairwise_singleton _ t)).2
      fun t' => ⟨fun ht' => List.mem_singleton.2 (hu t' ht'),
        fun ht' => List.mem_singleton.1 ht' ▸ ht⟩)⟩

theorem owners_length_iff (registry : MetadataRegistry) (ast : Node) (n : String) :
    ((tablesInScope ast).filter fun t => columnExists registry t n).length = 1 ↔
      ∃! t, Owner registry ast n t := by
  have hnodup : ((tablesInScope ast).filter fun t => columnExists registry t n).Nodup :=
    (nodup_eraseDups _).filter _
  rw [length_eq_one_iff_unique hnodup]
  apply existsUnique_congr
  intro t
  rw [List.mem_filter, tablesInScope, List.mem_eraseDups, List.mem_filter, mem_buildAliasMap,
    decide_eq_true_eq, columnExists_iff, and_assoc]
  rfl

theorem reported_unqualified (hq : orNone (c.text "table") = none) :
    Reported repr registry ast c ↔
      c.name ∉ outputAliases ast ∧ ¬ ∃! t, Owner registry ast c.name t := by
  rw [reported_iff, columnReport, columnIssues, hq, ← owners_length_iff]
  by_cases ho : c.name ∈ outputAliases ast
  · apply iff_of_false
    · simp only [ho, if_true, ne_eq, not_true_eq_false, not_false_eq_true]
    · intro h
      exact h.1 ho
  rw [and_iff_right ho]
  simp only [ho, if_false]
  match (tablesInScope ast).filter fun t => columnExists registry t c.name with
  | [] => exact iff_of_true (List.cons_ne_nil _ _) Nat.zero_ne_one
  | [t] => exact iff_of_false (fun hn => hn rfl) (fun hn => hn rfl)
  | t :: t' :: ts => exact iff_of_true (List.cons_ne_nil _ _) (Nat.succ_succ_ne_one _)

theorem resolves_qualified {p : Place} (hq : orNone (p.column.text "table") = some q) :
    p.resolves = (p.context.source (argName p.column "table")).any fun s => s.provides p.name := by
  rw [Place.resolves, Place.qualifier, hq]
  rfl

theorem resolves_unqualified {p : Place} (hq : orNone (p.column.text "table") = none) :
    p.resolves = false ↔
      p.context.exempts p.name = false ∧ (p.context.meanings p.name).length ≠ 1 := by
  rw [Place.resolves, Place.qualifier, hq]
  exact Bool.or_eq_false_iff.trans (and_congr_right' decide_eq_false_iff_not)

end Report

section Exact
variable {repr : String → String} {ast : Node} {p : Place}

theorem Misresolved.disagrees (h : Misresolved registry ast p) :
    ¬ (Reported repr registry ast p.column ↔ p.resolves = false) := by
  cases h with
  | strayed hq hs hd ht =>
    rw [reported_qualified hq, resolves_qualified hq, hs]
    exact fun h => h.2 rfl _ hd ht
  | borrowed hq hs hn hd ht =>
    rw [reported_qualified hq, resolves_qualified hq, hs]
    exact fun h => h.2 hn _ hd ht
  | hidden hq hs hn hd hl ht =>
    rw [reported_qualified hq, resolves_qualified hq, hs]
    intro h
    refine Bool.false_ne_true ((h.1 fun t' ht' => ?_).symm.trans hn)
    rw [← lastDeclared_unique hd ht']
    exact not_or.2 ⟨hl, ht⟩
  | respelled hq hs hn hd =>
    rw [reported_qualified hq, resolves_qualified hq, hs]
    intro h
    cases hn.symm.trans (h.1 fun t ht => absurd ht (hd t))
  | exempted hq ho hx hm =>
    rw [reported_unqualified hq, resolves_unqualified hq]
    exact fun h => (h.2 ⟨hx, hm⟩).1 ho
  | unknown hq ho hx hn =>
    rw [reported_unqualified hq, resolves_unqualified hq]
    intro h
    cases hx.symm.trans (h.1 ⟨ho, hn⟩).1
  | crowded hq ho hm hn =>
    rw [reported_unqualified hq, resolves_unqualified hq]
    exact fun h => (h.1 ⟨ho, hn⟩).2 hm
  | lone hq ho hx hm hn =>
    rw [reported_unqualified hq, resolves_unqualified hq]
    exact fun h => (h.2 ⟨hx, hm⟩).2 hn

theorem misresolved_of_disagrees
    (h : ¬ (Reported repr registry ast p.column ↔ p.resolves = false)) :
    Misresolved registry ast p := by
  by_contra hno
  apply h
  cases hq : orNone (p.column.text "table") with
  | some q =>
    rw [reported_qualified hq, resolves_qualified hq]
    cases hs : p.context.source (argName p.column "table") with
    | none => exact iff_of_true (fun t hd ht => hno (.strayed hq hs hd ht)) rfl
    | some s =>
      rw [Option.any_some]
      cases hn : s.provides p.name with
      | false => exact iff_of_true (fun t hd ht => hno (.borrowed hq hs hn hd ht)) rfl
      | true =>
        apply iff_of_false _ Bool.true_eq_false.mp
        intro hrep
        apply hno
        apply Misresolved.respelled hq hs hn
        intro t hd
        have ht := not_or.1 (hrep t hd)
        exact hno (.hidden hq hs hn hd ht.1 ht.2)
  | none =>
    rw [reported_unqualified hq, resolves_unqualified hq]
    constructor
    · rintro ⟨ho, hn⟩
      constructor
      · rw [← Bool.not_eq_true]
        exact fun hx => hno (.unknown hq ho hx hn)
      · exact fun hm => hno (.crowded hq ho hm hn)
    · rintro ⟨hx, hm⟩
      have ho : p.column.name ∉ outputAliases ast := fun ho => hno (.exempted hq ho hx hm)
      exact ⟨ho, fun hn => hno (.lone hq ho hx hm hn)⟩

end Exact

section Visible
variable {ast : Node}

theorem mem_of_source {x : Context} (h : x.source q = some s) :
    (∃ frame ∈ x.frames, s ∈ frame) ∧ s.name = q := by
  obtain ⟨frame, hf, hs⟩ := List.exists_of_findSome?_eq_some h
  have hname := List.find?_some hs
  exact ⟨⟨frame, hf, List.mem_of_find?_eq_some hs⟩, of_decide_eq_true hname⟩

theorem mem_of_meaning {x : Context} (h : s ∈ x.meanings n) :
    (∃ frame ∈ x.frames, s ∈ frame) ∧ n ∈ s.columns ∧ s ∈ x.providers n := by
  have hp := (List.mem_filter.1 h).1
  have hm := hp
  rw [Context.providers] at hm
  cases hf : (x.frames.map fun frame => frame.filter fun s => n ∈ s.columns).find? (· ≠ []) with
  | none =>
    rw [hf] at hm
    cases hm
  | some found =>
    rw [hf] at hm
    obtain ⟨frame, hframe, rfl⟩ := List.mem_map.1 (List.mem_of_find?_eq_some hf)
    obtain ⟨hs, hn⟩ := List.mem_filter.1 hm
    exact ⟨⟨frame, hframe, hs⟩, of_decide_eq_true hn, hp⟩

theorem asRead_of_not_confused (hc : ¬ Confused ast s) : AsRead ast := by
  by_contra hr
  exact hc (.respelled hr)

theorem lastDeclared_source {s : Source} (h : DeclaredIn registry ast s) (hc : ¬ Confused ast s)
    (hn : s.kind = .derived → s.name ≠ "") : LastDeclared ast s.name s.table := by
  rw [lastDeclared_iff]
  apply lookup_of_once
  · exact h.mem_declarations (asRead_of_not_confused hc) (fun hk => hc (.lateral hk)) hn
  · intro d hd hq
    by_contra ht
    exact hc (.reused (hq ▸ hd) ht)

theorem columns_base {s : Source} (h : DeclaredIn registry ast s) (hc : ¬ Confused ast s)
    (hk : s.kind = .base) : s.columns = registryColumns registry s.table := by
  apply h.columns_eq (asRead_of_not_confused hc) hk
  by_contra hne
  exact hc (.renamed hk hne)

theorem local_of_not_base {s : Source} (h : DeclaredIn registry ast s) (hc : ¬ Confused ast s)
    (hn : s.name ≠ "") (hk : s.kind ≠ .base) : s.table ∈ localScopeNames ast := by
  apply h.mem_localScopeNames (asRead_of_not_confused hc) _ (fun _ => hn)
  cases hs : s.kind with
  | base => exact absurd hs hk
  | cte => exact .inl rfl
  | derived => exact .inr rfl
  | lateral => exact absurd (.lateral hs) hc

theorem owner_unique_iff {p : Place} (hp : p.context.In registry ast)
    (hcol : ColumnIn p.column ast) (hq : orNone (p.column.text "table") = none)
    (hx : p.context.exempts p.name = false) (hc : ¬ Crossed registry ast p) :
    (∃! t, Owner registry ast p.column.name t) ↔ (p.context.meanings p.name).length = 1 := by
  have hconf : ∀ s ∈ p.context.meanings p.name, ¬ Confused ast s :=
    fun s hs hconf => hc (.meaning hq hs hconf)
  have hbase : ∀ s ∈ p.context.meanings p.name, s.kind = .base := by
    intro s hs
    by_contra hk
    have hex : p.context.exempts p.name = true := by
      rw [Context.exempts, Bool.or_eq_true, List.any_eq_true]
      exact .inr ⟨s, (mem_of_meaning hs).2.2, decide_eq_true hk⟩
    cases hx.symm.trans hex
  have hmem : ∀ t, Owner registry ast p.column.name t ↔
      t ∈ (p.context.meanings p.name).map Source.table := by
    intro t
    constructor
    · intro ht
      by_contra hno
      apply hc
      apply Crossed.foreign hq ht
      intro s hs hst
      exact hno (List.mem_map.2 ⟨s, hs, hst⟩)
    · intro ht
      obtain ⟨s, hs, rfl⟩ := List.mem_map.1 ht
      obtain ⟨⟨frame, hframe, hsf⟩, hcolumn, _⟩ := mem_of_meaning hs
      have hd := hp.frames frame hframe s hsf
      have hk := hbase s hs
      refine ⟨⟨s.name, ?_⟩, fun hl => hconf s hs (.homonym hk hl), ?_⟩
      · exact lastDeclared_source hd (hconf s hs) (fun hk' => by cases hk.symm.trans hk')
      · rw [← columns_base hd (hconf s hs) hk,
          ← ((asRead_of_not_confused (hconf s hs)).columns p.column hcol).1]
        exact hcolumn
  have hnodup : ((p.context.meanings p.name).map Source.table).Nodup := by
    by_contra hd
    exact hc (.twice hq hd)
  rw [existsUnique_congr hmem, ← length_eq_one_iff_unique hnodup, List.length_map]

theorem uncrossed_source {p : Place} (hp : p.context.In registry ast)
    (hcol : ColumnIn p.column ast) (hq : orNone (p.column.text "table") = some q)
    (hs : p.context.source (argName p.column "table") = some s) (hc : ¬ Crossed registry ast p) :
    LastDeclared ast q s.table ∧
      (s.kind = .base → (s.provides p.name = true ↔
        p.column.name ∈ registryColumns registry s.table)) ∧
      (s.kind ≠ .base → s.table ∈ localScopeNames ast) := by
  have hconf : ¬ Confused ast s := fun h => hc (.confused hq hs h)
  obtain ⟨hname, hqual⟩ := (asRead_of_not_confused hconf).columns p.column hcol
  obtain ⟨⟨frame, hframe, hsf⟩, hsq⟩ := mem_of_source hs
  have htext : q = p.column.text "table" ∧ q ≠ "" := by
    rw [orNone] at hq
    split at hq
    · cases hq
    · rename_i hempty
      cases hq
      exact ⟨rfl, hempty⟩
  have hsname : s.name = q := by rw [hsq, hqual, htext.1]
  have hd := hp.frames frame hframe s hsf
  have hne : s.name ≠ "" := hsname ▸ htext.2
  refine ⟨hsname ▸ lastDeclared_source hd hconf (fun _ => hne), ?_, local_of_not_base hd hconf hne⟩
  intro hk
  have hstar : p.name ≠ "*" := fun hstar => hc (.star hq hstar)
  rw [Source.provides, decide_eq_false hstar, Bool.or_false, decide_eq_true_eq,
    columns_base hd hconf hk, Place.name, hname]

theorem Misresolved.crossed {p : Place} (h : Misresolved registry ast p)
    (hp : p.context.In registry ast) (hcol : ColumnIn p.column ast) : Crossed registry ast p := by
  by_contra hc
  cases h with
  | strayed hq hs hd ht =>
    obtain ⟨earlier, later, he, _⟩ := hd
    apply hc
    apply Crossed.strayed hq hs
    rw [he]
    exact List.mem_append_right _ List.mem_cons_self
  | @borrowed q s t hq hs hn hd ht =>
    obtain ⟨hlast, hbase, -⟩ := uncrossed_source hp hcol hq hs hc
    cases lastDeclared_unique hd hlast
    have hk : s.kind = .base := by
      by_contra hk
      exact hc (.unchecked hq hs hk hn)
    rcases ht with hl | ht
    · exact hc (.confused hq hs (.homonym hk hl))
    · cases hn.symm.trans ((hbase hk).2 ht)
  | @hidden q s t hq hs hn hd hl ht =>
    obtain ⟨hlast, hbase, hlocal⟩ := uncrossed_source hp hcol hq hs hc
    cases lastDeclared_unique hd hlast
    by_cases hk : s.kind = .base
    · exact ht ((hbase hk).1 hn)
    · exact hl (hlocal hk)
  | respelled hq hs hn hd => exact hd _ (uncrossed_source hp hcol hq hs hc).1
  | exempted hq ho hx hm =>
    apply hc
    apply Crossed.exempted hq ho
    intro hout
    rw [Context.exempts, decide_eq_true hout, Bool.true_or] at hx
    cases hx
  | unknown hq ho hx hn => exact hc (.unknown hq ho hx)
  | crowded hq ho hm hn =>
    cases hx : p.context.exempts p.name with
    | true => exact hc (.unknown hq ho hx)
    | false => exact hn ((owner_unique_iff hp hcol hq hx hc).2 hm)
  | lone hq ho hx hm hn => exact hm ((owner_unique_iff hp hcol hq hx hc).1 hn)

end Visible

/-- The validator's issues are the reports on the references, and a reference is reported when it
resolves to no column or to several, and no other, just where it is not misresolved; only what is
crossed is. -/
theorem columns_resolve (repr : String → String) (registry : MetadataRegistry) (ast : Node) :
    (∀ issue, issue ∈ columnValidator repr registry ast ↔
      ∃ p ∈ places registry .root ast, issue ∈ columnReport repr registry ast p.column) ∧
    ∀ p ∈ places registry .root ast,
      ((Reported repr registry ast p.column ↔ p.resolves = false) ↔ ¬ Misresolved registry ast p) ∧
      (Misresolved registry ast p → Crossed registry ast p) := by
  refine ⟨fun issue => mem_columnValidator .root, ?_⟩
  intro p hp
  have hroot : Context.root.In registry ast := by
    constructor
    · intro e he
      cases he
    · intro frame hf
      cases hf
  have hin := places_in hroot .refl p hp
  have hcol := (mem_places registry).1 (List.mem_map.2 ⟨p, hp, rfl⟩)
  refine ⟨⟨fun hr hm => hm.disagrees hr, fun hno => ?_⟩, fun hm => hm.crossed hin hcol⟩
  by_contra hd
  exact hno (misresolved_of_disagrees hd)

instance {repr : String → String} : Decidable (Reported repr registry ast c) :=
  inferInstanceAs (Decidable (∃ issue ∈ _, _))

def ReadAsWritten (n : Node) : Prop :=
  (n.cls = .table → resolvedTable n = n.name) ∧
    (n.cls = .table ∨ n.cls = .subquery ∨ n.cls = .cte → cteName n = n.aliasName) ∧
    (n.cls = .column → argName n "this" = n.name ∧ argName n "table" = n.text "table")

instance : Decidable (ReadAsWritten n) := inferInstanceAs (Decidable (_ ∧ _ ∧ _))

theorem asRead_iff : (∀ n ∈ ast.walk, ReadAsWritten n) ↔ AsRead ast := by
  constructor
  · intro h
    refine ⟨fun n hb => (h n ?_).1, fun n hb => (h n ?_).2.1, fun n hn => (h n ?_).2.2 hn.2⟩
    · exact OrderedTree.mem_walk.2 hb
    · exact OrderedTree.mem_walk.2 hb
    · exact OrderedTree.mem_walk.2 hn.1
  · intro h n hn
    have hb := OrderedTree.mem_walk.1 hn
    exact ⟨h.tables n hb, h.aliases n hb, fun hc => h.columns n ⟨hb, hc⟩⟩

instance : Decidable (AsRead ast) := decidable_of_iff _ asRead_iff

theorem not_confused {ast : Node} (hr : AsRead ast)
    (hd : ∀ d ∈ declarations ast, d.1 = name → d.2 = table)
    (hl : table ∉ localScopeNames ast) (columns : List String) :
    ¬ Confused ast ⟨name, .base, table, [], columns, []⟩ := by
  intro hc
  cases hc with
  | reused hm ht => exact ht (hd _ hm rfl)
  | homonym _ hl' => exact hl hl'
  | renamed _ hn => exact hn rfl
  | lateral hk => cases hk
  | respelled hr' => exact hr' hr

def ordersAsO : Source := ⟨"o", .base, "orders", [], ["id", "customer_id"], []⟩

def customersAsC : Source := ⟨"c", .base, "customers", [], ["id", "name"], []⟩

def orderCustomer : Place :=
  ⟨mk "expressions" .column [ident "this" "customer_id"], ⟨[], [[ordersAsO]], []⟩⟩

/-- The reference of its inner query to the table of the outer one. -/
def outerCustomer : Place :=
  ⟨columnOf "expression" "c" "id", ⟨[("recent", ["customer_id"])],
    [[⟨"recent", .cte, "recent", [], ["customer_id"], []⟩], [customersAsC]], []⟩⟩

theorem orderCustomer_uncrossed : ¬ Crossed shopRegistry recentCustomers orderCustomer := by
  intro h
  cases h with
  | exempted _ ho _ => exact absurd ho (by decide)
  | unknown _ _ hx => exact absurd hx (by decide)
  | meaning _ hs hc =>
    cases List.mem_singleton.1 hs
    exact not_confused (by decide) (by decide) (by decide) _ hc
  | @foreign t _ ht hs =>
    obtain ⟨hd, -, hn⟩ := ht
    have hall : ∀ t ∈ (buildAliasMap recentCustomers).map Prod.snd,
        "customer_id" ∈ registryColumns shopRegistry t → t = "orders" := by decide
    have ht : t = "orders" := hall t (mem_buildAliasMap.2 hd) hn
    exact hs ordersAsO (List.mem_singleton.2 rfl) ht.symm
  | twice _ hd => exact hd (by decide)
  | strayed hq _ _ => cases hq
  | confused hq _ _ => cases hq
  | star hq _ => cases hq
  | unchecked hq _ _ _ => cases hq

theorem outerCustomer_uncrossed : ¬ Crossed shopRegistry recentCustomers outerCustomer := by
  intro h
  cases h with
  | strayed _ hs _ => cases hs
  | confused _ hs hc =>
    cases hs
    exact not_confused (by decide) (by decide) (by decide) _ hc
  | star _ hn => exact absurd hn (by decide)
  | unchecked _ hs hk _ =>
    cases hs
    exact hk rfl
  | exempted hq _ _ => cases hq
  | unknown hq _ _ => cases hq
  | meaning hq _ _ => cases hq
  | foreign hq _ _ => cases hq
  | twice hq _ => cases hq

theorem columns_resolve_recent :
    (Reported id shopRegistry recentCustomers orderCustomer.column ↔
      orderCustomer.resolves = false) ∧
    (Reported id shopRegistry recentCustomers outerCustomer.column ↔
      outerCustomer.resolves = false) := by
  have h₁ := (columns_resolve id shopRegistry recentCustomers).2 orderCustomer (.head _)
  have h₂ := (columns_resolve id shopRegistry recentCustomers).2 outerCustomer
    (.tail _ (.tail _ (.tail _ (.tail _ (.head _)))))
  exact ⟨h₁.1.2 fun hm => orderCustomer_uncrossed (h₁.2 hm),
    h₂.1.2 fun hm => outerCustomer_uncrossed (h₂.2 hm)⟩

/-- `SELECT c.name FROM customers AS c WHERE EXISTS (SELECT c.customer_id FROM orders AS c)`. -/
def reusedAlias : Node :=
  mk "" .select [
    columnOf "expressions" "c" "name",
    mk "from" .from [
      mk "this" .table [ident "this" "customers", mk "alias" .tableAlias [ident "this" "c"]]],
    mk "where" .where [
      mk "this" (.other "Exists") [
        mk "this" .select [
          columnOf "expressions" "c" "customer_id",
          mk "from" .from [
            mk "this" .table [
              ident "this" "orders",
              mk "alias" .tableAlias [ident "this" "c"]]]]]]]

/-- An alias that a subquery uses for another table is read as that table in the outer query. -/
theorem reused_alias_rejected :
    reusedAlias.cls = .select ∧
      ¬ ∀ p ∈ places shopRegistry .root reusedAlias,
        Reported id shopRegistry reusedAlias p.column ↔ p.resolves = false := by
  refine ⟨rfl, ?_⟩
  decide

end QueryMind.Sql
