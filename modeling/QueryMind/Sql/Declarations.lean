import QueryMind.Sql.Places

namespace QueryMind.Sql
open Lib Metadata
set_option autoImplicit true

/-- The names that a query declares, and what each one stands for. -/
def declarations (ast : Node) : List (String × String) :=
  (extractTables ast).map (fun ref => (ref.alias?.getD ref.name, ref.name)) ++
    (derivedTableAliases ast).map fun a => (a, a)

theorem lookup_setItem (m : List (String × String)) :
    (setItem k v m).lookup q = if q = k then some v else m.lookup q := by
  induction m with
  | nil =>
    rw [setItem, List.lookup_cons]
    by_cases h : q = k
    · rw [if_pos h, h, beq_self_eq_true]
    · rw [if_neg h, beq_eq_false_iff_ne.2 h]
  | cons entry m ih =>
    obtain ⟨k', v'⟩ := entry
    rw [setItem]
    by_cases hk : k' = k
    · rw [if_pos hk, List.lookup_cons, List.lookup_cons, hk]
      by_cases h : q = k
      · rw [if_pos h, h, beq_self_eq_true]
      · rw [if_neg h, beq_eq_false_iff_ne.2 h]
    · rw [if_neg hk, List.lookup_cons, List.lookup_cons, ih]
      by_cases h : q = k'
      · rw [h, beq_self_eq_true]
        exact (if_neg hk).symm
      · rw [beq_eq_false_iff_ne.2 h]

theorem lookup_foldl_setItem (ds m : List (String × String)) :
    (ds.foldl (fun m d => setItem d.1 d.2 m) m).lookup q =
      (ds.reverse.lookup q).or (m.lookup q) := by
  induction ds generalizing m with
  | nil => rfl
  | cons d ds ih =>
    rw [List.foldl_cons, ih, lookup_setItem, List.reverse_cons, List.lookup_append, Option.or_assoc]
    congr 1
    rw [List.lookup_cons]
    by_cases h : q = d.1
    · rw [if_pos h, h, beq_self_eq_true]
      rfl
    · rw [if_neg h, beq_eq_false_iff_ne.2 h]
      rfl

theorem buildAliasMap_eq (ast : Node) :
    buildAliasMap ast = (declarations ast).foldl (fun m d => setItem d.1 d.2 m) [] := by
  rw [declarations, List.foldl_append, List.foldl_map, List.foldl_map]
  rfl

theorem lookup_buildAliasMap (ast : Node) (q : String) :
    (buildAliasMap ast).lookup q = (declarations ast).reverse.lookup q := by
  rw [buildAliasMap_eq, lookup_foldl_setItem]
  exact Option.or_none

/-- What a query declares a name for the last time, in whatever scope. -/
def LastDeclared (ast : Node) (name table : String) : Prop :=
  ∃ earlier later, declarations ast = earlier ++ (name, table) :: later ∧
    ∀ d ∈ later, d.1 ≠ name

theorem lastDeclared_iff : LastDeclared ast q t ↔ (buildAliasMap ast).lookup q = some t := by
  rw [lookup_buildAliasMap, List.lookup_eq_some_iff]
  constructor
  · rintro ⟨earlier, later, he, hl⟩
    refine ⟨later.reverse, earlier.reverse, ?_, ?_⟩
    · rw [he, List.reverse_append, List.reverse_cons, List.append_assoc, List.singleton_append]
    · intro d hd
      rw [bne_iff_ne]
      exact (hl d (List.mem_reverse.1 hd)).symm
  · rintro ⟨l₁, l₂, he, hl⟩
    refine ⟨l₂.reverse, l₁.reverse, ?_, ?_⟩
    · rw [← List.reverse_reverse (declarations ast), he, List.reverse_append, List.reverse_cons,
        List.append_assoc, List.singleton_append]
    · intro d hd
      exact (bne_iff_ne.1 (hl d (List.mem_reverse.1 hd))).symm

theorem mem_keys_setItem {m : List (String × String)} :
    x ∈ (setItem k v m).map Prod.fst ↔ x = k ∨ x ∈ m.map Prod.fst := by
  induction m with
  | nil =>
    rw [setItem, List.map_singleton, List.mem_singleton]
    exact (or_iff_left List.not_mem_nil).symm
  | cons entry m ih =>
    obtain ⟨k', v'⟩ := entry
    rw [setItem]
    split
    · rename_i hk
      rw [List.map_cons, List.map_cons, List.mem_cons, List.mem_cons, hk]
      exact (or_iff_right_of_imp .inl).symm
    · rw [List.map_cons, List.map_cons, List.mem_cons, List.mem_cons, ih, or_left_comm]

theorem nodup_setItem {m : List (String × String)} (h : (m.map Prod.fst).Nodup) :
    ((setItem k v m).map Prod.fst).Nodup := by
  induction m with
  | nil => exact List.nodup_cons.2 ⟨List.not_mem_nil, List.nodup_nil⟩
  | cons entry m ih =>
    obtain ⟨k', v'⟩ := entry
    obtain ⟨hk', hm⟩ := List.nodup_cons.1 h
    rw [setItem]
    split
    · rename_i hk
      rw [List.map_cons, ← hk]
      exact h
    · rename_i hk
      rw [List.map_cons, List.nodup_cons, mem_keys_setItem, not_or]
      exact ⟨⟨hk, hk'⟩, ih hm⟩

theorem nodup_buildAliasMap (ast : Node) : ((buildAliasMap ast).map Prod.fst).Nodup := by
  rw [buildAliasMap_eq]
  have hfold : ∀ (ds m : List (String × String)), (m.map Prod.fst).Nodup →
      ((ds.foldl (fun m d => setItem d.1 d.2 m) m).map Prod.fst).Nodup := by
    intro ds
    induction ds with
    | nil => exact fun m h => h
    | cons d ds ih => exact fun m h => ih _ (nodup_setItem h)
  exact hfold _ _ List.nodup_nil

theorem mem_buildAliasMap :
    t ∈ (buildAliasMap ast).map Prod.snd ↔ ∃ q, LastDeclared ast q t := by
  have hnodup := nodup_buildAliasMap ast
  rw [List.mem_map]
  constructor
  · rintro ⟨⟨q, v⟩, hm, rfl⟩
    obtain ⟨l₁, l₂, he⟩ := List.append_of_mem hm
    refine ⟨q, lastDeclared_iff.2 (List.lookup_eq_some_iff.2 ⟨l₁, l₂, he, ?_⟩)⟩
    intro d hd
    rw [he, List.map_append, List.nodup_append] at hnodup
    rw [bne_iff_ne]
    exact (hnodup.2.2 _ (List.mem_map_of_mem hd) _ List.mem_cons_self).symm
  · rintro ⟨q, hl⟩
    obtain ⟨l₁, l₂, he, -⟩ := List.lookup_eq_some_iff.1 (lastDeclared_iff.1 hl)
    refine ⟨(q, t), ?_, rfl⟩
    rw [he]
    exact List.mem_append_right _ List.mem_cons_self

theorem lookup_of_once (hd : (q, v) ∈ declarations ast)
    (honce : ∀ d ∈ declarations ast, d.1 = q → d.2 = v) :
    (buildAliasMap ast).lookup q = some v := by
  rw [lookup_buildAliasMap]
  cases h : (declarations ast).reverse.lookup q with
  | none =>
    have hne := List.lookup_eq_none_iff.1 h (q, v) (List.mem_reverse.2 hd)
    exact absurd rfl (bne_iff_ne.1 hne)
  | some w =>
    obtain ⟨l₁, l₂, he, _⟩ := List.lookup_eq_some_iff.1 h
    have hm : (q, w) ∈ declarations ast := by
      rw [← List.mem_reverse, he]
      exact List.mem_append_right _ List.mem_cons_self
    exact congrArg some (honce (q, w) hm rfl)

/-- The database reads the names of a query the way they are written. -/
structure AsRead (ast : Node) : Prop where
  tables : ∀ t : Node, OrderedTree.Below t ast → t.cls = .table → resolvedTable t = t.name
  aliases : ∀ m : Node, OrderedTree.Below m ast →
    m.cls = .table ∨ m.cls = .subquery ∨ m.cls = .cte → cteName m = m.aliasName
  columns : ∀ c : Node, ColumnIn c ast →
    argName c "this" = c.name ∧ argName c "table" = c.text "table"

def CtesIn (ast : Node) (ctes : Ctes) : Prop :=
  ∀ e ∈ ctes, ∃ c : Node, OrderedTree.Below c ast ∧ c.cls = .cte ∧ e.1 = cteName c ∧ e.1 ≠ ""

/-- What a query declares a source with. -/
inductive DeclaredIn (registry : MetadataRegistry) (ast : Node) (s : Source) : Prop
  | table (t : Node) (ctes : Ctes) (hb : OrderedTree.Below t ast) (hc : t.cls = .table)
      (hx : CtesIn ast ctes)
      (hs : s = { tableSource registry ctes t with merged := s.merged })
  | derived (m : Node) (columns : List String) (hb : OrderedTree.Below m ast)
      (hc : m.cls = .subquery)
      (hs : s = { derivedSource .derived m columns with merged := s.merged })
  | lateral (hk : s.kind = .lateral)

section Declared
variable {registry : MetadataRegistry} {ast : Node}

theorem DeclaredIn.merge {s : Source} (h : DeclaredIn registry ast s) (names : List String) :
    DeclaredIn registry ast { s with merged := names } := by
  cases h with
  | table t ctes hb hc hx hs =>
    refine .table t ctes hb hc hx ?_
    rw [hs]
  | derived m columns hb hc hs =>
    refine .derived m columns hb hc ?_
    rw [hs]
  | lateral hk => exact .lateral hk

theorem CtesIn.declare {ctes : Ctes} (h : CtesIn ast ctes) (hb : OrderedTree.Below c ast) :
    CtesIn ast (ctes.declare c columns) := by
  intro e he
  rw [Ctes.declare] at he
  split at he
  · rename_i hc
    rcases List.mem_cons.1 he with rfl | he
    · exact ⟨c, hb, hc.1, rfl, hc.2⟩
    · exact h e he
  · exact h e he

theorem CtesIn.declareCtes {ctes : Ctes} {cs : List Node} (h : CtesIn ast ctes)
    (hb : ∀ c ∈ cs, OrderedTree.Below c ast) : CtesIn ast (declareCtes registry ctes cs) := by
  induction cs generalizing ctes with
  | nil =>
    rw [Sql.declareCtes]
    exact h
  | cons c cs ih =>
    rw [Sql.declareCtes]
    apply ih (h.declare (hb c List.mem_cons_self))
    intro c' hc'
    exact hb c' (List.mem_cons_of_mem _ hc')

theorem CtesIn.withCtes {ctes : Ctes} {cs : List Node} (h : CtesIn ast ctes)
    (hb : ∀ c ∈ cs, OrderedTree.Below c ast) : CtesIn ast (withCtes registry ctes cs) := by
  induction cs generalizing ctes with
  | nil =>
    rw [Sql.withCtes]
    exact h
  | cons c cs ih =>
    rw [Sql.withCtes]
    apply ih
    · split
      · cases c with
        | node l ds =>
          rw [clauseCtes]
          apply h.declareCtes
          intro d hd
          exact .of_mem hd (hb _ List.mem_cons_self)
      · exact h
    · intro c' hc'
      exact hb c' (List.mem_cons_of_mem _ hc')

def AllIn (registry : MetadataRegistry) (ast : Node) (sources : List Source) : Prop :=
  ∀ s ∈ sources, DeclaredIn registry ast s

theorem AllIn.append {xs ys : List Source} (hx : AllIn registry ast xs)
    (hy : AllIn registry ast ys) : AllIn registry ast (xs ++ ys) := by
  intro s hs
  rcases List.mem_append.1 hs with hs | hs
  · exact hx s hs
  · exact hy s hs

theorem AllIn.next {f : FromList} {items : List Source} (hbefore : AllIn registry ast f.before)
    (hjoined : AllIn registry ast f.joined) (hitems : AllIn registry ast items) (c : Node) :
    AllIn registry ast (f.next c items).before ∧ AllIn registry ast (f.next c items).joined := by
  rw [FromList.next]
  split
  · exact ⟨hbefore, hjoined.append hitems⟩
  · split
    · exact ⟨hbefore.append hjoined, hitems⟩
    · refine ⟨hbefore, hjoined.append ?_⟩
      intro s hs
      obtain ⟨s', hs', rfl⟩ := List.mem_map.1 hs
      exact (hitems s' hs').merge _
  · exact ⟨hbefore, hjoined⟩

mutual
theorem sourcesOf_declared : ∀ {ctes : Ctes} {t : Node}, CtesIn ast ctes →
    OrderedTree.Below t ast → AllIn registry ast (sourcesOf registry ctes t)
  | ctes, .node l cs, hx, hb => by
    have hcs : ∀ c ∈ cs, OrderedTree.Below c ast := by
      intro c hc
      exact .of_mem hc hb
    have hnil : AllIn registry ast [] := fun _ hs => by cases hs
    rw [sourcesOf]
    split
    · rename_i hc
      apply fromList_declared hx hcs hnil
      intro s hs
      rw [List.mem_singleton] at hs
      exact .table (.node l cs) ctes hb hc hx (by rw [hs])
    · rename_i hc
      split
      · exact fromList_declared hx hcs hnil (sourcesOfThis_declared hx hcs)
      · intro s hs
        rw [List.mem_singleton] at hs
        exact .derived (.node l cs) _ hb hc (by rw [hs])
    · intro s hs
      rw [List.mem_singleton] at hs
      exact .lateral (by rw [hs]; rfl)
    · intro s hs
      rw [List.mem_singleton] at hs
      exact .lateral (by rw [hs]; rfl)
    · exact hnil

theorem sourcesOfThis_declared : ∀ {ctes : Ctes} {cs : List Node}, CtesIn ast ctes →
    (∀ c ∈ cs, OrderedTree.Below c ast) → AllIn registry ast (sourcesOfThis registry ctes cs)
  | ctes, [], _, _ => by
    rw [sourcesOfThis]
    intro s hs
    cases hs
  | ctes, c :: cs, hx, hb => by
    rw [sourcesOfThis]
    apply AllIn.append
    · split
      · exact sourcesOf_declared hx (hb c List.mem_cons_self)
      · intro s hs
        cases hs
    · exact sourcesOfThis_declared hx (fun c' hc' => hb c' (List.mem_cons_of_mem _ hc'))

theorem itemsOf_declared : ∀ {ctes : Ctes} {t : Node}, CtesIn ast ctes →
    OrderedTree.Below t ast → AllIn registry ast (itemsOf registry ctes t)
  | ctes, .node l cs, hx, hb => by
    rw [itemsOf]
    exact sourcesOfThis_declared hx (fun c hc => .of_mem hc hb)

theorem fromList_declared : ∀ {ctes : Ctes} {cs : List Node} {f : FromList}, CtesIn ast ctes →
    (∀ c ∈ cs, OrderedTree.Below c ast) → AllIn registry ast f.before →
    AllIn registry ast f.joined → AllIn registry ast (fromList registry ctes f cs).sources
  | ctes, [], f, _, _, hbefore, hjoined => by
    rw [fromList]
    exact hbefore.append hjoined
  | ctes, c :: cs, f, hx, hb, hbefore, hjoined => by
    rw [fromList]
    have hitems := itemsOf_declared hx (hb c List.mem_cons_self)
    have hnext := AllIn.next hbefore hjoined hitems c
    exact fromList_declared hx (fun c' hc' => hb c' (List.mem_cons_of_mem _ hc')) hnext.1 hnext.2
end

/-- What an expression sees is declared in the query. -/
structure Context.In (registry : MetadataRegistry) (ast : Node) (x : Context) : Prop where
  ctes : CtesIn ast x.ctes
  frames : ∀ frame ∈ x.frames, AllIn registry ast frame

namespace Context

theorem In.push {x : Context} (h : x.In registry ast) (hs : AllIn registry ast frame) :
    ({ x with frames := frame :: x.frames } : Context).In registry ast := by
  refine ⟨h.ctes, ?_⟩
  intro frame' hf
  rcases List.mem_cons.1 hf with rfl | hf
  · exact hs
  · exact h.frames frame' hf

section Arguments
variable {x : Context} {l : Label} {args : List Node}

theorem In.body (h : x.In registry ast) (hb : ∀ c ∈ args, OrderedTree.Below c ast) :
    (x.body registry l args).In registry ast := by
  have hx : CtesIn ast (withCtes registry x.ctes args) := h.ctes.withCtes hb
  have hnil : AllIn registry ast [] := fun _ hs => by cases hs
  rw [Context.body]
  split
  · refine ⟨hx, ?_⟩
    intro frame hf
    rcases List.mem_cons.1 hf with rfl | hf
    · exact fromList_declared hx hb hnil hnil
    · exact h.frames frame hf
  all_goals exact ⟨hx, h.frames⟩

theorem In.outer (h : x.In registry ast) (hb : ∀ c ∈ args, OrderedTree.Below c ast) :
    (x.outer registry l args).In registry ast :=
  ⟨(h.body hb).ctes, h.frames⟩

theorem In.argument (h : x.In registry ast) (hb : ∀ c ∈ args, OrderedTree.Below c ast) (c : Node) :
    (x.argument registry l args c).In registry ast := by
  rw [Context.argument]
  split
  · exact h
  · split
    · exact h.outer hb
    · split
      · exact ⟨(h.body hb).ctes, (h.body hb).frames⟩
      · exact h.body hb

end Arguments

end Context

theorem startOf_declared {ctes : Ctes} (hx : CtesIn ast ctes)
    (hb : OrderedTree.Below (.node l cs) ast) :
    AllIn registry ast (startOf registry ctes l cs).before ∧
      AllIn registry ast (startOf registry ctes l cs).joined := by
  have hnil : AllIn registry ast [] := fun _ hs => by cases hs
  rw [startOf]
  split
  · rename_i hc
    refine ⟨hnil, ?_⟩
    intro s hs
    rw [List.mem_singleton] at hs
    exact .table (.node l cs) ctes hb hc hx (by rw [hs])
  · exact ⟨hnil, sourcesOfThis_declared hx (fun c hc => .of_mem hc hb)⟩
  · exact ⟨hnil, hnil⟩

mutual
/-- Every reference of a query sees what the query declares. -/
theorem places_in : ∀ {x : Context} {t : Node}, x.In registry ast → OrderedTree.Below t ast →
    ∀ p ∈ places registry x t, p.context.In registry ast
  | x, .node l cs, hx, hb, p, hp => by
    have hcs : ∀ c ∈ cs, OrderedTree.Below c ast := by
      intro c hc
      exact .of_mem hc hb
    rw [places, List.mem_append] at hp
    rcases hp with hp | hp
    · split at hp
      · rw [List.mem_singleton.1 hp]
        exact hx
      · cases hp
    · split at hp
      · refine placesCtes_in ?_ hcs p hp
        split
        · exact ⟨hx.ctes.declareCtes hcs, hx.frames⟩
        · exact hx
      · obtain ⟨hbefore, hjoined⟩ := startOf_declared hx.ctes hb
        exact placesArgs_in hx hcs hcs hbefore hjoined p hp

theorem placesArgs_in : ∀ {x : Context} {l : Label} {args cs : List Node} {f : FromList},
    x.In registry ast → (∀ c ∈ args, OrderedTree.Below c ast) →
    (∀ c ∈ cs, OrderedTree.Below c ast) → AllIn registry ast f.before →
    AllIn registry ast f.joined →
    ∀ p ∈ placesArgs registry x l args f cs, p.context.In registry ast
  | x, l, args, [], f, _, _, _, _, _, p, hp => by
    rw [placesArgs] at hp
    cases hp
  | x, l, args, c :: cs, f, hx, hargs, hb, hbefore, hjoined, p, hp => by
    have hc := hb c List.mem_cons_self
    have hitems : AllIn registry ast (itemsOf registry (x.outer registry l args).ctes c) :=
      itemsOf_declared (hx.outer hargs).ctes hc
    rw [placesArgs, List.mem_append] at hp
    rcases hp with hp | hp
    · split at hp
      · exact placesJoin_in (hx.outer hargs) hc hbefore hjoined p hp
      · exact places_in (hx.argument hargs c) hc p hp
    · have hnext := AllIn.next hbefore hjoined hitems c
      exact placesArgs_in hx hargs (fun c' hc' => hb c' (List.mem_cons_of_mem _ hc')) hnext.1
        hnext.2 p hp

theorem placesJoin_in : ∀ {outer : Context} {f : FromList} {t : Node}, outer.In registry ast →
    OrderedTree.Below t ast → AllIn registry ast f.before → AllIn registry ast f.joined →
    ∀ p ∈ placesJoin registry outer f t, p.context.In registry ast
  | outer, f, .node l cs, hx, hb, hbefore, hjoined, p, hp => by
    have hcs : ∀ c ∈ cs, OrderedTree.Below c ast := by
      intro c hc
      exact .of_mem hc hb
    have hnext := AllIn.next hbefore hjoined (sourcesOfThis_declared hx.ctes hcs) (.node l cs)
    rw [placesJoin] at hp
    exact placesOperands_in hx (hx.push (hbefore.append hjoined)) (hx.push hnext.2) hcs p hp

theorem placesOperands_in : ∀ {outer earlier on : Context} {cs : List Node},
    outer.In registry ast → earlier.In registry ast → on.In registry ast →
    (∀ c ∈ cs, OrderedTree.Below c ast) →
    ∀ p ∈ placesOperands registry outer earlier on cs, p.context.In registry ast
  | outer, earlier, on, [], _, _, _, _, p, hp => by
    rw [placesOperands] at hp
    cases hp
  | outer, earlier, on, c :: cs, houter, hearlier, hon, hb, p, hp => by
    rw [placesOperands, List.mem_append] at hp
    rcases hp with hp | hp
    · refine places_in ?_ (hb c List.mem_cons_self) p hp
      split
      · split
        · exact hearlier
        · exact houter
      · exact hon
    · exact placesOperands_in houter hearlier hon
        (fun c' hc' => hb c' (List.mem_cons_of_mem _ hc')) p hp

theorem placesCtes_in : ∀ {x : Context} {cs : List Node}, x.In registry ast →
    (∀ c ∈ cs, OrderedTree.Below c ast) →
    ∀ p ∈ placesCtes registry x cs, p.context.In registry ast
  | x, [], _, _, p, hp => by
    rw [placesCtes] at hp
    cases hp
  | x, c :: cs, hx, hb, p, hp => by
    have hc := hb c List.mem_cons_self
    rw [placesCtes, List.mem_append] at hp
    rcases hp with hp | hp
    · exact places_in hx hc p hp
    · refine placesCtes_in ?_ (fun c' hc' => hb c' (List.mem_cons_of_mem _ hc')) p hp
      exact ⟨hx.ctes.declare hc, hx.frames⟩
end

theorem mem_cteNames {c : Node} (hb : OrderedTree.Below c ast) (hc : c.cls = .cte)
    (hn : c.aliasName ≠ "") : c.aliasName ∈ localScopeNames ast := by
  apply List.mem_append_left
  apply List.mem_filterMap.2
  exact ⟨c, Node.mem_findAll.2 ⟨hb, decide_eq_true hc⟩, if_neg hn⟩

theorem mem_derivedTableAliases {m : Node} (hb : OrderedTree.Below m ast) (hc : m.cls = .subquery)
    (hn : m.aliasName ≠ "") : m.aliasName ∈ derivedTableAliases ast := by
  apply List.mem_filterMap.2
  exact ⟨m, Node.mem_findAll.2 ⟨hb, decide_eq_true hc⟩, if_neg hn⟩

namespace DeclaredIn

theorem columns_eq {s : Source} (h : DeclaredIn registry ast s) (hr : AsRead ast)
    (hk : s.kind = .base) (hn : s.renames = []) :
    s.columns = registryColumns registry s.table := by
  cases h with
  | table t ctes hb hc hx hs =>
    rw [hs] at hk hn ⊢
    have hcte : cteOf ctes t = none := by
      simp only [tableSource] at hk
      split at hk
      · split at hk
        · cases hk
        · rename_i hcte
          exact Option.not_isSome_iff_eq_none.1 hcte
      · cases hk
    simp only [tableSource] at hn ⊢
    rw [hn, hcte, hr.tables t hb hc]
    rfl
  | derived m columns hb hc hs =>
    rw [hs] at hk
    cases hk
  | lateral hl => cases hk.symm.trans hl

theorem mem_declarations {s : Source} (h : DeclaredIn registry ast s) (hr : AsRead ast)
    (hk : s.kind ≠ .lateral) (hn : s.kind = .derived → s.name ≠ "") :
    (s.name, s.table) ∈ declarations ast := by
  cases h with
  | table t ctes hb hc hx hs =>
    apply List.mem_append_left
    apply List.mem_map.2
    refine ⟨_, mem_extractTables.2 ⟨t, hb, hc, rfl⟩, ?_⟩
    rw [hs]
    simp only [tableSource, hr.tables t hb hc, hr.aliases t hb (.inl hc), orNone]
    by_cases ha : t.aliasName = ""
    · rw [if_pos ha, if_pos ha]
      rfl
    · rw [if_neg ha, if_neg ha]
      rfl
  | derived m columns hb hc hs =>
    have ha := hr.aliases m hb (.inr (.inl hc))
    rw [hs] at hn ⊢
    have hne : cteName m ≠ "" := hn rfl
    apply List.mem_append_right
    apply List.mem_map.2
    refine ⟨m.aliasName, mem_derivedTableAliases hb hc (ha ▸ hne), ?_⟩
    simp only [derivedSource, ha]
  | lateral hl => exact absurd hl hk

theorem mem_localScopeNames {s : Source} (h : DeclaredIn registry ast s) (hr : AsRead ast)
    (hk : s.kind = .cte ∨ s.kind = .derived) (hn : s.kind = .derived → s.name ≠ "") :
    s.table ∈ localScopeNames ast := by
  cases h with
  | table t ctes hb hc hx hs =>
    rw [hs] at hk ⊢
    have hcte : (cteOf ctes t).isSome = true := by
      simp only [tableSource] at hk
      split at hk
      · split at hk
        · assumption
        · rcases hk with hk | hk
          · cases hk
          · cases hk
      · rcases hk with hk | hk
        · cases hk
        · cases hk
    obtain ⟨columns, hcols⟩ := Option.isSome_iff_exists.1 hcte
    rw [cteOf] at hcols
    split at hcols
    · obtain ⟨l₁, l₂, he, _⟩ := List.lookup_eq_some_iff.1 hcols
      have hm : (resolvedTable t, columns) ∈ ctes := by
        rw [he]
        exact List.mem_append_right _ List.mem_cons_self
      obtain ⟨c, hcb, hcc, hname, hne⟩ := hx _ hm
      have hca := hr.aliases c hcb (.inr (.inr hcc))
      have ht : t.name = c.aliasName := by
        rw [← hr.tables t hb hc, ← hca]
        exact hname
      show t.name ∈ localScopeNames ast
      rw [ht]
      apply mem_cteNames hcb hcc
      rw [← ht, ← hr.tables t hb hc]
      exact hne
    · cases hcols
  | derived m columns hb hc hs =>
    have ha := hr.aliases m hb (.inr (.inl hc))
    rw [hs] at hn ⊢
    have hne : cteName m ≠ "" := hn rfl
    apply List.mem_append_right
    exact mem_derivedTableAliases hb hc (ha ▸ hne)
  | lateral hl =>
    rcases hk with hk | hk
    · cases hk.symm.trans hl
    · cases hk.symm.trans hl

end DeclaredIn

end Declared

end QueryMind.Sql
