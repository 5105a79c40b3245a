import QueryMind.SchemaLinker.Linker

namespace QueryMind.SchemaLinker
open Lib Metadata Nlu
set_option autoImplicit true

def Occurrence.lookup (o : Occurrence) (database : DatabaseMetadata) : Lookup :=
  ⟨database, o.lookupKind, o.concept⟩

def CandidateGenerator.look (g : CandidateGenerator) (o : Occurrence) :
    List LinkCandidate × CandidateGenerator := g.generate o.lookupKind o.concept

def objects (database : DatabaseMetadata) : List (TableMetadata ⊕ ColumnMetadata) :=
  database.tables.map (fun table => .inl table.metadata) ++
    database.tables.flatMap fun table => table.columns.map fun entry => .inr entry.column

/-- An item is the schema's own object for a candidate that wins clearly over all the others. -/
structure IsWinner (database : DatabaseMetadata) (item : LinkedItem) (winner : LinkCandidate)
    (others : List LinkCandidate) : Prop where
  clear : ClearWinner winner others
  object : item.object ∈ objects database
  tableName : item.tableName = winner.tableName
  columnName : item.columnName = winner.columnName
  confidence : item.confidence = winner.confidence
  matchingReason : item.matchingReason = winner.matchingReason
  candidateRank : item.candidateRank = winner.candidateRank
  alternatives : item.alternatives = others

/-- What an occurrence's candidates call for: the clear winner, or else an ambiguity that lists all
of them. -/
def Answers (database : DatabaseMetadata) (candidates : List LinkCandidate) (o : Occurrence) :
    LinkedItem ⊕ Ambiguity → Prop
  | .inl item => item.occurrence = o ∧
      ∃ winner others, candidates = winner :: others ∧ IsWinner database item winner others
  | .inr ambiguity => ambiguity.businessConcept = o.concept ∧
      ambiguity.conceptKind = o.conceptKind ∧ ambiguity.candidates = candidates ∧
      ∀ winner others, candidates = winner :: others → ¬ClearWinner winner others

section
variable {m : ConceptMatcher} {database : DatabaseMetadata}

theorem winningTable_scan (h : c ∈ Lookup.scan m ⟨database, .table, concept⟩) :
    ∃ table ∈ database.tables, c.tableName = table.name ∧ c.columnName = none ∧
      winningTable database c = .ok table.metadata := by
  obtain ⟨d, hd, ht, hc⟩ := mem_rank h
  obtain ⟨table, htable, hm⟩ := List.mem_filterMap.1 hd
  obtain ⟨result, _, rfl⟩ := Option.map_eq_some_iff.1 hm
  refine ⟨table, htable, ht.symm, hc.symm, ?_⟩
  rw [winningTable, ← ht, candidateOf, DatabaseMetadata.getTable_of_mem htable]
  rfl

theorem winningColumn_scan (h : c ∈ Lookup.scan m ⟨database, .column, concept⟩) :
    ∃ table ∈ database.tables, ∃ entry ∈ table.columns, c.tableName = table.name ∧
      c.columnName = some entry.column.name ∧ winningColumn database c = .ok entry.column := by
  obtain ⟨d, hd, ht, hc⟩ := mem_rank h
  obtain ⟨table, htable, hm⟩ := List.mem_flatMap.1 hd
  obtain ⟨entry, hentry, hm⟩ := List.mem_filterMap.1 hm
  obtain ⟨result, _, rfl⟩ := Option.map_eq_some_iff.1 hm
  refine ⟨table, htable, entry, hentry, ht.symm, hc.symm, ?_⟩
  rw [winningColumn, ← ht, ← hc, candidateOf]
  change (database.getColumn table.name entry.column.name).mapError _ = _
  rw [DatabaseMetadata.getColumn_of_mem htable hentry]
  rfl

end

/-- Everything kept was found in the schema the registry still holds. -/
def CandidateGenerator.Current (g : CandidateGenerator) : Prop :=
  ∀ k candidates, g.cache k = some candidates →
    ∃ concept, candidates = Lookup.scan g.matcher ⟨g.database, k.1, concept⟩

namespace CandidateGenerator
variable {g : CandidateGenerator} {o : Occurrence}

theorem look_hit (h : g.cache (Lookup.cacheKey g.matcher (o.lookup g.database)) = some candidates) :
    g.look o = (candidates, g) := by
  change ((Memo.consult _ _ _ g.cache (o.lookup g.database)).1,
    { g with cache := (Memo.consult _ _ _ g.cache (o.lookup g.database)).2 }) = _
  rw [Memo.consult_hit h]

theorem look_miss (h : g.cache (Lookup.cacheKey g.matcher (o.lookup g.database)) = none) :
    g.look o = (Lookup.scan g.matcher (o.lookup g.database),
      ⟨g.matcher, g.database, Function.update g.cache
        (Lookup.cacheKey g.matcher (o.lookup g.database))
        (some (Lookup.scan g.matcher (o.lookup g.database)))⟩) := by
  change ((Memo.consult _ _ _ g.cache (o.lookup g.database)).1,
    { g with cache := (Memo.consult _ _ _ g.cache (o.lookup g.database)).2 }) = _
  rw [Memo.consult_miss h]
  rfl

theorem Current.look (h : g.Current) (o : Occurrence) :
    ∃ concept, (g.look o).1 = Lookup.scan g.matcher ⟨g.database, o.lookupKind, concept⟩ := by
  cases hc : g.cache (Lookup.cacheKey g.matcher (o.lookup g.database)) with
  | some candidates =>
    rw [look_hit hc]
    exact h _ _ hc
  | none =>
    rw [look_miss hc]
    exact ⟨o.concept, rfl⟩

theorem Current.after_look (h : g.Current) (o : Occurrence) : (g.look o).2.Current := by
  cases hc : g.cache (Lookup.cacheKey g.matcher (o.lookup g.database)) with
  | some _ =>
    rw [look_hit hc]
    exact h
  | none =>
    rw [look_miss hc]
    intro k candidates hk
    change Function.update g.cache _ _ k = some candidates at hk
    by_cases he : k = Lookup.cacheKey g.matcher (o.lookup g.database)
    · rw [he, Function.update_self] at hk
      cases hk
      refine ⟨o.concept, ?_⟩
      rw [he]
      rfl
    · rw [Function.update_of_ne he] at hk
      exact h k candidates hk

theorem current_new (m : ConceptMatcher) (database : DatabaseMetadata) :
    (new m database).Current := by
  intro k candidates h
  cases h

end CandidateGenerator

/-- What resolving one concept comes to, as an item of any field. -/
structure Settles (g : CandidateGenerator) (o : Occurrence) (outcome : Outcome ρ)
    (toItem : Resolution ρ → LinkedItem) (out : LinkedItem ⊕ Ambiguity) : Prop where
  answers : Answers g.database (g.look o).1 o out
  item : outcome.1.map toItem = out.getLeft?
  ambiguity : outcome.2 = out.getRight?

def objectTable (object : TableMetadata ⊕ ColumnMetadata) : String :=
  object.elim TableMetadata.name ColumnMetadata.tableName

def objectColumn (object : TableMetadata ⊕ ColumnMetadata) : Option String :=
  object.elim (fun _ => none) fun column => some column.name

theorem resolveWith_settles {g : CandidateGenerator} {o : Occurrence}
    (toItem : Resolution ρ → LinkedItem) (item : LinkCandidate → Except LinkError ρ)
    (hr : Ranked (g.look o).1)
    (hwin : ∀ c ∈ (g.look o).1, ∃ i, ∃ object ∈ objects g.database, item c = .ok i ∧
      objectTable object = c.tableName ∧ objectColumn object = c.columnName ∧
      ∀ confidence reason k others, toItem ⟨i, confidence, reason, k, others⟩ =
        ⟨o, object, confidence, reason, k, others⟩) :
    ∃ outcome out, resolveWith o.concept o.conceptKind (g.look o).1 item = .ok outcome ∧
      Settles g o outcome toItem out := by
  cases hd : (decideAmbiguity (g.look o).1).isConfident with
  | false =>
    refine ⟨_, .inr (ambiguityFor o.concept o.conceptKind (g.look o).1
      (decideAmbiguity (g.look o).1).reason), resolveWith_ambiguous hd _ _ _, ?_, rfl, rfl⟩
    refine ⟨rfl, rfl, rfl, ?_⟩
    intro winner others he hw
    rw [he] at hd hr
    rw [(decideAmbiguity_cons hr).2 hw] at hd
    cases hd
  | true =>
    cases hl : (g.look o).1 with
    | nil =>
      rw [hl, decideAmbiguity_nil] at hd
      cases hd
    | cons winner others =>
      rw [hl] at hd hr hwin
      have hw := (decideAmbiguity_cons hr).1 hd
      obtain ⟨i, object, hobject, hi, ht, hc, hitem⟩ := hwin winner List.mem_cons_self
      refine ⟨(some ⟨i, winner.confidence, winner.matchingReason, winner.candidateRank, others⟩,
        none), .inl ⟨o, object, winner.confidence, winner.matchingReason, winner.candidateRank,
          others⟩, ?_, ?_, ?_, rfl⟩
      · rw [resolveWith_winner hr hw, hi]
        rfl
      · exact ⟨rfl, winner, others, hl, hw, hobject, ht, hc, rfl, rfl, rfl, rfl⟩
      · exact congrArg some (hitem _ _ _ _)

/-- A resolver of one kind of concept that settles whatever it is given. -/
def Settling (toItem : Resolution ρ → LinkedItem) (occurrence : ι → Occurrence)
    (resolveOne : CandidateGenerator → ι → Except LinkError (Outcome ρ × CandidateGenerator)) :
    Prop :=
  ∀ g i, g.Current → ∃ outcome out,
    resolveOne g i = .ok (outcome, (g.look (occurrence i)).2) ∧
      Settles g (occurrence i) outcome toItem out

theorem ranked_look {g : CandidateGenerator} (hc : g.Current) (o : Occurrence) :
    Ranked (g.look o).1 := by
  obtain ⟨concept, hs⟩ := hc.look o
  rw [hs, Lookup.scan]
  cases o.lookupKind with
  | table => exact ranked_rank _
  | column => exact ranked_rank _

theorem resolveTableConcept_settles {g : CandidateGenerator} {o : Occurrence}
    {toItem : Resolution ρ → LinkedItem} {item : TableMetadata → ρ} (hc : g.Current)
    (ho : o.lookupKind = .table)
    (hitem : ∀ table confidence reason k others,
      toItem ⟨item table, confidence, reason, k, others⟩ =
        ⟨o, .inl table, confidence, reason, k, others⟩) :
    ∃ outcome out, resolveTableConcept g o.concept o.conceptKind item =
      .ok (outcome, (g.look o).2) ∧ Settles g o outcome toItem out := by
  have hl : g.generateTableCandidates o.concept = g.look o := by
    rw [CandidateGenerator.look, ho, CandidateGenerator.generateTableCandidates]
  rw [resolveTableConcept, hl]
  obtain ⟨outcome, out, he, hs⟩ := resolveWith_settles toItem
    (fun winner => (winningTable g.database winner).map item) (ranked_look hc o) (by
      intro c hm
      obtain ⟨concept, hscan⟩ := hc.look o
      rw [hscan, ho] at hm
      obtain ⟨table, htable, ht, hcol, hwin⟩ := winningTable_scan hm
      refine ⟨item table.metadata, .inl table.metadata, ?_, ?_, ht.symm, hcol.symm,
        hitem table.metadata⟩
      · exact List.mem_append_left _ (List.mem_map.2 ⟨table, htable, rfl⟩)
      · rw [hwin]
        rfl)
  exact ⟨outcome, out, congrArg (Except.map fun outcome => (outcome, (g.look o).2)) he, hs⟩

theorem resolveColumnConcept_settles {g : CandidateGenerator} {o : Occurrence}
    {toItem : Resolution ρ → LinkedItem} {item : ColumnMetadata → ρ} (hc : g.Current)
    (ho : o.lookupKind = .column)
    (hitem : ∀ column confidence reason k others,
      toItem ⟨item column, confidence, reason, k, others⟩ =
        ⟨o, .inr column, confidence, reason, k, others⟩) :
    ∃ outcome out, resolveColumnConcept g o.concept o.conceptKind item =
      .ok (outcome, (g.look o).2) ∧ Settles g o outcome toItem out := by
  have hl : g.generateColumnCandidates o.concept = g.look o := by
    rw [CandidateGenerator.look, ho, CandidateGenerator.generateColumnCandidates]
  rw [resolveColumnConcept, hl]
  obtain ⟨outcome, out, he, hs⟩ := resolveWith_settles toItem
    (fun winner => (winningColumn g.database winner).map item) (ranked_look hc o) (by
      intro c hm
      obtain ⟨concept, hscan⟩ := hc.look o
      rw [hscan, ho] at hm
      obtain ⟨table, htable, entry, hentry, ht, hcol, hwin⟩ := winningColumn_scan hm
      refine ⟨item entry.column, .inr entry.column, ?_, ?_, ?_, hcol.symm, hitem entry.column⟩
      · exact List.mem_append_right _ (List.mem_flatMap.2 ⟨table, htable,
          List.mem_map.2 ⟨entry, hentry, rfl⟩⟩)
      · rw [hwin]
        rfl
      · exact (table.owned entry hentry).trans ht.symm)
  exact ⟨outcome, out, congrArg (Except.map fun outcome => (outcome, (g.look o).2)) he, hs⟩

theorem resolveEntity_settling : Settling tableItem .entity resolveEntity :=
  fun _ concept hc => resolveTableConcept_settles (o := .entity concept) hc rfl
    fun _ _ _ _ _ => rfl

theorem resolveMetric_settling : Settling metricItem .metric resolveMetric :=
  fun _ metric hc => resolveColumnConcept_settles (o := .metric metric) hc rfl
    fun _ _ _ _ _ => rfl

theorem resolveDimension_settling : Settling dimensionItem .dimension resolveDimension :=
  fun _ concept hc => resolveColumnConcept_settles (o := .dimension concept) hc rfl
    fun _ _ _ _ _ => rfl

theorem resolveFilter_settling : Settling filterItem .filter resolveFilter :=
  fun _ filter hc => resolveColumnConcept_settles (o := .filter filter) hc rfl
    fun _ _ _ _ _ => rfl

theorem resolveSort_settling : Settling sortItem .sort resolveSort :=
  fun _ sort hc => resolveColumnConcept_settles (o := .sort sort) hc rfl
    fun _ _ _ _ _ => rfl

/-- The occurrences are looked up one after the other, and each gets what its candidates call
for. -/
inductive Answered : CandidateGenerator → List Occurrence → List (LinkedItem ⊕ Ambiguity) →
    CandidateGenerator → Prop
  | nil (g : CandidateGenerator) : Answered g [] [] g
  | cons (ha : Answers g.database (g.look o).1 o out) (h : Answered (g.look o).2 os outs g') :
    Answered g (o :: os) (out :: outs) g'

theorem Answered.append (h : Answered g os outs g') (h' : Answered g' os' outs' g'') :
    Answered g (os ++ os') (outs ++ outs') g'' := by
  induction h with
  | nil g => exact h'
  | cons ha _ ih => exact .cons ha (ih h')

def itemsOf (outs : List (LinkedItem ⊕ Ambiguity)) : List LinkedItem :=
  outs.filterMap Sum.getLeft?

def ambiguitiesOf (outs : List (LinkedItem ⊕ Ambiguity)) : List Ambiguity :=
  outs.filterMap Sum.getRight?

/-- What a loop adds to the state, and the items it returns, for the results `outs`. -/
structure Adds (s : LinkState) (os : List Occurrence) (outs : List (LinkedItem ⊕ Ambiguity))
    (items : List LinkedItem) (s' : LinkState) : Prop where
  answered : Answered s.generator os outs s'.generator
  current : s'.generator.Current
  database : s'.generator.database = s.generator.database
  resolved : items = itemsOf outs
  listed : s'.ambiguities = s.ambiguities ++ ambiguitiesOf outs
  involved : s'.involvedTables =
    s.involvedTables ++ items.map fun item => objectTable item.object

theorem itemsOf_cons (out : LinkedItem ⊕ Ambiguity) (outs : List (LinkedItem ⊕ Ambiguity)) :
    itemsOf (out :: outs) = out.getLeft?.toList ++ itemsOf outs := by
  rw [itemsOf, List.filterMap_cons]
  cases out.getLeft? <;> rfl

theorem ambiguitiesOf_cons (out : LinkedItem ⊕ Ambiguity)
    (outs : List (LinkedItem ⊕ Ambiguity)) :
    ambiguitiesOf (out :: outs) = out.getRight?.toList ++ ambiguitiesOf outs := by
  rw [ambiguitiesOf, List.filterMap_cons]
  cases out.getRight? <;> rfl

theorem toList_map (f : α → β) (x : Option α) : (x.map f).toList = x.toList.map f := by
  cases x <;> rfl

theorem resolveEach_adds {toItem : Resolution ρ → LinkedItem} {occurrence : ι → Occurrence}
    {resolveOne : CandidateGenerator → ι → Except LinkError (Outcome ρ × CandidateGenerator)}
    (tableName : ρ → String) (hone : Settling toItem occurrence resolveOne)
    (htable : ∀ r : Resolution ρ, objectTable (toItem r).object = tableName r.item)
    (is : List ι) (s : LinkState) (hc : s.generator.Current) :
    ∃ rs s' outs, resolveEach resolveOne tableName s is = .ok (rs, s') ∧
      Adds s (is.map occurrence) outs (rs.map toItem) s' := by
  induction is generalizing s with
  | nil =>
    refine ⟨[], s, [], rfl, .nil _, hc, rfl, rfl, ?_, ?_⟩
    · exact (List.append_nil _).symm
    · exact (List.append_nil _).symm
  | cons i is ih =>
    obtain ⟨outcome, out, hr, hs⟩ := hone s.generator i hc
    obtain ⟨rs, s', outs, hrest, ha⟩ :=
      ih (s.record (outcome, (s.generator.look (occurrence i)).2) tableName)
        (hc.after_look (occurrence i))
    refine ⟨outcome.1.toList ++ rs, s', out :: outs, ?_, ?_⟩
    · rw [resolveEach_cons_ok hr, hrest]
      rfl
    · have hitems : (outcome.1.toList ++ rs).map toItem = itemsOf (out :: outs) := by
        rw [List.map_append, ← toList_map, hs.item, ha.resolved, itemsOf_cons]
      refine ⟨.cons hs.answers ha.answered, ha.current, ha.database, hitems, ?_, ?_⟩
      · rw [ha.listed, LinkState.record, hs.ambiguity, ambiguitiesOf_cons, List.append_assoc]
      · rw [ha.involved, LinkState.record, List.append_assoc, List.map_append, List.map_append,
          toList_map]
        congr 2
        rw [List.map_map]
        exact List.map_congr_left fun r _ => (htable r).symm

theorem Adds.trans (h : Adds s os outs items s') (h' : Adds s' os' outs' items' s'') :
    Adds s (os ++ os') (outs ++ outs') (items ++ items') s'' where
  answered := h.answered.append h'.answered
  current := h'.current
  database := h'.database.trans h.database
  resolved := by
    rw [h.resolved, h'.resolved, itemsOf, itemsOf, itemsOf, List.filterMap_append]
  listed := by
    rw [h'.listed, h.listed, List.append_assoc, ambiguitiesOf, ambiguitiesOf,
      ambiguitiesOf, List.filterMap_append]
  involved := by rw [h'.involved, h.involved, List.append_assoc, List.map_append]

theorem Answered.length (h : Answered g os outs g') : outs.length = os.length := by
  induction h with
  | nil g => rfl
  | cons _ _ ih => rw [List.length_cons, List.length_cons, ih]

theorem Adds.length_le (h : Adds s os outs items s') : items.length ≤ os.length := by
  rw [h.resolved, ← h.answered.length]
  exact List.length_filterMap_le _ _

theorem head_toList {l : List α} (h : l.length ≤ 1) : l.head?.toList = l := by
  cases l with
  | nil => rfl
  | cons a l =>
    cases l with
    | nil => rfl
    | cons b l => exact absurd h (by simp)

theorem length_toList_le (x : Option α) : x.toList.length ≤ 1 := by
  cases x <;> simp

theorem link_adds (g : CandidateGenerator) (hc : g.Current) (context : QueryContext)
    (ht : g.database.tables ≠ []) :
    ∃ linked s outs, link g context = .ok (linked, s.generator) ∧
      Adds ⟨g, [], []⟩ (occurrences context) outs linked.items s ∧
      linked.ambiguities = s.ambiguities ∧
      linked.relationshipPaths = resolveRelationshipPaths g.database s.involvedTables := by
  obtain ⟨primary, s₁, outs₁, h₁, a₁⟩ := resolveEach_adds (·.table.name)
    resolveEntity_settling (fun _ => rfl) context.primaryEntity.toList ⟨g, [], []⟩ hc
  obtain ⟨secondary, s₂, outs₂, h₂, a₂⟩ := resolveEach_adds (·.table.name)
    resolveEntity_settling (fun _ => rfl) context.secondaryEntities s₁ a₁.current
  obtain ⟨metrics, s₃, outs₃, h₃, a₃⟩ := resolveEach_adds (·.column.tableName)
    resolveMetric_settling (fun _ => rfl) context.metrics s₂ a₂.current
  obtain ⟨dimensions, s₄, outs₄, h₄, a₄⟩ := resolveEach_adds (·.column.tableName)
    resolveDimension_settling (fun _ => rfl) context.dimensions s₃ a₃.current
  obtain ⟨filters, s₅, outs₅, h₅, a₅⟩ := resolveEach_adds (·.column.tableName)
    resolveFilter_settling (fun _ => rfl) context.filters s₄ a₄.current
  obtain ⟨sort, s₆, outs₆, h₆, a₆⟩ := resolveEach_adds (·.column.tableName)
    resolveSort_settling (fun _ => rfl) context.sort.toList s₅ a₅.current
  have hp : primary.head?.toList = primary := by
    apply head_toList
    have hl := a₁.length_le
    rw [List.length_map, List.length_map] at hl
    exact hl.trans (length_toList_le _)
  have hs : sort.head?.toList = sort := by
    apply head_toList
    have hl := a₆.length_le
    rw [List.length_map, List.length_map] at hl
    exact hl.trans (length_toList_le _)
  refine ⟨⟨context, primary.head?, secondary, metrics, dimensions, filters, sort.head?,
    resolveRelationshipPaths g.database s₆.involvedTables, s₆.ambiguities⟩, s₆,
    outs₁ ++ outs₂ ++ outs₃ ++ outs₄ ++ outs₅ ++ outs₆, ?_, ?_, rfl, rfl⟩
  · rw [link, if_neg ht, h₁, ok_bind, h₂, ok_bind, h₃, ok_bind, h₄, ok_bind, h₅, ok_bind, h₆,
      ok_bind]
  · have ha := ((((a₁.trans a₂).trans a₃).trans a₄).trans a₅).trans a₆
    rw [LinkedContext.items, hp, hs]
    exact ha

end QueryMind.SchemaLinker
