import QueryMind.Lib.Json
import QueryMind.Retrieval.Engine
import QueryMind.SchemaLinker.Linker

namespace QueryMind.SchemaLinker
open Lib Metadata Nlu Retrieval
set_option autoImplicit true

/-- No object of the schema has a match with the concept that depends on the order of a set. -/
def SettledIn (m : ConceptMatcher) (database : DatabaseMetadata) (o : Occurrence) : Prop :=
  match o.lookupKind with
  | .table => ∀ table ∈ database.tables, m.Settled o.concept (tableSearchable table)
  | .column => ∀ table ∈ database.tables, ∀ entry ∈ table.columns,
      m.Settled o.concept (columnSearchable entry)

/-- The same generator in a process that iterates over sets in another order. -/
def CandidateGenerator.inOrder (g : CandidateGenerator) (order : SetOrder) : CandidateGenerator :=
  { g with matcher := g.matcher.inOrder order }

section
variable {m : ConceptMatcher} {database : DatabaseMetadata} {o : Occurrence}

theorem matchObject_inOrder (h : m.Settled concept object) (order : SetOrder) :
    (m.inOrder order).matchObject concept object = m.matchObject concept object :=
  (ConceptMatcher.matchObject_order_free_iff m concept object).2 h order m.order

theorem scan_inOrder (h : SettledIn m database o) (order : SetOrder) :
    Lookup.scan (m.inOrder order) ⟨database, o.lookupKind, o.concept⟩ =
      Lookup.scan m ⟨database, o.lookupKind, o.concept⟩ := by
  rw [SettledIn] at h
  cases hk : o.lookupKind with
  | table =>
    rw [hk] at h
    refine congrArg rank (List.filterMap_congr ?_)
    intro table ht
    rw [matchObject_inOrder (h table ht)]
  | column =>
    rw [hk] at h
    refine congrArg rank (List.flatMap_congr ?_)
    intro table ht
    apply List.filterMap_congr
    intro entry he
    rw [matchObject_inOrder (h table ht entry he)]

end

theorem generate_inOrder {g : CandidateGenerator} {kind : LookupKind} {concept : String}
    {order : SetOrder}
    (h : Lookup.scan (g.matcher.inOrder order) ⟨g.database, kind, concept⟩ =
      Lookup.scan g.matcher ⟨g.database, kind, concept⟩) :
    (g.inOrder order).generate kind concept =
      ((g.generate kind concept).1, (g.generate kind concept).2.inOrder order) := by
  have hc : Memo.consult (Lookup.cacheKey (g.matcher.inOrder order))
      (Lookup.scan (g.matcher.inOrder order)) (fun _ => true) g.cache
        ⟨g.database, kind, concept⟩ =
      Memo.consult (Lookup.cacheKey g.matcher) (Lookup.scan g.matcher) (fun _ => true) g.cache
        ⟨g.database, kind, concept⟩ := by
    rw [Memo.consult, Memo.consult, h]
    rfl
  exact congrArg (fun r : List LinkCandidate × LinkerCache =>
    (r.1, (⟨g.matcher.inOrder order, g.database, r.2⟩ : CandidateGenerator))) hc

/-- A lookup changes neither the matcher nor the schema. -/
def Kept (g g' : CandidateGenerator) : Prop := g'.matcher = g.matcher ∧ g'.database = g.database

def Keeps
    (resolveOne : CandidateGenerator → ι → Except LinkError (Outcome ρ × CandidateGenerator)) :
    Prop := ∀ g i r, resolveOne g i = .ok r → Kept g r.2

theorem kept_of_map {x : Except LinkError (Outcome ρ)} {g' : CandidateGenerator} (hg : Kept g g')
    (h : x.map (fun outcome => (outcome, g')) = .ok r) : Kept g r.2 := by
  cases x with
  | error e => cases h
  | ok outcome =>
    cases h
    exact hg

theorem resolveTableConcept_keeps {item : TableMetadata → ρ}
    (h : resolveTableConcept g concept kind item = .ok r) : Kept g r.2 := by
  have hg : Kept g (g.generateTableCandidates concept).2 := ⟨rfl, rfl⟩
  exact kept_of_map hg h

theorem resolveColumnConcept_keeps {item : ColumnMetadata → ρ}
    (h : resolveColumnConcept g concept kind item = .ok r) : Kept g r.2 := by
  have hg : Kept g (g.generateColumnCandidates concept).2 := ⟨rfl, rfl⟩
  exact kept_of_map hg h

theorem resolveEntity_keeps : Keeps resolveEntity :=
  fun _ _ _ h => resolveTableConcept_keeps h

theorem resolveMetric_keeps : Keeps resolveMetric :=
  fun _ _ _ h => resolveColumnConcept_keeps h

theorem resolveDimension_keeps : Keeps resolveDimension :=
  fun _ _ _ h => resolveColumnConcept_keeps h

theorem resolveFilter_keeps : Keeps resolveFilter :=
  fun _ _ _ h => resolveColumnConcept_keeps h

theorem resolveSort_keeps : Keeps resolveSort :=
  fun _ _ _ h => resolveColumnConcept_keeps h

theorem Kept.trans (h : Kept g g') (h' : Kept g' g'') : Kept g g'' :=
  ⟨h'.1.trans h.1, h'.2.trans h.2⟩

section
variable {tableName : ρ → String}
  {resolveOne : CandidateGenerator → ι → Except LinkError (Outcome ρ × CandidateGenerator)}

theorem resolveEach_keeps (hk : Keeps resolveOne) {s : LinkState} {is : List ι}
    (h : resolveEach resolveOne tableName s is = .ok r) : Kept s.generator r.2.generator := by
  induction is generalizing s r with
  | nil =>
    cases h
    exact ⟨rfl, rfl⟩
  | cons i is ih =>
    obtain ⟨r₁, h₁, h⟩ := bind_ok h
    obtain ⟨rest, hrest, h⟩ := bind_ok h
    cases h
    exact (hk _ _ _ h₁).trans (ih hrest)

end

theorem link_keeps {g : CandidateGenerator} (h : link g context = .ok r) : Kept g r.2 := by
  rw [link] at h
  split at h
  · cases h
  · obtain ⟨s₁, h₁, h⟩ := bind_ok h
    obtain ⟨s₂, h₂, h⟩ := bind_ok h
    obtain ⟨s₃, h₃, h⟩ := bind_ok h
    obtain ⟨s₄, h₄, h⟩ := bind_ok h
    obtain ⟨s₅, h₅, h⟩ := bind_ok h
    obtain ⟨s₆, h₆, h⟩ := bind_ok h
    cases h
    have k₁ := resolveEach_keeps resolveEntity_keeps h₁
    have k₂ := k₁.trans (resolveEach_keeps resolveEntity_keeps h₂)
    have k₃ := k₂.trans (resolveEach_keeps resolveMetric_keeps h₃)
    have k₄ := k₃.trans (resolveEach_keeps resolveDimension_keeps h₄)
    have k₅ := k₄.trans (resolveEach_keeps resolveFilter_keeps h₅)
    exact k₅.trans (resolveEach_keeps resolveSort_keeps h₆)

theorem except_map_map (x : Except ε α) (f : α → β) (g : β → γ) :
    (x.map f).map g = x.map fun a => g (f a) := by
  cases x <;> rfl

section
variable {m : ConceptMatcher} {database : DatabaseMetadata} {o : Occurrence}

theorem resolveTableConcept_inOrder {g : CandidateGenerator}
    (h : SettledIn g.matcher g.database o) (ho : o.lookupKind = .table) (kind : ConceptKind)
    (item : TableMetadata → ρ) (order : SetOrder) :
    resolveTableConcept (g.inOrder order) o.concept kind item =
      (resolveTableConcept g o.concept kind item).map fun r => (r.1, r.2.inOrder order) := by
  have hs := scan_inOrder h order
  rw [ho] at hs
  rw [resolveTableConcept, CandidateGenerator.generateTableCandidates, generate_inOrder hs,
    resolveTableConcept, except_map_map]
  rfl

theorem resolveColumnConcept_inOrder {g : CandidateGenerator}
    (h : SettledIn g.matcher g.database o) (ho : o.lookupKind = .column) (kind : ConceptKind)
    (item : ColumnMetadata → ρ) (order : SetOrder) :
    resolveColumnConcept (g.inOrder order) o.concept kind item =
      (resolveColumnConcept g o.concept kind item).map fun r => (r.1, r.2.inOrder order) := by
  have hs := scan_inOrder h order
  rw [ho] at hs
  rw [resolveColumnConcept, CandidateGenerator.generateColumnCandidates, generate_inOrder hs,
    resolveColumnConcept, except_map_map]
  rfl

end

def LinkState.inOrder (s : LinkState) (order : SetOrder) : LinkState :=
  { s with generator := s.generator.inOrder order }

theorem resolveEach_inOrder
    {resolveOne : CandidateGenerator → ι → Except LinkError (Outcome ρ × CandidateGenerator)}
    {tableName : ρ → String} {order : SetOrder} {is : List ι} (hk : Keeps resolveOne)
    (s : LinkState) (h : ∀ i ∈ is, ∀ g, Kept s.generator g →
      resolveOne (g.inOrder order) i = (resolveOne g i).map fun r => (r.1, r.2.inOrder order)) :
    resolveEach resolveOne tableName (s.inOrder order) is =
      (resolveEach resolveOne tableName s is).map fun r => (r.1, r.2.inOrder order) := by
  induction is generalizing s with
  | nil => rfl
  | cons i is ih =>
    rw [List.forall_mem_cons] at h
    have ha := h.1 s.generator ⟨rfl, rfl⟩
    cases hr : resolveOne s.generator i with
    | error e =>
      rw [hr] at ha
      replace ha : resolveOne (s.inOrder order).generator i = .error e := ha
      rw [resolveEach_cons_error hr, resolveEach_cons_error ha]
      rfl
    | ok r =>
      rw [hr] at ha
      replace ha : resolveOne (s.inOrder order).generator i = .ok (r.1, r.2.inOrder order) := ha
      rw [resolveEach_cons_ok hr, resolveEach_cons_ok ha]
      change (resolveEach resolveOne tableName ((s.record r tableName).inOrder order) is).map _ = _
      have hnext : Kept s.generator (s.record r tableName).generator := hk _ _ _ hr
      rw [ih (s.record r tableName) fun j hj g hg => h.2 j hj g (hnext.trans hg), except_map_map,
        except_map_map]

theorem bind_map_alike {x : Except ε α} {p : α → α} {f f' : α → Except ε β} {h : β → β}
    (hf : ∀ r, x = .ok r → f' (p r) = (f r).map h) : (x.map p >>= f') = (x >>= f).map h := by
  cases x with
  | error e => rfl
  | ok r => exact hf r rfl

theorem Kept.settled (hk : Kept g g') (h : SettledIn g.matcher g.database o) :
    SettledIn g'.matcher g'.database o := by
  rw [hk.1, hk.2]
  exact h

section
variable {s : LinkState} (order : SetOrder)

theorem entities_inOrder {concepts : List String} (h : ∀ concept ∈ concepts,
    SettledIn s.generator.matcher s.generator.database (.entity concept)) :
    resolveEach resolveEntity (·.table.name) (s.inOrder order) concepts =
      (resolveEach resolveEntity (·.table.name) s concepts).map
        fun r => (r.1, r.2.inOrder order) :=
  resolveEach_inOrder resolveEntity_keeps s fun concept hc _ hk =>
    resolveTableConcept_inOrder (hk.settled (h concept hc)) rfl .entity _ order

theorem metrics_inOrder {metrics : List MetricExpression} (h : ∀ metric ∈ metrics,
    SettledIn s.generator.matcher s.generator.database (.metric metric)) :
    resolveEach resolveMetric (·.column.tableName) (s.inOrder order) metrics =
      (resolveEach resolveMetric (·.column.tableName) s metrics).map
        fun r => (r.1, r.2.inOrder order) :=
  resolveEach_inOrder resolveMetric_keeps s fun metric hc _ hk =>
    resolveColumnConcept_inOrder (hk.settled (h metric hc)) rfl .metric _ order

theorem dimensions_inOrder {dimensions : List String} (h : ∀ concept ∈ dimensions,
    SettledIn s.generator.matcher s.generator.database (.dimension concept)) :
    resolveEach resolveDimension (·.column.tableName) (s.inOrder order) dimensions =
      (resolveEach resolveDimension (·.column.tableName) s dimensions).map
        fun r => (r.1, r.2.inOrder order) :=
  resolveEach_inOrder resolveDimension_keeps s fun concept hc _ hk =>
    resolveColumnConcept_inOrder (hk.settled (h concept hc)) rfl .dimension _ order

theorem filters_inOrder {filters : List FilterExpression} (h : ∀ filter ∈ filters,
    SettledIn s.generator.matcher s.generator.database (.filter filter)) :
    resolveEach resolveFilter (·.column.tableName) (s.inOrder order) filters =
      (resolveEach resolveFilter (·.column.tableName) s filters).map
        fun r => (r.1, r.2.inOrder order) :=
  resolveEach_inOrder resolveFilter_keeps s fun filter hc _ hk =>
    resolveColumnConcept_inOrder (hk.settled (h filter hc)) rfl .filterField _ order

theorem sorts_inOrder {sorts : List SortExpression} (h : ∀ sort ∈ sorts,
    SettledIn s.generator.matcher s.generator.database (.sort sort)) :
    resolveEach resolveSort (·.column.tableName) (s.inOrder order) sorts =
      (resolveEach resolveSort (·.column.tableName) s sorts).map
        fun r => (r.1, r.2.inOrder order) :=
  resolveEach_inOrder resolveSort_keeps s fun sort hc _ hk =>
    resolveColumnConcept_inOrder (hk.settled (h sort hc)) rfl .sortField _ order

end

theorem link_inOrder {g : CandidateGenerator} {context : QueryContext}
    (h : ∀ o ∈ occurrences context, SettledIn g.matcher g.database o) (order : SetOrder) :
    link (g.inOrder order) context =
      (link g context).map fun r => (r.1, r.2.inOrder order) := by
  simp only [occurrences, List.forall_mem_append, List.forall_mem_map] at h
  obtain ⟨⟨⟨⟨⟨hprimary, hsecondary⟩, hmetrics⟩, hdimensions⟩, hfilters⟩, hsort⟩ := h
  by_cases ht : g.database.tables = []
  · rw [link, link, CandidateGenerator.inOrder, if_pos ht, if_pos ht]
    rfl
  · rw [link, link, CandidateGenerator.inOrder, if_neg ht, if_neg ht]
    have h₁ := entities_inOrder (s := ⟨g, [], []⟩) order hprimary
    refine (congrArg (· >>= _) h₁).trans (bind_map_alike ?_)
    intro s₁ hs₁
    have k₁ : Kept g s₁.2.generator := resolveEach_keeps resolveEntity_keeps hs₁
    have h₂ := entities_inOrder order fun c hc => k₁.settled (hsecondary c hc)
    refine (congrArg (· >>= _) h₂).trans (bind_map_alike ?_)
    intro s₂ hs₂
    have k₂ := k₁.trans (resolveEach_keeps resolveEntity_keeps hs₂)
    have h₃ := metrics_inOrder order fun c hc => k₂.settled (hmetrics c hc)
    refine (congrArg (· >>= _) h₃).trans (bind_map_alike ?_)
    intro s₃ hs₃
    have k₃ := k₂.trans (resolveEach_keeps resolveMetric_keeps hs₃)
    have h₄ := dimensions_inOrder order fun c hc => k₃.settled (hdimensions c hc)
    refine (congrArg (· >>= _) h₄).trans (bind_map_alike ?_)
    intro s₄ hs₄
    have k₄ := k₃.trans (resolveEach_keeps resolveDimension_keeps hs₄)
    have h₅ := filters_inOrder order fun c hc => k₄.settled (hfilters c hc)
    refine (congrArg (· >>= _) h₅).trans (bind_map_alike ?_)
    intro s₅ hs₅
    have k₅ := k₄.trans (resolveEach_keeps resolveFilter_keeps hs₅)
    have h₆ := sorts_inOrder order fun c hc => k₅.settled (hsort c hc)
    refine (congrArg (· >>= _) h₆).trans (bind_map_alike ?_)
    intro s₆ _
    rfl

theorem afterLinks_inOrder {g : CandidateGenerator} {contexts : List QueryContext}
    (h : ∀ o ∈ contexts.flatMap occurrences, SettledIn g.matcher g.database o)
    (order : SetOrder) :
    afterLinks (g.inOrder order) contexts = (afterLinks g contexts).inOrder order ∧
      Kept g (afterLinks g contexts) := by
  induction contexts generalizing g with
  | nil => exact ⟨rfl, rfl, rfl⟩
  | cons context contexts ih =>
    rw [List.flatMap_cons, List.forall_mem_append] at h
    have hl := link_inOrder h.1 order
    rw [afterLinks, afterLinks, hl]
    cases hr : link g context with
    | error e => exact ih h.2
    | ok r =>
      have hk := link_keeps hr
      obtain ⟨ha, hk'⟩ := ih fun o ho => hk.settled (h.2 o ho)
      exact ⟨ha, hk.trans hk'⟩

section
variable [LinearOrder σ] (p : Platform σ) (sha256 : Json → κ) (dumpContext : LinkedContext → Json)
  (dumpExample : RetrievedExample σ → Json) (topK : Option Int)

/-- `bundle_content_hash`, which leaves the statistics out; `model_dump` is a parameter. -/
def promptHash (b : RetrievedKnowledgeBundle σ) : κ :=
  sha256 (.obj [("linked_query_context", dumpContext b.linkedQueryContext),
    ("retrieved_examples", .arr (b.retrievedExamples.map dumpExample))])

/-- A linker and a retrieval engine that answer one question after another. -/
structure AskedProcess where
  generator : CandidateGenerator
  engine : RetrievalEngine

abbrev Retrieved (σ κ : Type) :=
  Except LinkError (LinkedContext × Except RetrievalError (RetrievedKnowledgeBundle σ × κ))

def AskedProcess.ask (s : AskedProcess) (context : QueryContext) : Retrieved σ κ × AskedProcess :=
  match link s.generator context with
  | .error e => (.error e, s)
  | .ok r =>
    let bundle := s.engine.retrieve p r.1 topK
    (.ok (r.1, bundle.1.map fun b => (b, promptHash sha256 dumpContext dumpExample b)),
      ⟨r.2, bundle.2⟩)

def AskedProcess.askAll : AskedProcess → List QueryContext → List (Retrieved σ κ)
  | _, [] => []
  | s, context :: contexts =>
    (s.ask p sha256 dumpContext dumpExample topK context).1 ::
      askAll (s.ask p sha256 dumpContext dumpExample topK context).2 contexts

def AskedProcess.inOrder (s : AskedProcess) (order : SetOrder) : AskedProcess :=
  { s with generator := s.generator.inOrder order }

theorem ask_inOrder {s : AskedProcess} {context : QueryContext}
    (h : ∀ o ∈ occurrences context, SettledIn s.generator.matcher s.generator.database o)
    (order : SetOrder) :
    (s.inOrder order).ask p sha256 dumpContext dumpExample topK context =
        ((s.ask p sha256 dumpContext dumpExample topK context).1,
          (s.ask p sha256 dumpContext dumpExample topK context).2.inOrder order) ∧
      Kept s.generator (s.ask p sha256 dumpContext dumpExample topK context).2.generator := by
  have hl := link_inOrder h order
  rw [AskedProcess.ask, AskedProcess.ask, AskedProcess.inOrder, hl]
  cases hr : link s.generator context with
  | error e => exact ⟨rfl, rfl, rfl⟩
  | ok r => exact ⟨rfl, link_keeps hr⟩

/-- Two processes make the same of all questions, one after another. -/
theorem askAll_inOrder {s : AskedProcess} {contexts : List QueryContext}
    (h : ∀ o ∈ contexts.flatMap occurrences,
      SettledIn s.generator.matcher s.generator.database o) (order : SetOrder) :
    (s.inOrder order).askAll p sha256 dumpContext dumpExample topK contexts =
      s.askAll p sha256 dumpContext dumpExample topK contexts := by
  induction contexts generalizing s with
  | nil => rfl
  | cons context contexts ih =>
    rw [List.flatMap_cons, List.forall_mem_append] at h
    obtain ⟨ha, hk⟩ := ask_inOrder p sha256 dumpContext dumpExample topK h.1 order
    rw [AskedProcess.askAll, AskedProcess.askAll, ha, ih fun o ho => hk.settled (h.2 o ho)]

/-- A match is the same in every process just when no set with two common elements is asked for
one of them. Questions whose matches all are the same are linked the same in every process, and
the same examples are retrieved for them, under the same hash. -/
theorem linking_order_free_iff (m : ConceptMatcher) :
    (∀ concept object, (∀ order order' : SetOrder, (m.inOrder order).matchObject concept object =
        (m.inOrder order').matchObject concept object) ↔ m.Settled concept object) ∧
      (∀ database (earlier : List QueryContext) (context : QueryContext),
        (∀ o ∈ (earlier ++ [context]).flatMap occurrences, SettledIn m database o) →
          ∀ order order' : SetOrder,
            (link (afterLinks (.new (m.inOrder order) database) earlier) context).map Prod.fst =
              (link (afterLinks (.new (m.inOrder order') database) earlier) context).map
                Prod.fst) ∧
      ∀ database engine (contexts : List QueryContext),
        (∀ o ∈ contexts.flatMap occurrences, SettledIn m database o) →
          ∀ order order' : SetOrder,
            AskedProcess.askAll p sha256 dumpContext dumpExample topK
                ⟨.new (m.inOrder order) database, engine⟩ contexts =
              AskedProcess.askAll p sha256 dumpContext dumpExample topK
                ⟨.new (m.inOrder order') database, engine⟩ contexts := by
  refine ⟨ConceptMatcher.matchObject_order_free_iff m, ?_, ?_⟩
  · intro database earlier context h
    rw [List.flatMap_append, List.forall_mem_append, List.flatMap_singleton] at h
    have hm (order : SetOrder) :
        (link (afterLinks (.new (m.inOrder order) database) earlier) context).map Prod.fst =
          (link (afterLinks (.new m database) earlier) context).map Prod.fst := by
      have hg : CandidateGenerator.new (m.inOrder order) database =
          (CandidateGenerator.new m database).inOrder order := rfl
      obtain ⟨ha, hk⟩ := afterLinks_inOrder (g := .new m database) h.1 order
      rw [hg, ha, link_inOrder (fun o ho => hk.settled (h.2 o ho)), except_map_map]
    intro order order'
    rw [hm, hm]
  · intro database engine contexts h order order'
    have hm (order : SetOrder) := askAll_inOrder p sha256 dumpContext dumpExample topK
      (s := ⟨.new m database, engine⟩) h order
    exact (hm order).trans (hm order').symm

end

end QueryMind.SchemaLinker
