import QueryMind.Retrieval.Engine

namespace QueryMind.Retrieval
open Lib BusinessKnowledge SchemaLinker Nlu
set_option autoImplicit true

section
variable [LinearOrder σ]

theorem Scored.precedes_trans (a b c : Scored σ) :
    a.precedes b → b.precedes c → a.precedes c := by
  simp only [Scored.precedes]
  rintro (h | ⟨h, hi⟩) (h' | ⟨h', hi'⟩)
  · exact .inl (h'.trans h)
  · exact .inl (h' ▸ h)
  · exact .inl (h ▸ h')
  · exact .inr ⟨h.trans h', hi.trans hi'⟩

theorem Scored.precedes_total (a b : Scored σ) : a.precedes b ∨ b.precedes a := by
  simp only [Scored.precedes]
  rcases lt_trichotomy a.score.overallScore b.score.overallScore with h | h | h
  · exact .inr (.inl h)
  · rcases le_total a.queryExample.id b.queryExample.id with hi | hi
    · exact .inl (.inr ⟨h, hi⟩)
    · exact .inr (.inr ⟨h.symm, hi⟩)
  · exact .inl (.inl h)

instance : IsTrans (Scored σ) Scored.precedes := ⟨Scored.precedes_trans⟩

instance : Std.Total (Scored.precedes (σ := σ)) := ⟨Scored.precedes_total⟩

theorem Scored.precedes_antisymm (a b : Scored σ) (h : a.precedes b) (h' : b.precedes a) :
    a.queryExample.id = b.queryExample.id := by
  rcases h with h | ⟨h, hi⟩
  · rcases h' with h' | ⟨h', _⟩
    · exact absurd h' h.asymm
    · exact absurd h'.symm h.ne'
  · rcases h' with h' | ⟨_, hi'⟩
    · exact absurd h h'.ne
    · exact le_antisymm hi hi'

/-- One of two scored examples goes before the other: it has the higher score, or the same one and
the smaller id. -/
def Scored.before (a b : Scored σ) : Prop :=
  b.score.overallScore < a.score.overallScore ∨
    a.score.overallScore = b.score.overallScore ∧ a.queryExample.id < b.queryExample.id

theorem Scored.before_of_precedes {a b : Scored σ} (h : a.precedes b)
    (hne : a.queryExample.id ≠ b.queryExample.id) : a.before b :=
  h.imp_right fun h => ⟨h.1, h.2.lt_of_ne hne⟩

def scoredLibrary (p : Platform σ) (context : LinkedContext)
    (knowledge : Option BusinessKnowledgeCatalog) (examples : List QueryExample) :
    List (Scored σ) :=
  examples.map fun e =>
    let features := (p.matcher knowledge).exampleFeatures e
    ⟨e, features, scoreExample p.ops (p.matcher knowledge) context e features⟩

/-- Of the scored examples, the best ones, best first: each goes before the next, and before every
one that is left out. -/
structure BestFirst (scored best : List (Scored σ)) (count : Nat) : Prop where
  length : best.length = min count scored.length
  sorted : best.Pairwise Scored.before
  others : ∃ others, scored.Perm (best ++ others) ∧ ∀ b ∈ best, ∀ o ∈ others, b.before o

theorem rankExamples_bestFirst {scored : List (Scored σ)}
    (h : (scored.map (·.queryExample.id)).Nodup) (count : Nat) :
    BestFirst scored (rankExamples scored count) count := by
  have hperm := List.perm_insertionSort Scored.precedes scored
  have hnodup : ((scored.insertionSort Scored.precedes).map (·.queryExample.id)).Nodup :=
    (hperm.map _).nodup_iff.2 h
  have hbefore : (scored.insertionSort Scored.precedes).Pairwise Scored.before :=
    ((List.pairwise_insertionSort Scored.precedes scored).and
      (List.pairwise_map.1 hnodup)).imp fun h => Scored.before_of_precedes h.1 h.2
  rw [← List.take_append_drop count (scored.insertionSort Scored.precedes),
    List.pairwise_append] at hbefore
  refine ⟨?_, hbefore.1, _, ?_, hbefore.2.2⟩
  · rw [rankExamples, List.length_take, List.length_insertionSort]
  · rw [rankExamples, List.take_append_drop]
    exact hperm.symm

theorem rankExamples_perm {scored scored' : List (Scored σ)} (hp : scored.Perm scored')
    (h : (scored.map (·.queryExample.id)).Nodup) (count : Nat) :
    rankExamples scored count = rankExamples scored' count := by
  have hs := List.perm_insertionSort Scored.precedes scored
  have hs' := List.perm_insertionSort Scored.precedes scored'
  rw [rankExamples, rankExamples]
  refine congrArg (List.take count) (List.Perm.eq_of_pairwise ?_
    (List.pairwise_insertionSort Scored.precedes scored)
    (List.pairwise_insertionSort Scored.precedes scored') (hs.trans (hp.trans hs'.symm)))
  intro a b ha hb hab hba
  exact List.inj_on_of_nodup_map h ((List.mem_insertionSort _).1 ha)
    (hp.symm.subset ((List.mem_insertionSort _).1 hb)) (Scored.precedes_antisymm a b hab hba)

end

section
variable [LinearOrder σ] {p : Platform σ} {library : QueryExampleLibrary}
  {knowledge : Option BusinessKnowledgeCatalog}

def retrievalLookups (library : QueryExampleLibrary)
    (knowledge : Option BusinessKnowledgeCatalog) (topK : Option Int) : List FeatureLookup :=
  if topK.getD defaultTopK ≤ 0 then [] else library.examples.map fun e => ⟨knowledge, e⟩

/-- The lookups of a run, each with the catalog that the engine holds then. -/
def runLookups (library : QueryExampleLibrary) (knowledge : Option BusinessKnowledgeCatalog) :
    List EngineAction → List FeatureLookup
  | [] => []
  | .retrieve _ topK :: actions =>
    retrievalLookups library knowledge topK ++ runLookups library knowledge actions
  | .refreshLibrary library :: actions => runLookups library knowledge actions
  | .refreshKnowledge catalog :: actions =>
    runLookups library (knowledge.map fun _ => catalog) actions

/-- Equal ids stand for equal features, in all the lookups. -/
def FeaturesSettled (p : Platform σ) (lookups : List FeatureLookup) : Prop :=
  ∀ l ∈ lookups, ∀ l' ∈ lookups, l.exampleId = l'.exampleId → l.features p = l'.features p

/-- What an engine with no features kept makes of a question. -/
def ownBundle (p : Platform σ) (library : QueryExampleLibrary)
    (knowledge : Option BusinessKnowledgeCatalog) (context : LinkedContext) (topK : Nat) :
    RetrievedKnowledgeBundle σ :=
  bundleOf p.ops (p.matcher knowledge) context topK
    (library.examples.map fun e => (e, (p.matcher knowledge).exampleFeatures e))

theorem retrieve_of_agrees (engine : RetrievalEngine) {topK : Option Int}
    {rest : List FeatureLookup} (hk : ¬topK.getD defaultTopK ≤ 0)
    (ha : Memo.Agrees FeatureLookup.exampleId (FeatureLookup.features p) engine.cache
      (retrievalLookups engine.library engine.knowledge topK ++ rest))
    (hs : FeaturesSettled p (retrievalLookups engine.library engine.knowledge topK ++ rest))
    (context : LinkedContext) :
    (engine.retrieve p context topK).1 = .ok (ownBundle p engine.library engine.knowledge context
        (topK.getD defaultTopK).toNat) ∧
      Memo.Agrees FeatureLookup.exampleId (FeatureLookup.features p)
        (engine.retrieve p context topK).2.cache rest := by
  have hl : retrievalLookups engine.library engine.knowledge topK = engine.featureLookups :=
    if_neg hk
  rw [hl] at ha hs
  obtain ⟨hfeatures, hrest⟩ := ha.consultAll hs
  rw [RetrievalEngine.retrieve, if_neg hk]
  refine ⟨?_, hrest⟩
  have hz : engine.library.examples.zip (engine.featureLookups.map (FeatureLookup.features p)) =
      engine.library.examples.map fun e =>
        (e, (p.matcher engine.knowledge).exampleFeatures e) := by
    have hm : (engine.library.examples.map id).zip (engine.library.examples.map fun e =>
        (p.matcher engine.knowledge).exampleFeatures e) = engine.library.examples.map fun e =>
          (id e, (p.matcher engine.knowledge).exampleFeatures e) := List.zip_map'
    rw [List.map_id] at hm
    rw [RetrievalEngine.featureLookups, List.map_map]
    exact hm
  change Except.ok (bundleOf _ _ _ _ (engine.library.examples.zip
    (Memo.consultAll FeatureLookup.exampleId (FeatureLookup.features p) engine.cache
      engine.featureLookups).1)) = _
  rw [hfeatures, hz]
  rfl

omit [LinearOrder σ] in
theorem featuresSettled_library (library : QueryExampleLibrary)
    (knowledge : Option BusinessKnowledgeCatalog) (topK : Option Int) :
    FeaturesSettled p (retrievalLookups library knowledge topK) := by
  intro l hl l' hl' he
  rw [retrievalLookups] at hl hl'
  split at hl
  · cases hl
  · rename_i hk
    rw [if_neg hk] at hl'
    obtain ⟨e, hm, rfl⟩ := List.mem_map.1 hl
    obtain ⟨e', hm', rfl⟩ := List.mem_map.1 hl'
    rw [List.inj_on_of_nodup_map library.nodup hm hm' he]

theorem retrieve_new {topK : Option Int} (hk : ¬topK.getD defaultTopK ≤ 0)
    (context : LinkedContext) :
    ((RetrievalEngine.new library knowledge).retrieve p context topK).1 =
      .ok (ownBundle p library knowledge context (topK.getD defaultTopK).toNat) := by
  have hs : FeaturesSettled p (retrievalLookups library knowledge topK) :=
    featuresSettled_library library knowledge topK
  rw [← List.append_nil (retrievalLookups library knowledge topK)] at hs
  have ha : Memo.Agrees FeatureLookup.exampleId (FeatureLookup.features p)
      (RetrievalEngine.new library knowledge).cache
      (retrievalLookups library knowledge topK ++ []) := by
    intro l _ b hb
    cases hb
  exact (retrieve_of_agrees (.new library knowledge) hk ha hs context).1

theorem run_of_agrees (engine : RetrievalEngine) (actions : List EngineAction)
    (ha : Memo.Agrees FeatureLookup.exampleId (FeatureLookup.features p) engine.cache
      (runLookups engine.library engine.knowledge actions))
    (hs : FeaturesSettled p (runLookups engine.library engine.knowledge actions)) :
    engine.run p actions = freshRun p engine.library engine.knowledge actions := by
  induction actions generalizing engine with
  | nil => rfl
  | cons action actions ih =>
    cases action with
    | refreshLibrary library => exact ih { engine with library := library } ha hs
    | refreshKnowledge catalog =>
      exact ih { engine with knowledge := engine.knowledge.map fun _ => catalog } ha hs
    | retrieve context topK =>
      rw [RetrievalEngine.run, freshRun]
      rw [runLookups] at ha hs
      by_cases hk : topK.getD defaultTopK ≤ 0
      · rw [retrievalLookups, if_pos hk, List.nil_append] at ha hs
        rw [RetrievalEngine.retrieve, RetrievalEngine.retrieve, if_pos hk, if_pos hk]
        exact congrArg (List.cons _) (ih engine ha hs)
      · obtain ⟨hr, hrest⟩ := retrieve_of_agrees engine hk ha hs context
        have hlib : (engine.retrieve p context topK).2.library = engine.library := by
          rw [RetrievalEngine.retrieve, if_neg hk]
        have hkn : (engine.retrieve p context topK).2.knowledge = engine.knowledge := by
          rw [RetrievalEngine.retrieve, if_neg hk]
        have hnext := ih (engine.retrieve p context topK).2
        rw [hlib, hkn] at hnext
        rw [hr, retrieve_new hk, hnext hrest fun l hl l' hl' =>
          hs l (List.mem_append_right _ hl) l' (List.mem_append_right _ hl')]

/-- What an engine built for a retrieval retrieves: the best examples of the library, best first,
each with its own score and explanation. -/
theorem ownBundle_examples (p : Platform σ) (library : QueryExampleLibrary)
    (knowledge : Option BusinessKnowledgeCatalog) (context : LinkedContext) (topK : Nat) :
    (ownBundle p library knowledge context topK).retrievedExamples =
      (rankExamples (scoredLibrary p context knowledge library.examples) topK).map
        (buildRetrieved p.ops (p.matcher knowledge) context) := by
  rw [ownBundle, bundleOf, List.map_map]
  rfl

theorem scoredLibrary_nodup (p : Platform σ) (library : QueryExampleLibrary)
    (knowledge : Option BusinessKnowledgeCatalog) (context : LinkedContext) :
    ((scoredLibrary p context knowledge library.examples).map (·.queryExample.id)).Nodup := by
  rw [scoredLibrary, List.map_map]
  exact library.nodup

end

/-- Each retrieval of a fresh engine gives the best examples of the library, whatever order the
library has, and so does each one in a run in which no example's features ever change. -/
theorem retrieval_fresh [LinearOrder σ] (p : Platform σ) (library : QueryExampleLibrary)
    (knowledge : Option BusinessKnowledgeCatalog) :
    (∀ (context : LinkedContext) (topK : Nat), 1 ≤ topK →
      ∃ bundle best, ((RetrievalEngine.new library knowledge).retrieve p context
          (some (topK : Int))).1 = .ok bundle ∧
        BestFirst (scoredLibrary p context knowledge library.examples) best topK ∧
        bundle.retrievedExamples =
          best.map (buildRetrieved p.ops (p.matcher knowledge) context) ∧
        ∀ library' : QueryExampleLibrary, library.examples.Perm library'.examples →
          ∃ bundle', ((RetrievalEngine.new library' knowledge).retrieve p context
              (some (topK : Int))).1 = .ok bundle' ∧
            bundle'.retrievedExamples = bundle.retrievedExamples) ∧
    ∀ actions, FeaturesSettled p (runLookups library knowledge actions) →
      (RetrievalEngine.new library knowledge).run p actions =
        freshRun p library knowledge actions := by
  constructor
  · intro context topK hk
    have hpos : ¬(some (topK : Int)).getD defaultTopK ≤ 0 := by
      change ¬(topK : Int) ≤ 0
      omega
    have hids := scoredLibrary_nodup p library knowledge context
    refine ⟨_, _, retrieve_new hpos context, rankExamples_bestFirst hids topK,
      ownBundle_examples p library knowledge context topK, ?_⟩
    intro library' hp
    refine ⟨_, retrieve_new hpos context, ?_⟩
    change (ownBundle p library' knowledge context topK).retrievedExamples =
      (ownBundle p library knowledge context topK).retrievedExamples
    rw [ownBundle_examples, ownBundle_examples]
    refine congrArg _ (rankExamples_perm ?_ hids topK).symm
    exact hp.map _
  · intro actions hs
    apply run_of_agrees (RetrievalEngine.new library knowledge) actions _ hs
    intro l _ b hb
    cases hb

def exactOps : ScoreOps Rat where
  literal := id
  quotient a b := a / b
  add := (· + ·)
  sum := List.sum
  sub := (· - ·)
  mul := (· * ·)
  divideBy a n := a / n
  twoPlaces := twoPlaces

def exactPlatform : Platform Rat where
  lower := Text.lower
  repr text := "'" ++ text ++ "'"
  word := asciiWord
  ops := exactOps

/-- The library's example, under an id that stays while its question is edited. -/
def monthlyExample (title question normalized : String) : QueryExample where
  id := "monthly_report"
  title := title
  naturalLanguageQuestion := question
  normalizedQuestion := normalized
  intent := "select"
  businessConcepts := []
  linkedSchemaObjects := ["orders.order_id"]
  goldSql := "SELECT order_id FROM orders"
  difficulty := .beginner
  details := ""

def ordersExample : QueryExample :=
  monthlyExample "Order ids" "What are our order ids?" "what are our order ids?"

def churnExample : QueryExample :=
  monthlyExample "Churned orders" "Which orders churned?" "which orders churned?"

def ordersLibrary : QueryExampleLibrary := ⟨[ordersExample], by decide⟩

def churnLibrary : QueryExampleLibrary := ⟨[churnExample], by decide⟩

def churnQuestion : QueryContext where
  originalQuestion := "Show the churned customers"
  normalizedQuestion := "show the churned customers"
  intent := .select
  primaryEntity := none
  secondaryEntities := []
  businessConcepts := []
  metrics := []
  dimensions := []
  filters := []
  timeExpression := none
  sort := none
  limit := none
  aggregation := none

def churnContext : LinkedContext where
  queryContext := churnQuestion
  primaryEntity := none
  secondaryEntities := []
  metrics := []
  dimensions := []
  filters := []
  sort := none
  relationshipPaths := some []
  ambiguities := []

def bundleScores : Except RetrievalError (RetrievedKnowledgeBundle Rat) → List Rat
  | .ok bundle => bundle.retrievedExamples.map (·.overallScore)
  | .error _ => []

def editedRun : List EngineAction :=
  [.retrieve churnContext none, .refreshLibrary churnLibrary, .retrieve churnContext none]

/-- The keywords of the question are found in the edited example by a fresh engine only. -/
theorem edited_example_stale :
    ((RetrievalEngine.new ordersLibrary none).run exactPlatform editedRun).map bundleScores =
        [[3 / 10], [3 / 10]] ∧
      (freshRun exactPlatform ordersLibrary none editedRun).map bundleScores =
        [[3 / 10], [1 / 3]] ∧
      (RetrievalEngine.new ordersLibrary none).run exactPlatform editedRun ≠
        freshRun exactPlatform ordersLibrary none editedRun := by
  refine ⟨by decide +kernel, by decide +kernel, ?_⟩
  intro h
  have hs := congrArg (List.map bundleScores) h
  exact absurd hs (by decide +kernel)

/-- A refresh that adds an example and leaves the other one as it is. -/
def grownLibrary : QueryExampleLibrary :=
  ⟨[{ churnExample with id := "churned_orders" }, ordersExample], by decide⟩

def grownRun : List EngineAction :=
  [.retrieve churnContext none, .refreshLibrary grownLibrary, .retrieve churnContext (some 1)]

theorem retrieval_fresh_grown :
    (∃ bundle best, ((RetrievalEngine.new grownLibrary none).retrieve exactPlatform churnContext
        (some ((1 : Nat) : Int))).1 = .ok bundle ∧
      BestFirst (scoredLibrary exactPlatform churnContext none grownLibrary.examples) best 1 ∧
      bundle.retrievedExamples =
        best.map (buildRetrieved exactOps (exactPlatform.matcher none) churnContext)) ∧
    (RetrievalEngine.new ordersLibrary none).run exactPlatform grownRun =
      freshRun exactPlatform ordersLibrary none grownRun := by
  constructor
  · obtain ⟨bundle, best, hok, hbest, hexamples, _⟩ :=
      (retrieval_fresh exactPlatform grownLibrary none).1 churnContext 1 le_rfl
    exact ⟨bundle, best, hok, hbest, hexamples⟩
  · refine (retrieval_fresh exactPlatform ordersLibrary none).2 grownRun ?_
    unfold FeaturesSettled
    decide +kernel

end QueryMind.Retrieval
