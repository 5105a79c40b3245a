import QueryMind.Lib.Memo
import QueryMind.Retrieval.Scorer

namespace QueryMind.Retrieval
open Lib BusinessKnowledge SchemaLinker
set_option autoImplicit true

/-- A loaded library: building it checks that the ids are unique. -/
structure QueryExampleLibrary where
  examples : List QueryExample
  nodup : (examples.map QueryExample.id).Nodup

structure RetrievedExample (σ : Type) where
  queryExample : QueryExample
  overallScore : σ
  signalBreakdown : List (SignalBreakdown σ)
  matchedBusinessConcepts : List String
  matchedSchemaObjects : List String
  matchedKeywords : List String
  selectionExplanation : String
  deriving DecidableEq

structure SignalContribution (σ : Type) where
  signal : SignalName
  averageWeightedScore : σ
  deriving DecidableEq

/-- The statistics of a run, its latency apart. -/
structure RetrievalStatistics (σ : Type) where
  topK : Nat
  candidateCount : Nat
  averageScore : σ
  signalContribution : List (SignalContribution σ)
  deriving DecidableEq

structure RetrievedKnowledgeBundle (σ : Type) where
  linkedQueryContext : LinkedContext
  retrievedExamples : List (RetrievedExample σ)
  statistics : RetrievalStatistics σ

/-- `InvalidTopKError`, with the number it names. -/
inductive RetrievalError
  | invalidTopK (topK : Int)
  deriving DecidableEq, Repr

def defaultTopK : Int := 5

/-- An example as it is scored: with its features and its score. -/
structure Scored (σ : Type) where
  queryExample : QueryExample
  features : ExampleFeatures
  score : RetrievalScore σ

section
variable [LinearOrder σ]

/-- `(-overall_score, id)`, compared as a pair. -/
def Scored.precedes (a b : Scored σ) : Prop :=
  b.score.overallScore < a.score.overallScore ∨
    a.score.overallScore = b.score.overallScore ∧ a.queryExample.id ≤ b.queryExample.id

instance (a b : Scored σ) : Decidable (a.precedes b) :=
  inferInstanceAs (Decidable (_ ∨ _ ∧ _))

def rankExamples (scored : List (Scored σ)) (topK : Nat) : List (Scored σ) :=
  (scored.insertionSort Scored.precedes).take topK

variable (ops : ScoreOps σ) (m : Matcher)

def explanationText (score : RetrievalScore σ) (concepts schema keywords : Finset String) :
    String :=
  " ".intercalate (
    ["Selected with an overall score of " ++ ops.twoPlaces score.overallScore ++ ".",
      score.rankingReason] ++
    (if concepts = ∅ then [] else ["Shared business concepts: " ++ joinSorted concepts ++ "."]) ++
    (if schema = ∅ then [] else ["Shared schema objects: " ++ joinSorted schema ++ "."]) ++
    (if keywords = ∅ then [] else ["Shared keywords: " ++ joinSorted keywords ++ "."]))

def buildRetrieved (context : LinkedContext) (s : Scored σ) : RetrievedExample σ :=
  let concepts := m.contextBusinessConcepts context ∩ s.features.conceptSet
  let schema := contextSchemaObjects context ∩ s.features.schemaObjectSet
  let keywords := m.contextKeywords context ∩ s.features.keywordSet
  { queryExample := s.queryExample
    overallScore := s.score.overallScore
    signalBreakdown := s.score.signalScores
    matchedBusinessConcepts := sorted concepts
    matchedSchemaObjects := sorted schema
    matchedKeywords := sorted keywords
    selectionExplanation := explanationText ops s.score concepts schema keywords }

/-- The signals in the order in which they first occur, with the sums of their weighted scores. -/
def addContribution (totals : List (SignalName × σ)) (entry : SignalBreakdown σ) :
    List (SignalName × σ) :=
  match totals with
  | [] => [(entry.signal, ops.add (ops.literal 0) entry.weightedScore)]
  | (signal, total) :: totals =>
    if signal = entry.signal then (signal, ops.add total entry.weightedScore) :: totals
    else (signal, total) :: addContribution totals entry

def collectStatistics (topK candidateCount : Nat) (retrieved : List (RetrievedExample σ)) :
    RetrievalStatistics σ where
  topK := topK
  candidateCount := candidateCount
  averageScore :=
    if retrieved.isEmpty then ops.literal 0
    else ops.divideBy (ops.sum (retrieved.map (·.overallScore))) retrieved.length
  signalContribution :=
    ((retrieved.flatMap (·.signalBreakdown)).foldl (addContribution ops) []).map fun total =>
      ⟨total.1, ops.divideBy total.2 retrieved.length⟩

def bundleOf (context : LinkedContext) (topK : Nat)
    (candidates : List (QueryExample × ExampleFeatures)) : RetrievedKnowledgeBundle σ :=
  let scored := candidates.map fun c =>
    (⟨c.1, c.2, scoreExample ops m context c.1 c.2⟩ : Scored σ)
  let retrieved := (rankExamples scored topK).map (buildRetrieved ops m context)
  ⟨context, retrieved, collectStatistics ops topK candidates.length retrieved⟩

/-- Python's functions as the engine uses them, and the numbers it scores with. -/
structure Platform (σ : Type) where
  lower : String → String
  repr : String → String
  word : WordClass
  ops : ScoreOps σ

def Platform.matcher (p : Platform σ) (knowledge : Option BusinessKnowledgeCatalog) : Matcher :=
  ⟨p.lower, p.repr, p.word, knowledge⟩

/-- An example with the catalog that the knowledge registry, if there is one, holds when its
features are looked up. -/
structure FeatureLookup where
  knowledge : Option BusinessKnowledgeCatalog
  queryExample : QueryExample

def FeatureLookup.features (p : Platform σ) (l : FeatureLookup) : ExampleFeatures :=
  (p.matcher l.knowledge).exampleFeatures l.queryExample

def FeatureLookup.exampleId (l : FeatureLookup) : String := l.queryExample.id

/-- An engine: what its two registries hold, and the features it has kept. -/
structure RetrievalEngine where
  library : QueryExampleLibrary
  knowledge : Option BusinessKnowledgeCatalog
  cache : String → Option ExampleFeatures

def RetrievalEngine.new (library : QueryExampleLibrary)
    (knowledge : Option BusinessKnowledgeCatalog) : RetrievalEngine :=
  ⟨library, knowledge, fun _ => none⟩

namespace RetrievalEngine
variable (p : Platform σ) (engine : RetrievalEngine)

/-- The lookups of one retrieval. Scoring looks each example up; whatever looks it up again finds
what that kept. -/
def featureLookups : List FeatureLookup :=
  engine.library.examples.map fun e => ⟨engine.knowledge, e⟩

def retrieve (context : LinkedContext) (topK : Option Int) :
    Except RetrievalError (RetrievedKnowledgeBundle σ) × RetrievalEngine :=
  let resolvedTopK := topK.getD defaultTopK
  if resolvedTopK ≤ 0 then (.error (.invalidTopK resolvedTopK), engine)
  else
    let r := Memo.consultAll FeatureLookup.exampleId (FeatureLookup.features p) engine.cache
      engine.featureLookups
    (.ok (bundleOf p.ops (p.matcher engine.knowledge) context resolvedTopK.toNat
      (engine.library.examples.zip r.1)), { engine with cache := r.2 })

end RetrievalEngine

end

/-- What happens to an engine: a retrieval, or a registry reads its source again. -/
inductive EngineAction
  | retrieve (context : LinkedContext) (topK : Option Int)
  | refreshLibrary (library : QueryExampleLibrary)
  | refreshKnowledge (catalog : BusinessKnowledgeCatalog)

section
variable [LinearOrder σ] (p : Platform σ)

/-- The results of the retrievals, in order. An engine without a knowledge registry has none to
refresh. -/
def RetrievalEngine.run : RetrievalEngine → List EngineAction →
    List (Except RetrievalError (RetrievedKnowledgeBundle σ))
  | _, [] => []
  | engine, .retrieve context topK :: actions =>
    let r := engine.retrieve p context topK
    r.1 :: run r.2 actions
  | engine, .refreshLibrary library :: actions => run { engine with library := library } actions
  | engine, .refreshKnowledge catalog :: actions =>
    run { engine with knowledge := engine.knowledge.map fun _ => catalog } actions

def freshRun (library : QueryExampleLibrary) (knowledge : Option BusinessKnowledgeCatalog) :
    List EngineAction → List (Except RetrievalError (RetrievedKnowledgeBundle σ))
  | [] => []
  | .retrieve context topK :: actions =>
    ((RetrievalEngine.new library knowledge).retrieve p context topK).1 ::
      freshRun library knowledge actions
  | .refreshLibrary library :: actions => freshRun library knowledge actions
  | .refreshKnowledge catalog :: actions =>
    freshRun library (knowledge.map fun _ => catalog) actions

end

end QueryMind.Retrieval
