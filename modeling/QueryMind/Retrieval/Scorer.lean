import QueryMind.Retrieval.Matcher

namespace QueryMind.Retrieval
open Lib SchemaLinker
set_option autoImplicit true

inductive SignalName
  | intentSimilarity
  | businessConceptOverlap
  | schemaOverlap
  | tableOverlap
  | columnOverlap
  | sqlFeatureOverlap
  | keywordOverlap
  | difficultySimilarity
  deriving DecidableEq, Repr

/-- The signal's value, its underscores replaced by blanks. -/
def SignalName.label : SignalName → String
  | .intentSimilarity => "intent similarity"
  | .businessConceptOverlap => "business concept overlap"
  | .schemaOverlap => "schema overlap"
  | .tableOverlap => "table overlap"
  | .columnOverlap => "column overlap"
  | .sqlFeatureOverlap => "sql feature overlap"
  | .keywordOverlap => "keyword overlap"
  | .difficultySimilarity => "difficulty similarity"

/-- The operations on numbers that scores are computed with: those of floating point, whose `sum`
is not that of its `add`, or exact ones. -/
structure ScoreOps (σ : Type) where
  literal : Rat → σ
  quotient : Nat → Nat → σ
  add : σ → σ → σ
  sum : List σ → σ
  sub : σ → σ → σ
  mul : σ → σ → σ
  divideBy : σ → Nat → σ
  twoPlaces : σ → String

structure SignalResult (σ : Type) where
  score : σ
  detail : String
  deriving DecidableEq

structure SignalBreakdown (σ : Type) where
  signal : SignalName
  score : σ
  weight : σ
  weightedScore : σ
  detail : String
  deriving DecidableEq

structure RetrievalScore (σ : Type) where
  overallScore : σ
  signalScores : List (SignalBreakdown σ)
  rankingReason : String
  deriving DecidableEq

/-- A signal measures an example, with the features derived from it, against a question. -/
structure Signal (σ : Type) where
  name : SignalName
  compute : LinkedContext → QueryExample → ExampleFeatures → SignalResult σ

def sorted (names : Finset String) : List String := names.sort

def joinSorted (names : Finset String) : String := ", ".intercalate (sorted names)

section
variable (ops : ScoreOps σ)

def jaccard (left right : Finset String) : σ :=
  if left ∪ right = ∅ then ops.literal 0
  else ops.quotient (left ∩ right).card (left ∪ right).card

/-- An overlap of two sets of things that are called `noun` in its detail. -/
def overlapSignal (name : SignalName) (noun : String) (ofContext : LinkedContext → Finset String)
    (ofExample : ExampleFeatures → Finset String) : Signal σ where
  name := name
  compute context _ features :=
    let matched := ofContext context ∩ ofExample features
    ⟨jaccard ops (ofContext context) (ofExample features),
      if matched = ∅ then "No shared " ++ noun ++ "s."
      else matched.card.repr ++ " shared " ++ noun ++ "(s): " ++ joinSorted matched ++ "."⟩

def intentSimilaritySignal (m : Matcher) : Signal σ where
  name := .intentSimilarity
  compute context e _ :=
    let queryIntent := context.queryContext.intent.value
    let exampleIntent := m.lower (Text.strip e.intent)
    if queryIntent = exampleIntent then
      ⟨ops.literal 1, "Intent matches: " ++ m.repr queryIntent ++ "."⟩
    else
      ⟨ops.literal 0, "Intent differs: query is " ++ m.repr queryIntent ++ ", example is " ++
        m.repr exampleIntent ++ "."⟩

def businessConceptOverlapSignal (m : Matcher) : Signal σ :=
  overlapSignal ops .businessConceptOverlap "business concept" m.contextBusinessConcepts
    ExampleFeatures.conceptSet

def schemaOverlapSignal : Signal σ :=
  overlapSignal ops .schemaOverlap "schema object" contextSchemaObjects
    ExampleFeatures.schemaObjectSet

def tableOverlapSignal : Signal σ :=
  overlapSignal ops .tableOverlap "table" contextTables ExampleFeatures.tableSet

def columnOverlapSignal : Signal σ :=
  overlapSignal ops .columnOverlap "column" contextColumns ExampleFeatures.columnSet

def keywordOverlapSignal (m : Matcher) : Signal σ :=
  overlapSignal ops .keywordOverlap "keyword" m.contextKeywords ExampleFeatures.keywordSet

end

/-- Whether a small letter matches a character when case is ignored. -/
def matchesLetter (letter c : Char) : Bool :=
  c.toLower == letter || (letter == 'i' && (c == 'İ' || c == 'ı')) || (letter == 's' && c == 'ſ')

def letters (text : String) : Pattern Unit := .classes (text.toList.map matchesLetter)

section
open Pattern

def wordPattern (w : WordClass) (word : String) : Pattern Unit := do
  boundary w
  letters word
  boundary w

def byPattern (w : WordClass) (first : String) : Pattern Unit := do
  boundary w
  letters first
  plus Text.isSpace
  letters "by"
  boundary w

def aggregatePattern (w : WordClass) : Pattern Unit := do
  boundary w
  anyOf (["sum", "count", "avg", "min", "max"].map letters)
  let _ ← greedy Text.isSpace
  literal ['(']

def sqlFeatureRules (w : WordClass) : List (String × Pattern Unit) :=
  [("JOIN", wordPattern w "join"), ("GROUP BY", byPattern w "group"),
    ("ORDER BY", byPattern w "order"), ("LIMIT", wordPattern w "limit"),
    ("WHERE", wordPattern w "where"), ("aggregate function", aggregatePattern w),
    ("HAVING", wordPattern w "having")]

end

/-- An aggregation of the question, or of one of its metrics. -/
def impliesAggregation (context : LinkedContext) : Bool :=
  context.queryContext.aggregation.isSome || context.metrics.any (·.item.aggregation.isSome)

def expectedFeatures (context : LinkedContext) : Finset String :=
  ((if 1 < (resolvedTableNames context).length ∨
      context.relationshipPaths.any (fun paths => !paths.isEmpty) then ["JOIN"] else []) ++
    (if context.dimensions ≠ [] ∨ impliesAggregation context then ["GROUP BY"] else []) ++
    (if impliesAggregation context then ["aggregate function"] else []) ++
    (if context.sort.isSome then ["ORDER BY"] else []) ++
    (if context.queryContext.limit.isSome then ["LIMIT"] else []) ++
    (if context.filters ≠ [] then ["WHERE"] else [])).toFinset

def presentFeatures (w : WordClass) (goldSql : String) : Finset String :=
  ((sqlFeatureRules w).filterMap fun rule =>
    (rule.2.search goldSql.toList).map fun _ => rule.1).toFinset

def Difficulty.index : Difficulty → Nat
  | .beginner => 0
  | .intermediate => 1
  | .advanced => 2
  | .expert => 3

def Difficulty.value : Difficulty → String
  | .beginner => "beginner"
  | .intermediate => "intermediate"
  | .advanced => "advanced"
  | .expert => "expert"

def complexityPoints (context : LinkedContext) : Nat :=
  ((resolvedTableNames context).length - 1) +
    (if impliesAggregation context then 1 else 0) +
    (if context.dimensions ≠ [] then 1 else 0) +
    (if context.sort.isSome then 1 else 0) +
    (if 1 < context.filters.length then 1 else 0) +
    (if context.queryContext.timeExpression.isSome then 1 else 0) +
    (if context.ambiguities ≠ [] then 1 else 0)

def impliedDifficulty (context : LinkedContext) : Difficulty :=
  let points := complexityPoints context
  if points < 2 then .beginner
  else if points < 4 then .intermediate
  else if points < 6 then .advanced
  else .expert

section
variable [LinearOrder σ] (ops : ScoreOps σ) (m : Matcher)

def sqlFeatureOverlapSignal : Signal σ where
  name := .sqlFeatureOverlap
  compute context e _ :=
    let expected := expectedFeatures context
    let matched := expected ∩ presentFeatures m.word e.goldSql
    if expected = ∅ then
      ⟨ops.literal 1, "Question implies no particular SQL structure."⟩
    else
      ⟨ops.quotient matched.card expected.card,
        if matched = ∅ then
          "None of the " ++ expected.card.repr ++
            " expected SQL feature(s) were found in gold_sql."
        else
          matched.card.repr ++ "/" ++ expected.card.repr ++
            " expected SQL feature(s) present: " ++ joinSorted matched ++ "."⟩

def difficultySimilaritySignal : Signal σ where
  name := .difficultySimilarity
  compute context e _ :=
    let implied := impliedDifficulty context
    let distance := max implied.index e.difficulty.index - min implied.index e.difficulty.index
    ⟨max (ops.literal 0) (ops.sub (ops.literal 1) (ops.quotient distance 3)),
      "Question implies " ++ m.repr implied.value ++ " difficulty; example is " ++
        m.repr e.difficulty.value ++ " (" ++ distance.repr ++ " step(s) apart)."⟩

def defaultSignals : List (Signal σ) :=
  [intentSimilaritySignal ops m, businessConceptOverlapSignal ops m, schemaOverlapSignal ops,
    tableOverlapSignal ops, columnOverlapSignal ops, sqlFeatureOverlapSignal ops m,
    keywordOverlapSignal ops m, difficultySimilaritySignal ops m]

def defaultSignalWeight : SignalName → Rat
  | .businessConceptOverlap => 20 / 100
  | .tableOverlap => 15 / 100
  | .columnOverlap => 15 / 100
  | .intentSimilarity => 15 / 100
  | .schemaOverlap => 10 / 100
  | .sqlFeatureOverlap => 10 / 100
  | .keywordOverlap => 10 / 100
  | .difficultySimilarity => 5 / 100

/-- The two contributing signals of the greatest weighted scores. -/
def buildRankingReason (breakdown : List (SignalBreakdown σ)) : String :=
  let contributing := breakdown.filter fun entry => decide (ops.literal 0 < entry.score)
  if contributing.isEmpty then
    "No signals matched; this is a low-confidence, fallback-only candidate."
  else
    let top := (contributing.insertionSort fun a b => b.weightedScore ≤ a.weightedScore).take 2
    "Strongest match on " ++ " and ".intercalate
      (top.map fun entry => entry.signal.label ++ " (" ++ ops.twoPlaces entry.score ++ ")") ++ "."

/-- `RetrievalScorer.score`, of an example with its features. -/
def scoreExample (context : LinkedContext) (e : QueryExample) (features : ExampleFeatures) :
    RetrievalScore σ :=
  let breakdown := (defaultSignals ops m).map fun signal =>
    let result := signal.compute context e features
    let weight := ops.literal (defaultSignalWeight signal.name)
    (⟨signal.name, result.score, weight, ops.mul result.score weight, result.detail⟩ :
      SignalBreakdown σ)
  ⟨min (ops.literal 1) (ops.sum (breakdown.map (·.weightedScore))),
    breakdown, buildRankingReason ops breakdown⟩

end

end QueryMind.Retrieval
