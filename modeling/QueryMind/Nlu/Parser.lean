import QueryMind.Nlu.Filters
import QueryMind.Nlu.Limits

namespace QueryMind.Nlu
open Lib Lib.Calendar Lib.Pattern
set_option autoImplicit true

def contractions : List (String × String) :=
  [("what's", "what is"), ("who's", "who is"), ("how's", "how is"), ("where's", "where is"),
    ("let's", "let us"), ("don't", "do not"), ("doesn't", "does not"), ("didn't", "did not"),
    ("isn't", "is not"), ("aren't", "are not"), ("wasn't", "was not"), ("weren't", "were not"),
    ("can't", "cannot"), ("won't", "will not"), ("i'm", "i am"), ("it's", "it is"),
    ("there's", "there is")]

def trailingPunctuation : Pattern Unit := do
  plus fun c => c == '?' || c == '!' || c == '.'
  endOfText

def normalizeQuestion (w : WordClass) (toLower : String → String) (question : String) : String :=
  let text := sub trailingPunctuation [] (toLower (Text.strip question)).toList
  let text := contractions.foldl (fun text c => sub (phrasePattern w c.1) c.2.toList text) text
  let text := sub blanks [' '] text
  .ofList (Text.stripChars text)

/-- An intent with the confidence of the rule that found it, in hundredths. -/
structure IntentMatch where
  intent : Intent
  confidence : Nat
  deriving DecidableEq, Repr

section
variable (w : DigitClass)

def countPattern (verb : String) : Pattern Unit := do
  boundary w.toWordClass
  literal verb.toList
  blanks
  plus w.isDigit
  boundary w.toWordClass

/-- A phrase of two parts that may have a piece between them. -/
def optionalPattern (stem piece rest : String) : Pattern Unit := do
  boundary w.toWordClass
  literal stem.toList
  upTo 1 (literal piece.toList)
  literal rest.toList
  boundary w.toWordClass

def phrases (texts : List String) : List (Pattern Unit) := texts.map (phrasePattern w.toWordClass)

def intentRules : List (Intent × List (Pattern Unit) × Nat) :=
  [(.topN, ["top", "bottom", "first", "best", "worst"].map (countPattern w), 95),
    (.trend, phrases w ["trend", "trending", "over time", "month over month", "year over year",
      "growth", "change over"], 90),
    (.comparison, phrases w ["compare", "comparison", "versus"] ++ optionalPattern w "vs" "." "" ::
      phrases w ["difference between"], 90),
    (.count, phrases w ["how many", "count of", "number of", "count"], 90),
    (.average, phrases w ["average", "avg", "mean"], 90),
    (.sum, phrases w ["total", "sum of", "sum"], 85),
    (.max, phrases w ["maximum", "highest", "most expensive", "largest"] ++
      [superlativePattern w.toWordClass "most"], 85),
    (.min, phrases w ["minimum", "lowest", "cheapest", "smallest"] ++
      [superlativePattern w.toWordClass "least"], 85),
    (.aggregation, phrases w ["by region", "by category", "by month", "by year", "broken down"] ++
      optionalPattern w "group" "ed" " by" :: phrases w ["per"], 75),
    (.detail, phrases w ["show me", "show", "list"] ++ optionalPattern w "detail" "s" " of" ::
      phrases w ["who is", "what is", "which"], 60)]

def classifyBy (text : List Char) : List (Intent × List (Pattern Unit) × Nat) → IntentMatch
  | [] => ⟨.select, 40⟩
  | (intent, patterns, confidence) :: rules =>
    if patterns.any fun p => (search p text).isSome then ⟨intent, confidence⟩
    else classifyBy text rules

def classify (question : String) : IntentMatch := classifyBy question.toList (intentRules w)

end

def intentAggregation : List (Intent × AggregationType) :=
  [(.count, .count), (.sum, .sum), (.average, .average), (.min, .min), (.max, .max)]

def resolveAggregation (intent : Intent) (metrics : List MetricExpression) :
    Option AggregationType :=
  match intentAggregation.lookup intent with
  | some aggregation => some aggregation
  | none =>
    if intent = .aggregation then
      match metrics.findSome? MetricExpression.aggregation with
      | some aggregation => some aggregation
      | none => if metrics = [] then none else some .sum
    else none

def ordered (concepts : List String) : List String :=
  concepts.foldl (fun seen concept => if concept ∈ seen then seen else seen ++ [concept]) []

def collectBusinessConcepts (entities : EntityExtractionResult) (metrics : List MetricExpression)
    (filters : List FilterExpression) : List String :=
  ordered (entities.primaryEntity.toList ++ entities.secondaryEntities ++ entities.dimensions ++
    metrics.map MetricExpression.name ++ filters.map FilterExpression.field)

def computeConfidence (intentConfidence : Nat) (hasEntity hasMetric hasFilter hasTime : Bool) :
    Nat :=
  let score := intentConfidence
  let score := if hasEntity then score + 5 else score
  let score := if hasMetric then score + 5 else score
  let score := if hasFilter then score + 3 else score
  let score := if hasTime then score + 2 else score
  min score 100

/-- A context with its score in hundredths; the model rejects more than one. -/
structure ScoredContext extends QueryContext where
  confidence : Nat
  confidence_le : confidence ≤ 100
  deriving DecidableEq, Repr

def scoredContext (c : QueryContext) (confidence : Nat) : Except ParseError ScoredContext :=
  if h : confidence ≤ 100 then .ok ⟨c, confidence, h⟩ else .error (.validationError "confidence")

/-- `QueryParser.parse` with the default stages, on some day. -/
def parse (w : DigitClass) (toLower : String → String) (today : Date) (question : String) :
    Except ParseError ScoredContext :=
  if (Text.strip question).toList = [] then
    .error (.emptyQuestionError "question must not be empty")
  else do
    let normalized := normalizeQuestion w.toWordClass toLower question
    let intent := classify w normalized
    let entities := extractEntities w.toWordClass normalized
    let metrics := extractMetrics w.toWordClass normalized
    let filters := extractFilters w normalized
    let time ← (extractTime w today normalized).mapError .dateError
    let sort := extractSort w.toWordClass normalized metrics
    let limit ← extractLimit w normalized
    scoredContext
      { originalQuestion := question
        normalizedQuestion := normalized
        intent := intent.intent
        primaryEntity := entities.primaryEntity
        secondaryEntities := entities.secondaryEntities
        businessConcepts := collectBusinessConcepts entities metrics filters
        metrics := metrics
        dimensions := entities.dimensions
        filters := filters
        timeExpression := time
        sort := sort
        limit := limit
        aggregation := resolveAggregation intent.intent metrics }
      (computeConfidence intent.confidence entities.primaryEntity.isSome (!metrics.isEmpty)
        (!filters.isEmpty) time.isSome)

theorem computeConfidence_le (n : Nat) (e m f t : Bool) : computeConfidence n e m f t ≤ 100 :=
  Nat.min_le_right _ _

theorem parse_ok_stages (h : (Text.strip question).toList ≠ []) :
    (∃ c, parse w toLower today question = .ok c) ↔
      (∃ t, extractTime w today (normalizeQuestion w.toWordClass toLower question) = .ok t) ∧
        ∃ l, extractLimit w (normalizeQuestion w.toWordClass toLower question) = .ok l := by
  rw [parse, if_neg h]
  dsimp only
  cases extractTime w today (normalizeQuestion w.toWordClass toLower question) with
  | error e =>
    rw [Except.mapError, error_bind]
    exact iff_of_false (not_ok_of_error rfl) fun hs => not_ok_of_error rfl hs.1
  | ok t =>
    rw [Except.mapError, ok_bind]
    cases extractLimit w (normalizeQuestion w.toWordClass toLower question) with
    | error e =>
      rw [error_bind]
      exact iff_of_false (not_ok_of_error rfl) fun hs => not_ok_of_error rfl hs.2
    | ok l =>
      rw [ok_bind, scoredContext, dif_pos (computeConfidence_le _ _ _ _ _)]
      exact iff_of_true ⟨_, rfl⟩ ⟨⟨t, rfl⟩, ⟨l, rfl⟩⟩

/-- A question that is not blank is parsed exactly where the limit that it states first is a
positive number of at most 4300 digits, and where the window it asks for is in the calendar; on a
day of the years between 2 and 9998 all windows are. -/
theorem parse_ok_iff (w : DigitClass) (toLower : String → String) {today : Date}
    (hday : Valid today) (question : String) (h : (Text.strip question).toList ≠ []) :
    ((∃ c, parse w toLower today question = .ok c) ↔
      LimitReadable w (normalizeQuestion w.toWordClass toLower question).toList ∧
        ¬ WindowLost w today (normalizeQuestion w.toWordClass toLower question).toList) ∧
      (2 ≤ today.year → today.year < maxYear →
        ¬ WindowLost w today (normalizeQuestion w.toWordClass toLower question).toList) := by
  constructor
  · rw [parse_ok_stages h, extractTime_ok_iff hday, extractLimit_ok_iff, and_comm]
  · intro hy hy'
    exact not_windowLost hday hy hy'

theorem parse_ok_iff_top_five :
    LimitReadable asciiDigits (normalizeQuestion asciiWord Text.lower "top 5").toList ∧
      ¬ WindowLost asciiDigits ⟨2024, 5, 17⟩
          (normalizeQuestion asciiWord Text.lower "top 5").toList :=
  have hday : Valid ⟨2024, 5, 17⟩ := by decide
  have hne : (Text.strip "top 5").toList ≠ [] := by decide
  have hok : (parse asciiDigits Text.lower ⟨2024, 5, 17⟩ "top 5").toOption.isSome = true := by
    decide +kernel
  have hparse : ∃ c, parse asciiDigits Text.lower ⟨2024, 5, 17⟩ "top 5" = .ok c := by
    cases hp : parse asciiDigits Text.lower ⟨2024, 5, 17⟩ "top 5" with
    | ok c => exact ⟨c, rfl⟩
    | error e =>
      rw [hp] at hok
      cases hok
  (parse_ok_iff asciiDigits Text.lower hday "top 5" hne).1.1 hparse

theorem parse_top_zero :
    (Text.strip "top 0 customers").toList ≠ [] ∧
      parse asciiDigits Text.lower ⟨2024, 5, 17⟩ "top 0 customers" =
        .error (.validationError "value") := by
  constructor <;> decide +kernel

end QueryMind.Nlu
