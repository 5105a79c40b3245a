import QueryMind.Nlu.Sorting

namespace QueryMind.Nlu
open Lib Lib.Pattern
set_option autoImplicit true

def fieldWord : Pattern Unit := do
  let _ ← lowerWord
  blanks

def filterField : Pattern Unit := do
  upTo 2 fieldWord
  let _ ← lowerWord
  pure ()

/-- `_NUMBER`: digits with a currency symbol, thousands separators and a decimal part. -/
def filterNumber (w : DigitClass) : Pattern Unit := do
  upTo 1 (literal ['$'])
  let _ ← satisfy w.isDigit
  let _ ← greedy fun c => w.isDigit c || c == ','
  upTo 1 (do
    literal ['.']
    plus w.isDigit)

def nextWord : Pattern Unit := do
  let _ ← spacedWord
  pure ()

def filterWords : Pattern Unit := do
  let _ ← lowerWord
  upTo 3 nextWord

/-- What a comparator takes as its value. -/
inductive ValueKind
  | number
  | words
  | wordsOrNumber
  deriving DecidableEq, Repr

def ValueKind.pattern (w : DigitClass) : ValueKind → Pattern Unit
  | .number => filterNumber w
  | .words => filterWords
  | .wordsOrNumber => filterWords.or (filterNumber w)

/-- An entry of `_COMPARATOR_PATTERNS`. -/
structure Comparator where
  phrases : List String
  value : ValueKind
  operator : ComparisonOperator
  deriving DecidableEq, Repr

/-- `(?P<field>…)\s+phrase\s+(?P<value>…)`. -/
def Comparator.pattern (w : DigitClass) (x : Comparator) : Pattern (List Char × List Char) := do
  let field ← group filterField
  blanks
  anyOf ((x.phrases.map String.toList).map literal)
  blanks
  let value ← group (x.value.pattern w)
  pure (field, value)

def comparatorPatterns : List Comparator :=
  [⟨["at least"], .number, .greaterThanOrEqual⟩,
    ⟨["at most"], .number, .lessThanOrEqual⟩,
    ⟨["greater than or equal to"], .number, .greaterThanOrEqual⟩,
    ⟨["less than or equal to"], .number, .lessThanOrEqual⟩,
    ⟨["greater than", "more than", "above", "over"], .number, .greaterThan⟩,
    ⟨["less than", "fewer than", "under", "below"], .number, .lessThan⟩,
    ⟨["not equal to", "not equals", "excluding", "except"], .wordsOrNumber, .notEquals⟩,
    ⟨["equal to", "equals"], .wordsOrNumber, .equals⟩,
    ⟨["containing", "contains", "like", "named"], .words, .contains⟩,
    ⟨["in"], .words, .in⟩]

/-- The punctuation that a value does not end in. -/
def isTrailing (c : Char) : Bool := c == '.' || c == ',' || c == '?' || c == '!'

/-- The filter of a match, where its field is known and its value is not empty. -/
def filterOf (operator : ComparisonOperator) (m : Match (List Char × List Char)) :
    Option FilterExpression := do
  let field ← resolveField m.value.1
  let value := (Text.stripChars m.value.2).rdropWhile isTrailing
  if value = [] then none
  else some ⟨field, operator, .ofList value, .ofList (Text.stripChars m.text)⟩

abbrev Claimed := (Nat × Nat) × FilterExpression

def addFilter (operator : ComparisonOperator) (found : List Claimed)
    (m : Match (List Char × List Char)) : List Claimed :=
  if found.any fun f => overlaps m.span f.1 then found
  else
    match filterOf operator m with
    | some expression => found ++ [(m.span, expression)]
    | none => found

def addComparator (w : DigitClass) (text : List Char) (found : List Claimed) (x : Comparator) :
    List Claimed := (finditer (x.pattern w) text).foldl (addFilter x.operator) found

def findFilters (w : DigitClass) (text : List Char) : List Claimed :=
  comparatorPatterns.foldl (addComparator w text) []

/-- `DefaultFilterExtractor.extract`, in the order of the text. -/
def extractFilters (w : DigitClass) (question : String) : List FilterExpression :=
  ((findFilters w question.toList).insertionSort fun f g => f.1.1 ≤ g.1.1).map Prod.snd

end QueryMind.Nlu
