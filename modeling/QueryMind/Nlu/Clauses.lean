import QueryMind.Nlu.Comparators

namespace QueryMind.Nlu
open Lib Lib.Pattern
set_option autoImplicit true

def vocabulary : List (String × String) := metricSynonyms ++ (dimensionSynonyms ++ entitySynonyms)

def keywords : List (List Char) :=
  ["at", "least", "most", "greater", "than", "or", "equal", "to", "less", "more", "above", "over",
    "fewer", "under", "below", "not", "equals", "excluding", "except", "containing", "contains",
    "like", "named", "in"].map String.toList

theorem vocabulary_words :
    ∀ p ∈ vocabulary, ∀ t ∈ wordsOf p.1, IsWord t ∧ t ∉ keywords := by decide +kernel

theorem vocabulary_length : ∀ p ∈ vocabulary, (wordsOf p.1).length ≤ 3 := by decide +kernel

theorem vocabulary_and : ∀ p ∈ vocabulary, ¬ "and".toList <+: p.1.toList := by decide +kernel

theorem phrases_keywords :
    ∀ x ∈ comparatorPatterns, ∀ p ∈ x.phrases, ∀ t ∈ wordsOf p, t ∈ keywords := by decide +kernel

theorem phrases_inside :
    ∀ x ∈ comparatorPatterns, ∀ p ∈ x.phrases, ∀ y ∈ comparatorPatterns, ∀ q ∈ y.phrases,
      ∀ t ∈ (wordsOf q).tails, wordsOf p <+: t →
        t.length = (wordsOf p).length ∨ x.value = .number := by
  decide +kernel

theorem phrases_apart :
    ∀ x ∈ comparatorPatterns, ∀ p ∈ x.phrases, ∀ q ∈ x.phrases,
      wordsOf p <:+ wordsOf q → p = q := by
  decide +kernel

theorem phrases_order :
    comparatorPatterns.Pairwise fun x y =>
      ∀ p ∈ x.phrases, ∀ q ∈ y.phrases, ¬ wordsOf p <:+ wordsOf q := by
  decide +kernel

theorem mem_vocabulary (h : knownField field = some canonical) :
    (field, canonical) ∈ vocabulary := by
  rw [knownField, ← List.lookup_append, ← List.lookup_append] at h
  exact mem_of_lookup h

/-- `field comparator value`: a field of the vocabulary and a number, or a word where the
comparator allows it. -/
structure Clause (w : DigitClass) where
  field : String
  canonical : String
  known : knownField field = some canonical
  comparator : Comparator
  listed : comparator ∈ comparatorPatterns
  phrase : String
  phrase_mem : phrase ∈ comparator.phrases
  value : List Char
  value_read : IsNumber w value ∨ comparator.value ≠ .number ∧ IsWord value

def Clause.text (c : Clause w) : List Char :=
  c.field.toList ++ (' ' :: (c.phrase.toList ++ (' ' :: c.value)))

def conjunction (cs : List (Clause w)) : String :=
  .ofList (" and ".toList.intercalate (cs.map Clause.text))

def FilterExpression.reading (e : FilterExpression) : String × ComparisonOperator × String :=
  (e.field, e.operator, e.value)

def Clause.reading (c : Clause w) : String × ComparisonOperator × String :=
  (c.canonical, c.comparator.operator, .ofList c.value)

/-- No comparator for words alone has a number, and only the last clause has a word. -/
def Separable (cs : List (Clause w)) : Prop :=
  (∀ c ∈ cs, IsNumber w c.value → c.comparator.value ≠ .words) ∧
    ∀ c ∈ cs.dropLast, IsNumber w c.value

end QueryMind.Nlu
