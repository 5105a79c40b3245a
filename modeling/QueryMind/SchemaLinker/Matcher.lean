import Mathlib.Algebra.Order.Ring.Unbundled.Rat
import Mathlib.Data.Finset.Dedup
import Mathlib.Data.List.Infix
import QueryMind.Lib.Difflib
import QueryMind.Lib.SetOrder
import QueryMind.Lib.Text

namespace QueryMind.SchemaLinker
open Lib
set_option autoImplicit true

/-- The six tiers, best first. -/
inductive MatchTier
  | exact
  | businessDictionary
  | synonym
  | aliasTier
  | fuzzy
  | partialTier
  deriving DecidableEq, Repr

def abbreviations : List (String × String) :=
  [("qty", "quantity"), ("amt", "amount"), ("num", "number"), ("id", "identifier"),
    ("addr", "address"), ("desc", "description"), ("msg", "message"), ("dob", "date of birth"),
    ("pct", "percent"), ("avg", "average"), ("min", "minimum"), ("max", "maximum"),
    ("std", "standard"), ("info", "information")]

def fuzzyThreshold : Rat := 3 / 4

def partialMinLength : Nat := 3

def sibilants : List String := ["s", "x", "z", "ch", "sh"]

def singularize (word : String) : String :=
  if Text.endsWith word "ies" ∧ word.length > 3 then Text.dropEnd word 3 ++ "y"
  else if Text.endsWith word "es" ∧ sibilants.any (Text.endsWith (Text.dropEnd word 2)) then
    Text.dropEnd word 2
  else if Text.endsWith word "s" ∧ ¬Text.endsWith word "ss" then Text.dropEnd word 1
  else word

/-- The letter before the last is looked at; a word of one letter has none, which counts as a
vowel. -/
def pluralize (word : String) : String :=
  if sibilants.any (Text.endsWith word) then word ++ "es"
  else if Text.endsWith word "y" ∧
      (word.toList.reverse[1]?.any fun c => c ∉ ['a', 'e', 'i', 'o', 'u']) then
    Text.dropEnd word 1 ++ "ies"
  else word ++ "s"

/-- A schema object's searchable texts. -/
structure Searchable where
  name : String
  synonyms : List String
  searchKeywords : List String
  displayName : Option String
  deriving DecidableEq, Repr

structure MatchResult where
  tier : MatchTier
  similarity : Rat
  matchedText : String
  deriving DecidableEq, Repr

/-- The element taken of the common elements of two sets, or else what the next tiers find. -/
def reportHit (tier : MatchTier) (hit : Option String) (next : Option MatchResult) :
    Option MatchResult :=
  match hit with
  | some text => some ⟨tier, 1, text⟩
  | none => next

/-- `lower` is Python's `str.lower`; `order` is how the process iterates over sets. -/
structure ConceptMatcher where
  lower : String → String
  order : SetOrder

namespace ConceptMatcher
variable (m : ConceptMatcher)

def normalizeConcept (text : String) : String := Text.spaced m.lower text

/-- The tokens with every abbreviation replaced by its full form, as a set. -/
def canonicalAliasTokens (text : String) : List String :=
  (Text.splitWords (m.normalizeConcept text).toList).flatMap fun token =>
    Text.splitWords ((abbreviations.lookup token).getD token).toList

def conceptForms (concept : String) : List String :=
  [m.normalizeConcept concept, m.normalizeConcept (singularize concept),
    m.normalizeConcept (pluralize concept)]

def dictionaryForms (object : Searchable) : List String :=
  object.searchKeywords.map m.normalizeConcept ++
    (object.displayName.map m.normalizeConcept).toList

def synonymForms (object : Searchable) : List String := object.synonyms.map m.normalizeConcept

def dictionaryHits (concept : String) (object : Searchable) : List String :=
  (m.conceptForms concept).filter (· ∈ m.dictionaryForms object)

def synonymHits (concept : String) (object : Searchable) : List String :=
  (m.conceptForms concept).filter (· ∈ m.synonymForms object)

def searchableTexts (object : Searchable) : List String :=
  object.name :: object.synonyms ++ object.searchKeywords ++
    object.displayName.toList.filter fun name => !name.isEmpty

def bestFuzzyRatio (concept : String) (object : Searchable) : Rat :=
  ((searchableTexts object).map fun text =>
    Difflib.ratio (m.normalizeConcept concept).toList (m.normalizeConcept text).toList).foldl max 0

/-- The best ratio of lengths among the texts that contain the concept or are contained in it. -/
def bestPartialRatio (concept : String) (object : Searchable) : Option Rat :=
  ((searchableTexts object).filterMap fun text =>
    let c := (m.normalizeConcept concept).toList
    let t := (m.normalizeConcept text).toList
    if c <:+: t ∨ t <:+: c then
      some ((min c.length t.length : Nat) / (max c.length t.length : Nat) : Rat)
    else none).foldl (fun best ratio => match best with
      | none => some ratio
      | some b => some (if ratio > b then ratio else b)) none

def approximateMatch (concept : String) (object : Searchable) : Option MatchResult :=
  if m.bestFuzzyRatio concept object ≥ fuzzyThreshold then
    some ⟨.fuzzy, m.bestFuzzyRatio concept object, object.name⟩
  else if (m.normalizeConcept concept).length ≥ partialMinLength then
    (m.bestPartialRatio concept object).map fun ratio => ⟨.partialTier, ratio, object.name⟩
  else none

def matchName (concept : String) (object : Searchable) : Option MatchResult :=
  if (m.canonicalAliasTokens concept).toFinset = (m.canonicalAliasTokens object.name).toFinset
  then some ⟨.aliasTier, 1, object.name⟩
  else m.approximateMatch concept object

/-- `ConceptMatcher.match`: the first tier that matches. -/
def matchObject (concept : String) (object : Searchable) : Option MatchResult :=
  if m.normalizeConcept object.name ∈ m.conceptForms concept then
    some ⟨.exact, 1, object.name⟩
  else
    reportHit .businessDictionary (m.order.first (m.dictionaryHits concept object))
      (reportHit .synonym (m.order.first (m.synonymHits concept object))
        (m.matchName concept object))

/-- The same matcher in a process that iterates over sets in another order. -/
def inOrder (order : SetOrder) : ConceptMatcher := { m with order := order }

/-- The set that a match reports an element of, if it does, has one element. -/
def Settled (concept : String) (object : Searchable) : Prop :=
  m.normalizeConcept object.name ∈ m.conceptForms concept ∨
    (∀ text ∈ m.dictionaryHits concept object, ∀ text' ∈ m.dictionaryHits concept object,
      text = text') ∧
    (m.dictionaryHits concept object = [] →
      ∀ text ∈ m.synonymHits concept object, ∀ text' ∈ m.synonymHits concept object,
        text = text')

instance (concept : String) (object : Searchable) : Decidable (m.Settled concept object) :=
  inferInstanceAs (Decidable (_ ∨ _ ∧ (_ → _)))

end ConceptMatcher

theorem reportHit_order_free_iff (tier : MatchTier) (hits : List String)
    (rest : SetOrder → Option MatchResult) :
    (∀ order order' : SetOrder, reportHit tier (order.first hits) (rest order) =
        reportHit tier (order'.first hits) (rest order')) ↔
      (∀ text ∈ hits, ∀ text' ∈ hits, text = text') ∧
        (hits = [] → ∀ order order' : SetOrder, rest order = rest order') := by
  rw [← SetOrder.first_order_free_iff]
  constructor
  · intro h
    refine ⟨?_, ?_⟩
    · intro order order'
      have he := h order order'
      cases hits with
      | nil => rw [SetOrder.first_nil, SetOrder.first_nil]
      | cons text hits =>
        obtain ⟨t, ht⟩ := Option.isSome_iff_exists.1 (order.isSome _ (List.cons_ne_nil text hits))
        obtain ⟨t', ht'⟩ :=
          Option.isSome_iff_exists.1 (order'.isSome _ (List.cons_ne_nil text hits))
        rw [ht, ht'] at he ⊢
        exact congrArg some (MatchResult.mk.inj (Option.some.inj he)).2.2
    · intro hn order order'
      have he := h order order'
      rw [hn, SetOrder.first_nil, SetOrder.first_nil] at he
      exact he
  · intro h order order'
    rw [h.1 order order']
    cases hf : order'.first hits with
    | some text => rfl
    | none =>
      have hn : hits = [] := by
        by_contra hne
        have hs := order'.isSome _ hne
        rw [hf] at hs
        cases hs
      exact h.2 hn order order'

namespace ConceptMatcher

/-- A match is the same in every process just when no set with two common elements is asked for
one of them. -/
theorem matchObject_order_free_iff (m : ConceptMatcher) (concept : String) (object : Searchable) :
    (∀ order order' : SetOrder, (m.inOrder order).matchObject concept object =
        (m.inOrder order').matchObject concept object) ↔ m.Settled concept object := by
  by_cases hn : m.normalizeConcept object.name ∈ m.conceptForms concept
  · refine iff_of_true ?_ (Or.inl hn)
    intro order order'
    exact (if_pos hn).trans (if_pos hn).symm
  · have hm (order : SetOrder) : (m.inOrder order).matchObject concept object =
        reportHit .businessDictionary (order.first (m.dictionaryHits concept object))
          (reportHit .synonym (order.first (m.synonymHits concept object))
            (m.matchName concept object)) := if_neg hn
    simp only [hm]
    rw [reportHit_order_free_iff .businessDictionary _ fun order =>
      reportHit .synonym (order.first (m.synonymHits concept object)) (m.matchName concept object)]
    rw [reportHit_order_free_iff .synonym _ fun _ => m.matchName concept object]
    rw [Settled, or_iff_right hn]
    simp only [implies_true, and_true]

/-- A column found by the singular and by the plural of its concept. -/
def buyerColumn : Searchable := ⟨"buyer", [], ["customer", "customers"], none⟩

/-- One process reports the singular, another one the plural. -/
theorem buyer_order_dependent :
    matchObject ⟨Text.lower, .preferring "customer"⟩ "customer" buyerColumn =
        some ⟨.businessDictionary, 1, "customer"⟩ ∧
      matchObject ⟨Text.lower, .preferring "customers"⟩ "customer" buyerColumn =
        some ⟨.businessDictionary, 1, "customers"⟩ ∧
      ¬ ∀ (m : ConceptMatcher) (concept : String) (object : Searchable) (order order' : SetOrder),
        (m.inOrder order).matchObject concept object =
          (m.inOrder order').matchObject concept object := by
  have hsingular : matchObject ⟨Text.lower, .preferring "customer"⟩ "customer" buyerColumn =
      some ⟨.businessDictionary, 1, "customer"⟩ := by decide +kernel
  have hplural : matchObject ⟨Text.lower, .preferring "customers"⟩ "customer" buyerColumn =
      some ⟨.businessDictionary, 1, "customers"⟩ := by decide +kernel
  refine ⟨hsingular, hplural, ?_⟩
  intro h
  have he := h ⟨Text.lower, listOrder⟩ "customer" buyerColumn (.preferring "customer")
    (.preferring "customers")
  have hne : some (MatchResult.mk .businessDictionary 1 "customer") =
      some ⟨.businessDictionary, 1, "customers"⟩ := hsingular.symm.trans (he.trans hplural)
  exact absurd hne (by decide)

end ConceptMatcher

end QueryMind.SchemaLinker
