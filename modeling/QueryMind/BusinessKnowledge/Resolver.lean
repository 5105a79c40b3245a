import Mathlib.Data.List.Infix
import QueryMind.Lib.Text

namespace QueryMind.BusinessKnowledge
open Lib
set_option autoImplicit true

structure BusinessConcept where
  id : String
  name : String
  aliases : List String
  relatedTerms : List String
  deriving DecidableEq, Repr

structure BusinessKnowledgeCatalog where
  concepts : List BusinessConcept
  deriving DecidableEq, Repr

def partialMinLength : Nat := 3

section
variable (lower : String → String)

def normalize (text : String) : String := Text.spaced lower text

/-- A concept's name or one of its aliases contains the term, or is contained in it. -/
def partiallyMatches (normalizedTerm : String) (concept : BusinessConcept) : Bool :=
  (concept.name :: concept.aliases).any fun candidate =>
    normalizedTerm.toList <:+: (normalize lower candidate).toList ||
      (normalize lower candidate).toList <:+: normalizedTerm.toList

/-- `ConceptResolver.resolve`: each tier is tried on the whole catalog before the next. -/
def resolve (catalog : BusinessKnowledgeCatalog) (term : String) : Option BusinessConcept :=
  let normalizedTerm := normalize lower term
  (catalog.concepts.find? fun concept => normalize lower concept.name = normalizedTerm) <|>
    (catalog.concepts.find? fun concept =>
      concept.aliases.any fun text => normalize lower text = normalizedTerm) <|>
    (catalog.concepts.find? fun concept =>
      concept.relatedTerms.any fun related => normalize lower related = normalizedTerm) <|>
    if normalizedTerm.length ≥ partialMinLength then
      catalog.concepts.find? (partiallyMatches lower normalizedTerm)
    else none

end

end QueryMind.BusinessKnowledge
