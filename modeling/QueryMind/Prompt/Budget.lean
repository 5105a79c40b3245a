import QueryMind.Prompt.Models
import Mathlib.Algebra.GroupWithZero.Nat

namespace QueryMind.Prompt
open Lib
set_option autoImplicit true

def charsPerToken : Nat := 4

def truncationMarker : String := "\n...[truncated to fit token budget]"

def estimateTokens (text : String) : Nat := (text.length + charsPerToken - 1) / charsPerToken

theorem estimateTokens_le (h : s.length ≤ charsPerToken * n) : estimateTokens s ≤ n := by
  rw [charsPerToken] at h
  rw [estimateTokens, charsPerToken]
  omega

theorem le_estimateTokens (h : charsPerToken * n ≤ s.length) : n ≤ estimateTokens s := by
  rw [charsPerToken] at h
  rw [estimateTokens, charsPerToken]
  omega

def totalTokens (sections : List PromptSection) : Nat := (sections.map (·.estimatedTokens)).sum

structure PromptBudgetManager where
  maxTokens : Nat
  maxTokens_pos : 0 < maxTokens

def defaultBudget : PromptBudgetManager := ⟨4000, by decide⟩

/-- A section cut down or emptied, and the tokens this frees. -/
def shrinkOrDrop (s : PromptSection) (excessTokens : Nat) : PromptSection × Nat :=
  if s.estimatedTokens ≤ excessTokens then
    ({ s with content := "", estimatedTokens := 0, exampleIds := [], schemaObjects := [] },
      s.estimatedTokens)
  else
    let targetTokens := s.estimatedTokens - excessTokens
    let truncated := Text.rstrip (Text.take s.content (targetTokens * charsPerToken)) ++
      truncationMarker
    let newTokens := estimateTokens truncated
    ({ s with content := truncated, estimatedTokens := newTokens },
      s.estimatedTokens - newTokens)

@[simp] theorem shrinkOrDrop_name (s : PromptSection) (excess : Nat) :
    (shrinkOrDrop s excess).1.name = s.name := by
  rw [shrinkOrDrop]
  split <;> rfl

/-- The trim loop: the sections by name and the running total. -/
def trimLoop (maxTokens : Nat) : List PromptSection → (SectionName → Option PromptSection) → Nat →
    (SectionName → Option PromptSection)
  | [], working, _ => working
  | s :: rest, working, total =>
    if total ≤ maxTokens then working
    else
      let (trimmed, freed) := shrinkOrDrop s (total - maxTokens)
      trimLoop maxTokens rest (fun n => if n = s.name then some trimmed else working n)
        (total - freed)

theorem trimLoop_cons (s : PromptSection) (rest : List PromptSection) :
    trimLoop maxTokens (s :: rest) working total =
      if total ≤ maxTokens then working
      else trimLoop maxTokens rest
        (fun n => if n = s.name then some (shrinkOrDrop s (total - maxTokens)).1 else working n)
        (total - (shrinkOrDrop s (total - maxTokens)).2) := rfl

theorem trimLoop_other (h : n ∉ order.map PromptSection.name) :
    trimLoop maxTokens order working total n = working n := by
  induction order generalizing working total with
  | nil => rfl
  | cons s rest ih =>
    rw [List.map_cons, List.mem_cons, not_or] at h
    rw [trimLoop_cons]
    split
    · rfl
    · rw [ih h.2, if_neg h.1]

/-- The sections by name; of two with one name the later counts. -/
def byName (sections : List PromptSection) (n : SectionName) : Option PromptSection :=
  sections.reverse.find? (fun s => s.name = n)

def trimOrder (sections : List PromptSection) : List PromptSection :=
  (sections.filter (fun s => !s.isRequired)).insertionSort (fun a b => a.priority ≤ b.priority)

def PromptBudgetManager.enforce (m : PromptBudgetManager) (sections : List PromptSection) :
    List PromptSection :=
  let total := totalTokens sections
  if total ≤ m.maxTokens then sections
  else
    let working := trimLoop m.maxTokens (trimOrder sections) (byName sections) total
    sections.filterMap (fun s => working s.name)

theorem enforce_of_fits {m : PromptBudgetManager} (h : totalTokens sections ≤ m.maxTokens) :
    m.enforce sections = sections := by
  rw [PromptBudgetManager.enforce]
  exact if_pos h

end QueryMind.Prompt
