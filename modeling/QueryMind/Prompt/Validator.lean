import QueryMind.Prompt.Budget

namespace QueryMind.Prompt
open Lib Sql
set_option autoImplicit true

structure PromptValidationIssue where
  rule : String
  severity : ValidationSeverity
  message : String
  «section» : Option SectionName
  deriving DecidableEq, Repr

structure PromptValidationReport where
  issues : List PromptValidationIssue
  deriving DecidableEq, Repr

def PromptValidationReport.isValid (r : PromptValidationReport) : Bool :=
  !r.issues.any (fun issue => issue.severity = .error)

structure PromptValidator where
  maxTokens : Nat

def requiredSections : List SectionName := [.system, .constraint, .outputFormat]

def errorIssue (rule message : String) (name : Option SectionName) : PromptValidationIssue :=
  ⟨rule, .error, message, name⟩

section
variable (repr : String → String) (sections : List PromptSection)

def checkNotEmpty : List PromptValidationIssue :=
  if (Text.strip (String.join (sections.map (·.content)))).isEmpty then
    [errorIssue "not_empty" "The compiled prompt has no content in any section." none]
  else []

def checkRequiredSectionsExist : List PromptValidationIssue :=
  (requiredSections.filter (fun n => n ∉ sections.map (·.name))).map (fun n =>
    errorIssue "required_sections_exist" ("Required section " ++ repr n.value ++ " is missing.")
      (some n))

def duplicates : List String → List String → List String
  | _, [] => []
  | seen, id :: ids =>
    if id ∈ seen then id :: duplicates seen ids else duplicates (id :: seen) ids

def checkNoDuplicateExamples : List PromptValidationIssue :=
  (sections.filter (fun s => s.name = .retrievedExamples)).flatMap (fun s =>
    (duplicates [] s.exampleIds).map (fun id =>
      errorIssue "no_duplicate_examples" ("Example " ++ repr id ++
        " appears more than once in the retrieved examples section.") (some .retrievedExamples)))

def PromptValidator.checkTokenBudget (v : PromptValidator) : List PromptValidationIssue :=
  let total := totalTokens sections
  if total ≤ v.maxTokens then []
  else
    [errorIssue "token_budget" ("Estimated " ++ total.repr ++ " tokens exceeds the " ++
      v.maxTokens.repr ++ " token budget.") none]

def checkNoEmptyRequiredSection : List PromptValidationIssue :=
  (sections.filter (fun s => s.isRequired && (Text.strip s.content).isEmpty)).map (fun s =>
    errorIssue "no_empty_required_section" ("Required section " ++ repr s.name.value ++
      " is empty.") (some s.name))

def PromptValidator.validate (v : PromptValidator) : PromptValidationReport where
  issues := checkNotEmpty sections ++ checkRequiredSectionsExist repr sections ++
    checkNoDuplicateExamples repr sections ++ v.checkTokenBudget sections ++
    checkNoEmptyRequiredSection repr sections

end

end QueryMind.Prompt
