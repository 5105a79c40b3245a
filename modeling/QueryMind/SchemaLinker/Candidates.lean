import Mathlib.Data.List.Sort
import Mathlib.Data.Rat.Floor
import QueryMind.Lib.Memo
import QueryMind.Metadata.Database
import QueryMind.SchemaLinker.Matcher

namespace QueryMind.SchemaLinker
open Lib Metadata
set_option autoImplicit true

structure LinkCandidate where
  tableName : String
  columnName : Option String
  confidence : Rat
  matchingReason : MatchTier
  candidateRank : Nat
  matchedText : String
  deriving DecidableEq, Repr

def roundHalfEven (x : Rat) : Int :=
  if x - x.floor < 1 / 2 then x.floor
  else if x - x.floor > 1 / 2 then x.floor + 1
  else if x.floor % 2 = 0 then x.floor
  else x.floor + 1

/-- `ConfidenceScorer._scale`, with the exact result rounded to four places; Python rounds the
float, which may lie beside a tie. -/
def scale (value sourceLow sourceHigh targetLow targetHigh : Rat) : Rat :=
  let span := sourceHigh - sourceLow
  let fraction := if span = 0 then 1 else (value - sourceLow) / span
  let fraction := min (max fraction 0) 1
  roundHalfEven ((targetLow + (targetHigh - targetLow) * fraction) * 10000) / 10000

def score (result : MatchResult) : Rat :=
  match result.tier with
  | .exact => 1
  | .businessDictionary => 92 / 100
  | .synonym => 85 / 100
  | .aliasTier => 78 / 100
  | .fuzzy => scale result.similarity fuzzyThreshold 1 (45 / 100) (70 / 100)
  | .partialTier => scale result.similarity 0 1 (25 / 100) (44 / 100)

def MatchTier.priority : MatchTier → Nat
  | .exact => 0
  | .businessDictionary => 1
  | .synonym => 2
  | .aliasTier => 3
  | .fuzzy => 4
  | .partialTier => 5

/-- A higher confidence goes first; among equal ones, a better tier. -/
def LinkCandidate.precedes (c d : LinkCandidate) : Prop :=
  d.confidence < c.confidence ∨
    c.confidence = d.confidence ∧ c.matchingReason.priority ≤ d.matchingReason.priority

instance (c d : LinkCandidate) : Decidable (c.precedes d) :=
  inferInstanceAs (Decidable (_ ∨ _ ∧ _))

def numbered : Nat → List LinkCandidate → List LinkCandidate
  | _, [] => []
  | rank, c :: candidates => { c with candidateRank := rank } :: numbered (rank + 1) candidates

/-- `_rank`: a stable sort, then ranks from one. -/
def rank (candidates : List LinkCandidate) : List LinkCandidate :=
  numbered 1 (candidates.insertionSort LinkCandidate.precedes)

def tableSearchable (table : TableEntry) : Searchable := ⟨table.name, table.synonyms, [], none⟩

def columnSearchable (entry : ColumnEntry) : Searchable :=
  ⟨entry.column.name, entry.synonyms, entry.searchKeywords, entry.displayName⟩

def candidateOf (tableName : String) (columnName : Option String) (result : MatchResult) :
    LinkCandidate :=
  ⟨tableName, columnName, score result, result.tier, 1, result.matchedText⟩

section
variable (m : ConceptMatcher) (concept : String) (database : DatabaseMetadata)

def tableCandidates : List LinkCandidate :=
  database.tables.filterMap fun table =>
    (m.matchObject concept (tableSearchable table)).map (candidateOf table.name none)

def columnCandidates : List LinkCandidate :=
  database.tables.flatMap fun table => table.columns.filterMap fun entry =>
    (m.matchObject concept (columnSearchable entry)).map
      (candidateOf table.name (some entry.column.name))

end

/-- The two ways to look a concept up. -/
inductive LookupKind
  | table
  | column
  deriving DecidableEq, Repr

/-- A lookup with the schema that it is answered from. -/
structure Lookup where
  database : DatabaseMetadata
  kind : LookupKind
  concept : String
  deriving DecidableEq, Repr

def Lookup.scan (m : ConceptMatcher) (l : Lookup) : List LinkCandidate :=
  match l.kind with
  | .table => rank (tableCandidates m l.concept l.database)
  | .column => rank (columnCandidates m l.concept l.database)

def Lookup.cacheKey (m : ConceptMatcher) (l : Lookup) : LookupKind × String :=
  (l.kind, m.normalizeConcept l.concept)

/-- The results kept so far, under the kind and the normal form of a lookup. -/
abbrev LinkerCache := LookupKind × String → Option (List LinkCandidate)

/-- A generator of candidates, with the schema its registry holds now. -/
structure CandidateGenerator where
  matcher : ConceptMatcher
  database : DatabaseMetadata
  cache : LinkerCache

namespace CandidateGenerator

def new (matcher : ConceptMatcher) (database : DatabaseMetadata) : CandidateGenerator :=
  ⟨matcher, database, fun _ => none⟩

def generate (g : CandidateGenerator) (kind : LookupKind) (concept : String) :
    List LinkCandidate × CandidateGenerator :=
  let r := Memo.consult (Lookup.cacheKey g.matcher) (Lookup.scan g.matcher) (fun _ => true) g.cache
    ⟨g.database, kind, concept⟩
  (r.1, { g with cache := r.2 })

def generateTableCandidates (g : CandidateGenerator) (concept : String) :
    List LinkCandidate × CandidateGenerator := g.generate .table concept

def generateColumnCandidates (g : CandidateGenerator) (concept : String) :
    List LinkCandidate × CandidateGenerator := g.generate .column concept

end CandidateGenerator

/-- What happens to a generator: its registry is refreshed, or a concept is looked up. -/
inductive GeneratorAction
  | refresh (database : DatabaseMetadata)
  | generateTableCandidates (concept : String)
  | generateColumnCandidates (concept : String)

def CandidateGenerator.run : CandidateGenerator → List GeneratorAction → List (List LinkCandidate)
  | _, [] => []
  | g, .refresh database :: actions => run { g with database := database } actions
  | g, .generateTableCandidates concept :: actions =>
    let r := g.generateTableCandidates concept
    r.1 :: run r.2 actions
  | g, .generateColumnCandidates concept :: actions =>
    let r := g.generateColumnCandidates concept
    r.1 :: run r.2 actions

/-- The lookups among some actions, each with the schema that the registry holds then. -/
def lookups : DatabaseMetadata → List GeneratorAction → List Lookup
  | _, [] => []
  | _, .refresh database :: actions => lookups database actions
  | database, .generateTableCandidates concept :: actions =>
    ⟨database, .table, concept⟩ :: lookups database actions
  | database, .generateColumnCandidates concept :: actions =>
    ⟨database, .column, concept⟩ :: lookups database actions

theorem CandidateGenerator.run_eq (g : CandidateGenerator) (actions : List GeneratorAction) :
    g.run actions = (Memo.consultAll (Lookup.cacheKey g.matcher) (Lookup.scan g.matcher) g.cache
      (lookups g.database actions)).1 := by
  induction actions generalizing g with
  | nil => rfl
  | cons action actions ih =>
    cases action with
    | refresh database => exact ih { g with database := database }
    | generateTableCandidates concept =>
      exact congrArg (List.cons _) (ih (g.generateTableCandidates concept).2)
    | generateColumnCandidates concept =>
      exact congrArg (List.cons _) (ih (g.generateColumnCandidates concept).2)

/-- Lookups give what scans of the current schema give, whatever was looked up and refreshed
before, just when any two of one kind and one normal form have the same scan. -/
theorem candidates_transparent_iff (m : ConceptMatcher) (database : DatabaseMetadata)
    (actions : List GeneratorAction) :
    (CandidateGenerator.new m database).run actions =
        (lookups database actions).map (Lookup.scan m) ↔
      ∀ l ∈ lookups database actions, ∀ l' ∈ lookups database actions,
        l.kind = l'.kind → m.normalizeConcept l.concept = m.normalizeConcept l'.concept →
          l.scan m = l'.scan m := by
  have h := Memo.consultAll_empty_iff (Lookup.cacheKey m) (Lookup.scan m) id
    (lookups database actions)
  rw [List.map_id] at h
  rw [CandidateGenerator.run_eq]
  refine h.trans ?_
  simp only [id_eq, Lookup.cacheKey, Prod.mk.injEq, and_imp]

def customerTable : TableEntry where
  name := "customer"
  description := none
  synonyms := []
  columns := []
  owned := by decide
  nodup := by decide

def noTables : DatabaseMetadata := ⟨[], [], by decide⟩

def customerDatabase : DatabaseMetadata := ⟨[customerTable], [], by decide⟩

/-- The second spelling gets the exact match of the first one, and an entry outlives the schema it
was found in. -/
theorem candidates_stale :
    ¬(∀ (m : ConceptMatcher) (database : DatabaseMetadata) (actions : List GeneratorAction),
      (CandidateGenerator.new m database).run actions =
        (lookups database actions).map (Lookup.scan m)) ∧
    (CandidateGenerator.new ⟨Text.lower, listOrder⟩ customerDatabase).run
        [.generateTableCandidates "customers", .generateTableCandidates "CUSTOMERS"] ≠
      [Lookup.scan ⟨Text.lower, listOrder⟩ ⟨customerDatabase, .table, "customers"⟩,
        Lookup.scan ⟨Text.lower, listOrder⟩ ⟨customerDatabase, .table, "CUSTOMERS"⟩] ∧
    (CandidateGenerator.new ⟨Text.lower, listOrder⟩ noTables).run
        [.generateTableCandidates "customer", .refresh customerDatabase,
          .generateTableCandidates "customer"] ≠
      [Lookup.scan ⟨Text.lower, listOrder⟩ ⟨noTables, .table, "customer"⟩,
        Lookup.scan ⟨Text.lower, listOrder⟩ ⟨customerDatabase, .table, "customer"⟩] := by
  have hspelling : (CandidateGenerator.new ⟨Text.lower, listOrder⟩ customerDatabase).run
      [.generateTableCandidates "customers", .generateTableCandidates "CUSTOMERS"] ≠
      [Lookup.scan ⟨Text.lower, listOrder⟩ ⟨customerDatabase, .table, "customers"⟩,
        Lookup.scan ⟨Text.lower, listOrder⟩ ⟨customerDatabase, .table, "CUSTOMERS"⟩] := by
    decide +kernel
  refine ⟨?_, hspelling, by decide +kernel⟩
  intro h
  exact hspelling (h _ _ [.generateTableCandidates "customers",
    .generateTableCandidates "CUSTOMERS"])

end QueryMind.SchemaLinker
