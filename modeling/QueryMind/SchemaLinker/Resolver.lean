import Mathlib.Tactic.Linarith
import QueryMind.SchemaLinker.Candidates
import QueryMind.SchemaLinker.Models

namespace QueryMind.SchemaLinker
open Lib Metadata Nlu
set_option autoImplicit true

inductive ConceptKind
  | entity
  | metric
  | dimension
  | filterField
  | sortField
  deriving DecidableEq, Repr

structure Ambiguity where
  businessConcept : String
  conceptKind : ConceptKind
  candidates : List LinkCandidate
  reason : String
  deriving DecidableEq, Repr

structure AmbiguityDecision where
  isConfident : Bool
  reason : Option String
  deriving DecidableEq, Repr

def minConfidence : Rat := 6 / 10

def minMargin : Rat := 1 / 10

def describe (c : LinkCandidate) : String :=
  match c.columnName with
  | none => c.tableName
  | some column => c.tableName ++ "." ++ column

/-- A number that is not negative, to two places, a tie going to the even digit. Python formats the
float, which may lie beside the tie: `0.475` gives `0.47`. -/
def twoPlaces (x : Rat) : String :=
  let hundredths := (roundHalfEven (x * 100)).toNat
  (hundredths / 100).repr ++ "." ++ (hundredths / 10 % 10).repr ++ (hundredths % 10).repr

def noCandidate : AmbiguityDecision :=
  ⟨false, some "No candidate schema object matched this business concept at any tier."⟩

def tooWeak (top : LinkCandidate) : AmbiguityDecision :=
  ⟨false, some ("Best candidate (" ++ describe top ++ ", confidence " ++
    twoPlaces top.confidence ++ ") is below the minimum " ++ twoPlaces minConfidence ++
    " required to resolve automatically.")⟩

def tooClose (top runnerUp : LinkCandidate) : AmbiguityDecision :=
  ⟨false, some ("Top candidates are within " ++ twoPlaces minMargin ++
    " confidence of each other (" ++ describe top ++ " at " ++ twoPlaces top.confidence ++
    " vs. " ++ describe runnerUp ++ " at " ++ twoPlaces runnerUp.confidence ++
    "); cannot pick one without more context.")⟩

/-- `AmbiguityDetector.decide`, with exact margins; as floats, 0.6 and 0.5 are less than 0.1
apart. -/
def decideAmbiguity : List LinkCandidate → AmbiguityDecision
  | [] => noCandidate
  | [top] => if top.confidence < minConfidence then tooWeak top else ⟨true, none⟩
  | top :: runnerUp :: _ =>
    if top.confidence < minConfidence then tooWeak top
    else if top.confidence - runnerUp.confidence < minMargin then tooClose top runnerUp
    else ⟨true, none⟩

/-- A resolved item, with the candidate that won and the others. -/
structure Resolution (ρ : Type) where
  item : ρ
  confidence : Rat
  matchingReason : MatchTier
  candidateRank : Nat
  alternatives : List LinkCandidate
  deriving DecidableEq, Repr

inductive LinkError
  | emptyRegistry
  | metadata (error : LookupError)
  | unnamedColumn
  deriving DecidableEq, Repr

def ambiguityFor (concept : String) (kind : ConceptKind) (candidates : List LinkCandidate)
    (reason : Option String) : Ambiguity :=
  ⟨concept, kind, candidates,
    reason.getD "Could not be resolved to a single confident schema object."⟩

/-- What resolving one concept returns: an item, an ambiguity. -/
abbrev Outcome (ρ : Type) := Option (Resolution ρ) × Option Ambiguity

/-- A confident decision has a winner, the first candidate. -/
def resolveWith (concept : String) (kind : ConceptKind) (candidates : List LinkCandidate)
    (item : LinkCandidate → Except LinkError ρ) : Except LinkError (Outcome ρ) :=
  match (decideAmbiguity candidates).isConfident, candidates with
  | true, winner :: alternatives =>
    (item winner).map fun i =>
      (some ⟨i, winner.confidence, winner.matchingReason, winner.candidateRank, alternatives⟩, none)
  | _, _ =>
    .ok (none,
      some (ambiguityFor concept kind candidates (decideAmbiguity candidates).reason))

def winningTable (database : DatabaseMetadata) (winner : LinkCandidate) :
    Except LinkError TableMetadata :=
  ((database.getTable winner.tableName).map TableEntry.metadata).mapError .metadata

/-- The assertion that a column-level candidate carries a column name comes first. -/
def winningColumn (database : DatabaseMetadata) (winner : LinkCandidate) :
    Except LinkError ColumnMetadata :=
  match winner.columnName with
  | none => .error .unnamedColumn
  | some columnName => (database.getColumn winner.tableName columnName).mapError .metadata

def resolveTableConcept (g : CandidateGenerator) (concept : String) (kind : ConceptKind)
    (item : TableMetadata → ρ) : Except LinkError (Outcome ρ × CandidateGenerator) :=
  let r := g.generateTableCandidates concept
  (resolveWith concept kind r.1 fun winner => (winningTable g.database winner).map item).map
    fun outcome => (outcome, r.2)

def resolveColumnConcept (g : CandidateGenerator) (concept : String) (kind : ConceptKind)
    (item : ColumnMetadata → ρ) : Except LinkError (Outcome ρ × CandidateGenerator) :=
  let r := g.generateColumnCandidates concept
  (resolveWith concept kind r.1 fun winner => (winningColumn g.database winner).map item).map
    fun outcome => (outcome, r.2)

def resolveEntity (g : CandidateGenerator) (concept : String) :
    Except LinkError (Outcome ResolvedTable × CandidateGenerator) :=
  resolveTableConcept g concept .entity fun table => ⟨concept, table⟩

def resolveDimension (g : CandidateGenerator) (concept : String) :
    Except LinkError (Outcome ResolvedColumn × CandidateGenerator) :=
  resolveColumnConcept g concept .dimension fun column => ⟨concept, column⟩

def resolveMetric (g : CandidateGenerator) (metric : MetricExpression) :
    Except LinkError (Outcome ResolvedMetric × CandidateGenerator) :=
  resolveColumnConcept g metric.name .metric fun column =>
    ⟨metric.name, column, metric.aggregation, metric.rawText⟩

def resolveFilter (g : CandidateGenerator) (filter : FilterExpression) :
    Except LinkError (Outcome ResolvedFilter × CandidateGenerator) :=
  resolveColumnConcept g filter.field .filterField fun column =>
    ⟨filter.field, column, filter.operator, filter.value, filter.rawText⟩

def resolveSort (g : CandidateGenerator) (sort : SortExpression) :
    Except LinkError (Outcome ResolvedSort × CandidateGenerator) :=
  resolveColumnConcept g sort.field .sortField fun column =>
    ⟨sort.field, column, sort.direction, sort.rawText⟩

/-- The first candidate clears the bar, and every other one by the margin. -/
structure ClearWinner (winner : LinkCandidate) (others : List LinkCandidate) : Prop where
  bar : minConfidence ≤ winner.confidence
  margin : ∀ c ∈ others, minMargin ≤ winner.confidence - c.confidence

def Ranked (candidates : List LinkCandidate) : Prop :=
  candidates.Pairwise fun c d => d.confidence ≤ c.confidence

theorem map_numbered {f : LinkCandidate → α} (h : ∀ c k, f { c with candidateRank := k } = f c)
    (k : Nat) (candidates : List LinkCandidate) :
    (numbered k candidates).map f = candidates.map f := by
  induction candidates generalizing k with
  | nil => rfl
  | cons c candidates ih => rw [numbered, List.map_cons, List.map_cons, h, ih]

theorem ranked_iff : Ranked candidates ↔
    (candidates.map LinkCandidate.confidence).Pairwise fun x y => y ≤ x := by
  rw [List.pairwise_map, Ranked]

theorem clearWinner_iff : ClearWinner winner others ↔ minConfidence ≤ winner.confidence ∧
    ∀ x ∈ others.map LinkCandidate.confidence, minMargin ≤ winner.confidence - x := by
  rw [List.forall_mem_map]
  exact ⟨fun h => ⟨h.bar, h.margin⟩, fun h => ⟨h.1, h.2⟩⟩

theorem precedes_trans (c d e : LinkCandidate) : c.precedes d → d.precedes e → c.precedes e := by
  simp only [LinkCandidate.precedes]
  grind

theorem precedes_total (c d : LinkCandidate) : c.precedes d ∨ d.precedes c := by
  simp only [LinkCandidate.precedes]
  grind

instance : IsTrans LinkCandidate LinkCandidate.precedes := ⟨precedes_trans⟩

instance : Std.Total LinkCandidate.precedes := ⟨precedes_total⟩

theorem confidence_le_of_precedes (c d : LinkCandidate) (h : c.precedes d) :
    d.confidence ≤ c.confidence := by
  rcases h with h | h
  · exact h.le
  · exact h.1.ge

theorem ranked_sorted (candidates : List LinkCandidate) :
    Ranked (candidates.insertionSort LinkCandidate.precedes) :=
  (List.pairwise_insertionSort LinkCandidate.precedes candidates).imp
    fun h => confidence_le_of_precedes _ _ h

theorem ranked_rank (candidates : List LinkCandidate) : Ranked (rank candidates) := by
  rw [ranked_iff, rank, map_numbered fun _ _ => rfl, ← ranked_iff]
  exact ranked_sorted candidates

theorem mem_rank (h : c ∈ rank candidates) :
    ∃ d ∈ candidates, d.tableName = c.tableName ∧ d.columnName = c.columnName := by
  have hm : (c.tableName, c.columnName) ∈
      (rank candidates).map fun d => (d.tableName, d.columnName) := List.mem_map.2 ⟨c, h, rfl⟩
  rw [rank, map_numbered fun _ _ => rfl] at hm
  obtain ⟨d, hd, he⟩ := List.mem_map.1 hm
  exact ⟨d, (List.mem_insertionSort _).1 hd, (Prod.mk.inj he).1, (Prod.mk.inj he).2⟩

theorem ClearWinner.perm (h : candidates.Perm candidates')
    (hr : rank candidates = winner :: others) (hw : ClearWinner winner others) :
    ∃ others', rank candidates' = winner :: others' ∧ ClearWinner winner others' := by
  have hs := List.perm_insertionSort LinkCandidate.precedes candidates
  have hs' := List.perm_insertionSort LinkCandidate.precedes candidates'
  have ho := ranked_sorted candidates'
  rw [rank] at hr
  rw [rank]
  cases hl : candidates.insertionSort LinkCandidate.precedes with
  | nil =>
    rw [hl, numbered] at hr
    cases hr
  | cons c cs =>
    rw [hl, numbered] at hr
    obtain ⟨rfl, rfl⟩ := List.cons.inj hr
    rw [clearWinner_iff, map_numbered fun _ _ => rfl] at hw
    replace hw : ClearWinner c cs := clearWinner_iff.2 hw
    rw [hl] at hs
    cases hl' : candidates'.insertionSort LinkCandidate.precedes with
    | nil =>
      rw [hl'] at hs'
      exact absurd ((hs.trans h).trans hs'.symm) (by simp)
    | cons c' cs' =>
      rw [hl'] at hs' ho
      have hp : (c :: cs).Perm (c' :: cs') := (hs.trans h).trans hs'.symm
      have hc : c' = c := by
        by_contra hne
        have hm := hw.margin c' ((List.mem_cons.1 (hp.symm.subset List.mem_cons_self)).resolve_left
          hne)
        have hle := List.rel_of_pairwise_cons ho
          ((List.mem_cons.1 (hp.subset List.mem_cons_self)).resolve_left (Ne.symm hne))
        have hpos : 0 < minMargin := by decide +kernel
        linarith
      subst hc
      refine ⟨numbered 2 cs', rfl, ?_⟩
      rw [clearWinner_iff, map_numbered fun _ _ => rfl]
      refine ⟨hw.bar, ?_⟩
      intro x hx
      obtain ⟨d, hd, rfl⟩ := List.mem_map.1 hx
      exact hw.margin d (hp.cons_inv.symm.subset hd)

theorem decideAmbiguity_nil : (decideAmbiguity []).isConfident = false := rfl

theorem not_confident_of_weak (h : winner.confidence < minConfidence)
    (others : List LinkCandidate) : (decideAmbiguity (winner :: others)).isConfident = false := by
  cases others with
  | nil => rw [decideAmbiguity, if_pos h, tooWeak]
  | cons runnerUp others => rw [decideAmbiguity, if_pos h, tooWeak]

theorem decideAmbiguity_cons (h : Ranked (winner :: others)) :
    (decideAmbiguity (winner :: others)).isConfident = true ↔ ClearWinner winner others := by
  by_cases hb : winner.confidence < minConfidence
  · rw [not_confident_of_weak hb]
    refine iff_of_false (fun hc => by cases hc) ?_
    intro hw
    exact absurd hb (not_lt.2 hw.bar)
  · cases others with
    | nil =>
      rw [decideAmbiguity, if_neg hb]
      refine iff_of_true rfl ⟨not_lt.1 hb, ?_⟩
      intro c hc
      cases hc
    | cons runnerUp others =>
      rw [decideAmbiguity, if_neg hb]
      by_cases hm : winner.confidence - runnerUp.confidence < minMargin
      · rw [if_pos hm, tooClose]
        refine iff_of_false (fun hc => by cases hc) ?_
        intro hw
        exact absurd hm (not_lt.2 (hw.margin _ List.mem_cons_self))
      · rw [if_neg hm]
        refine iff_of_true rfl ⟨not_lt.1 hb, ?_⟩
        intro c hc
        rcases List.mem_cons.1 hc with rfl | hc
        · exact not_lt.1 hm
        · have hd := List.rel_of_pairwise_cons h.of_cons hc
          exact (not_lt.1 hm).trans (sub_le_sub_left hd _)

theorem resolveWith_winner (h : Ranked (winner :: others)) (hw : ClearWinner winner others)
    (concept : String) (kind : ConceptKind) (item : LinkCandidate → Except LinkError ρ) :
    resolveWith concept kind (winner :: others) item = (item winner).map fun i =>
      (some ⟨i, winner.confidence, winner.matchingReason, winner.candidateRank, others⟩, none) := by
  rw [resolveWith]
  exact (decideAmbiguity_cons h).2 hw

theorem resolveWith_ambiguous (h : (decideAmbiguity candidates).isConfident = false)
    (concept : String) (kind : ConceptKind) (item : LinkCandidate → Except LinkError ρ) :
    resolveWith concept kind candidates item = .ok (none,
      some (ambiguityFor concept kind candidates (decideAmbiguity candidates).reason)) := by
  rw [resolveWith]
  intro winner others hc
  rw [h] at hc
  cases hc

end QueryMind.SchemaLinker
