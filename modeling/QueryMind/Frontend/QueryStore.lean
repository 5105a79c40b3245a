import QueryMind.Frontend.StreamingDerivation

namespace QueryMind.Frontend
open Lib Streaming
set_option autoImplicit true

inductive QueryMode
  | direct
  | streaming
  deriving DecidableEq, Repr

/-- Where a session is, apart from how its pipeline ended. -/
inductive QuerySessionStatus
  | idle
  | running
  | settled
  | transportError
  deriving DecidableEq, Repr

/-- An entry has a number of its own. -/
structure QueryHistoryEntry where
  id : Nat
  question : String
  askedAt : String
  mode : QueryMode
  status : Option Json
  totalLatencyMs : Option Rat

/-- The store with the numbers drawn so far; no entry has one that is yet to be drawn. -/
structure QueryStore where
  question : String
  mode : QueryMode
  status : QuerySessionStatus
  events : List PipelineEvent
  response : Option StreamedResponse
  errorMessage : Option String
  history : List QueryHistoryEntry
  drawn : Nat
  drawn_fresh : ∀ entry ∈ history, entry.id < drawn

namespace QueryStore

def maxHistoryEntries : Nat := 50

def setMode (s : QueryStore) (mode : QueryMode) : QueryStore := { s with mode }

def beginQuery (s : QueryStore) (question : String) : QueryStore :=
  { s with question, status := .running, events := [], response := none, errorMessage := none }

def appendEvent (s : QueryStore) (event : PipelineEvent) : QueryStore :=
  { s with events := s.events ++ [event] }

section Entries
variable (clock : Nat → String)

/-- The entry for the question in the store; it takes the next number. -/
def entry (s : QueryStore) (status : Option Json) (totalLatencyMs : Option Rat) :
    QueryHistoryEntry where
  id := s.drawn
  question := s.question
  askedAt := clock s.drawn
  mode := s.mode
  status := status
  totalLatencyMs := totalLatencyMs

theorem entry_fresh (s : QueryStore) (status : Option Json) (total : Option Rat) :
    ∀ e ∈ (s.entry clock status total :: s.history).take maxHistoryEntries, e.id < s.drawn + 1 := by
  intro e he
  rcases List.mem_cons.1 (List.mem_of_mem_take he) with rfl | he
  · exact Nat.lt_succ_self _
  · exact Nat.lt_succ_of_lt (s.drawn_fresh e he)

def succeed (s : QueryStore) (response : StreamedResponse) : QueryStore :=
  let status := response.status
  let total := response.statistics.totalLatencyMs
  { s with
    status := .settled
    response := some response
    history := (s.entry clock status total :: s.history).take maxHistoryEntries
    drawn := s.drawn + 1
    drawn_fresh := s.entry_fresh clock status total }

def fail (s : QueryStore) (message : String) : QueryStore :=
  { s with
    status := .transportError
    errorMessage := some message
    history := (s.entry clock (some (.str "failed")) none :: s.history).take maxHistoryEntries
    drawn := s.drawn + 1
    drawn_fresh := s.entry_fresh clock (some (.str "failed")) none }

end Entries

def Ended (s : QueryStore) : Prop := s.status = .settled ∨ s.status = .transportError

end QueryStore

end QueryMind.Frontend
