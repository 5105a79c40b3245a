import QueryMind.Frontend.QueryStore
import QueryMind.Frontend.Streaming

namespace QueryMind.Frontend
open Lib Streaming
set_option autoImplicit true

/-- A connection up to its end: the body of a response, or a socket until it is closed. -/
inductive Connection
  | sse (frames : List (Option PipelineEvent)) (failure : Option String)
  | webSocket (signals : List SocketSignal)

def Connection.calls : Connection → List (HandlerCall PipelineEvent)
  | .sse frames failure => sseCalls frames failure
  | .webSocket signals => socketCalls false signals

section UseStreaming
variable (clock : Nat → String)

/-- The handlers that `start` makes for a question; `onDone` is not among them. -/
def handle (question : String) (s : QueryStore) : HandlerCall PipelineEvent → QueryStore
  | .onEvent event =>
    let s := s.appendEvent event
    match event.eventType with
    | .pipelineCompleted =>
      s.succeed clock (buildResponseFromCompletedEvent question s.events event)
    | .pipelineFailed => s.succeed clock (buildResponseFromFailedEvent question s.events event)
    | _ => s
  | .onError message => s.fail clock message
  | .onDone => s

def handleAll (question : String) : QueryStore → List (HandlerCall PipelineEvent) → QueryStore
  | s, [] => s
  | s, c :: calls => handleAll question (handle clock question s c) calls

end UseStreaming

/-- The store when `start` hands the question to the transport. -/
def start (s : QueryStore) (question : String) : QueryStore :=
  (s.setMode .streaming).beginQuery question

def HandlerCall.settles : HandlerCall PipelineEvent → Bool
  | .onEvent event => event.terminal
  | .onError _ => true
  | .onDone => false

def HandlerCall.told : HandlerCall PipelineEvent → Bool
  | .onDone => false
  | _ => true

/-- A session that ended, once, with one entry for its question, and stayed as it was. -/
structure SettlesOnce (clock : Nat → String) (s : QueryStore) (question : String)
    (calls : List (HandlerCall PipelineEvent)) : Prop where
  ended : (handleAll clock question (start s question) calls).Ended
  entry : ∃ entry, entry.id = s.drawn ∧ entry.question = question ∧
    (handleAll clock question (start s question) calls).history =
      (entry :: s.history).take QueryStore.maxHistoryEntries
  final : ∀ before later, calls = before ++ later →
    (handleAll clock question (start s question) before).Ended →
    handleAll clock question (start s question) calls =
      handleAll clock question (start s question) before

/-- Of a list the last one, and no other, meets a condition. -/
def OnlyLast (p : α → Bool) (l : List α) : Prop :=
  ∃ front last, l = front ++ [last] ∧ (∀ x ∈ front, p x = false) ∧ p last = true

theorem terminal_iff (e : PipelineEvent) : e.terminal = true ↔
    e.eventType = .pipelineCompleted ∨ e.eventType = .pipelineFailed := by
  rw [PipelineEvent.terminal, Bool.or_eq_true, decide_eq_true_eq, decide_eq_true_eq]

section Handle
variable (clock : Nat → String) (question : String)

theorem handleAll_append (s : QueryStore) (xs ys : List (HandlerCall PipelineEvent)) :
    handleAll clock question s (xs ++ ys) =
      handleAll clock question (handleAll clock question s xs) ys := by
  induction xs generalizing s with
  | nil => rfl
  | cons c xs ih => exact ih _

/-- The session goes on. -/
structure GoesOn (s t : QueryStore) : Prop where
  question : t.question = s.question
  status : t.status = s.status
  history : t.history = s.history
  drawn : t.drawn = s.drawn
  response : t.response = s.response

theorem handle_goesOn (s : QueryStore) {c : HandlerCall PipelineEvent} (h : c.settles = false) :
    GoesOn s (handle clock question s c) := by
  cases c with
  | onEvent e =>
    have hn : ¬ e.terminal = true := fun ht => by
      rw [show e.terminal = false from h] at ht
      cases ht
    rw [terminal_iff, not_or] at hn
    simp only [handle]
    split
    · exact absurd ‹_› hn.1
    · exact absurd ‹_› hn.2
    · exact ⟨rfl, rfl, rfl, rfl, rfl⟩
  | onError m => cases h
  | onDone => exact ⟨rfl, rfl, rfl, rfl, rfl⟩

theorem handleAll_goesOn (s : QueryStore) {calls : List (HandlerCall PipelineEvent)}
    (h : ∀ c ∈ calls, c.settles = false) : GoesOn s (handleAll clock question s calls) := by
  induction calls generalizing s with
  | nil => exact ⟨rfl, rfl, rfl, rfl, rfl⟩
  | cons c calls ih =>
    have h₁ := handle_goesOn clock question s (h c List.mem_cons_self)
    have h₂ := ih (handle clock question s c) (fun d hd => h d (List.mem_cons_of_mem _ hd))
    exact ⟨h₂.question.trans h₁.question, h₂.status.trans h₁.status,
      h₂.history.trans h₁.history, h₂.drawn.trans h₁.drawn, h₂.response.trans h₁.response⟩

/-- The session comes to its end, with an entry for its question. -/
structure Settles (s t : QueryStore) : Prop where
  ended : t.Ended
  entry : ∃ entry, entry.id = s.drawn ∧ entry.question = s.question ∧
    t.history = (entry :: s.history).take QueryStore.maxHistoryEntries

theorem handle_settles (s : QueryStore) {c : HandlerCall PipelineEvent} (h : c.settles = true) :
    Settles s (handle clock question s c) := by
  cases c with
  | onEvent e =>
    simp only [handle]
    rcases (terminal_iff e).1 h with he | he
    · rw [he]
      exact ⟨.inl rfl, _, rfl, rfl, rfl⟩
    · rw [he]
      exact ⟨.inl rfl, _, rfl, rfl, rfl⟩
  | onError m => exact ⟨.inr rfl, _, rfl, rfl, rfl⟩
  | onDone => cases h

/-- Each event is kept, and each end of a session takes a number. -/
def QueryStore.marks (s : QueryStore) : Nat := s.events.length + s.drawn

theorem marks_handle (s : QueryStore) (c : HandlerCall PipelineEvent) :
    s.marks + (if c.told then 1 else 0) ≤ (handle clock question s c).marks := by
  cases c with
  | onEvent e =>
    have hl : (s.appendEvent e).events.length = s.events.length + 1 := by
      rw [QueryStore.appendEvent, List.length_append, List.length_singleton]
    simp only [handle, HandlerCall.told, if_true]
    split
    all_goals
      simp only [QueryStore.marks, QueryStore.succeed, QueryStore.appendEvent] at hl ⊢
      omega
  | onError m => exact le_of_eq (Nat.add_assoc _ _ _)
  | onDone => exact le_rfl

theorem marks_handleAll (s : QueryStore) (calls : List (HandlerCall PipelineEvent)) :
    s.marks + (calls.filter HandlerCall.told).length ≤
      (handleAll clock question s calls).marks := by
  induction calls generalizing s with
  | nil => exact le_rfl
  | cons c calls ih =>
    have h₁ := marks_handle clock question s c
    have h₂ := ih (handle clock question s c)
    rw [List.filter_cons]
    simp only [handleAll]
    split
    · rename_i hc
      rw [if_pos hc] at h₁
      rw [List.length_cons]
      omega
    · rename_i hc
      rw [if_neg hc] at h₁
      omega

theorem handleAll_untold (s : QueryStore) {calls : List (HandlerCall PipelineEvent)}
    (h : calls.filter HandlerCall.told = []) : handleAll clock question s calls = s := by
  induction calls with
  | nil => rfl
  | cons c calls ih =>
    cases c with
    | onEvent e => cases h
    | onError m => cases h
    | onDone => exact ih h

end Handle

theorem told_of_settles {c : HandlerCall PipelineEvent} (h : c.settles = true) : c.told = true := by
  cases c with
  | onEvent e => rfl
  | onError m => rfl
  | onDone => cases h

theorem first_settling (calls : List (HandlerCall PipelineEvent)) :
    (∀ c ∈ calls, c.settles = false) ∨
      ∃ front c later, calls = front ++ c :: later ∧ (∀ d ∈ front, d.settles = false) ∧
        c.settles = true := by
  cases h : calls.find? HandlerCall.settles with
  | none =>
    left
    intro c hc
    exact Bool.not_eq_true _ ▸ List.find?_eq_none.1 h c hc
  | some c =>
    right
    obtain ⟨hc, front, later, he, hf⟩ := List.find?_eq_some_iff_append.1 h
    exact ⟨front, c, later, he, fun d hd => Bool.not_eq_true' _ ▸ hf d hd, hc⟩

section SettlesOnce
variable {clock : Nat → String} {s : QueryStore} {question : String}

theorem not_ended {front : List (HandlerCall PipelineEvent)} (h : ∀ c ∈ front, c.settles = false) :
    ¬ (handleAll clock question (start s question) front).Ended := by
  have hr : (handleAll clock question (start s question) front).status = .running :=
    (handleAll_goesOn clock question (start s question) h).status
  rw [QueryStore.Ended, hr]
  intro he
  rcases he with he | he <;> cases he

theorem settles_first {front : List (HandlerCall PipelineEvent)}
    (hf : ∀ d ∈ front, d.settles = false) (hc : c.settles = true) :
    Settles (start s question) (handleAll clock question (start s question) (front ++ [c])) := by
  have hgo := handleAll_goesOn clock question (start s question) hf
  rw [handleAll_append]
  obtain ⟨hended, entry, hid, hq, hh⟩ :=
    handle_settles clock question (handleAll clock question (start s question) front) hc
  exact ⟨hended, entry, hid.trans hgo.drawn, hq.trans hgo.question, hgo.history ▸ hh⟩

theorem SettlesOnce.onlyLast (h : SettlesOnce clock s question calls) :
    OnlyLast HandlerCall.settles (calls.filter HandlerCall.told) := by
  rcases first_settling calls with hn | ⟨front, c, later, rfl, hf, hc⟩
  · exact absurd h.ended (not_ended hn)
  · have he : front ++ c :: later = (front ++ [c]) ++ later := by
      rw [List.append_assoc, List.singleton_append]
    have hfinal := h.final (front ++ [c]) later he (settles_first hf hc).ended
    have hl : later.filter HandlerCall.told = [] := by
      rw [he, handleAll_append] at hfinal
      have hm := marks_handleAll clock question
        (handleAll clock question (start s question) (front ++ [c])) later
      rw [hfinal] at hm
      exact List.eq_nil_of_length_eq_zero (by omega)
    refine ⟨front.filter HandlerCall.told, c, ?_, ?_, hc⟩
    · rw [List.filter_append, List.filter_cons_of_pos (told_of_settles hc), hl]
    · intro d hd
      exact hf d (List.mem_filter.1 hd).1

theorem OnlyLast.split (h : OnlyLast HandlerCall.settles (calls.filter HandlerCall.told)) :
    ∃ front c later, calls = front ++ c :: later ∧ (∀ d ∈ front, d.settles = false) ∧
      c.settles = true ∧ later.filter HandlerCall.told = [] := by
  obtain ⟨front', last, he, hf', hlast⟩ := h
  rcases first_settling calls with hn | ⟨front, c, later, rfl, hf, hc⟩
  · have hm : last ∈ calls.filter HandlerCall.told := by
      rw [he]
      exact List.mem_append_right _ (List.mem_singleton_self _)
    rw [hn last (List.mem_filter.1 hm).1] at hlast
    cases hlast
  · refine ⟨front, c, later, rfl, hf, hc, ?_⟩
    rw [List.filter_append, List.filter_cons_of_pos (told_of_settles hc)] at he
    rcases List.eq_nil_or_concat (later.filter HandlerCall.told) with hl | ⟨l, y, hl⟩
    · exact hl
    · rw [hl, List.concat_eq_append, ← List.cons_append, ← List.append_assoc] at he
      have hfront := (List.append_inj' he rfl).1
      have hm : c ∈ front' := by
        rw [← hfront]
        exact List.mem_append_right _ List.mem_cons_self
      rw [hf' c hm] at hc
      cases hc

theorem OnlyLast.settlesOnce
    (h : OnlyLast HandlerCall.settles (calls.filter HandlerCall.told)) :
    SettlesOnce clock s question calls := by
  obtain ⟨front, c, later, rfl, hf, hc, hl⟩ := h.split
  have hset : Settles (start s question)
      (handleAll clock question (start s question) (front ++ [c])) := settles_first hf hc
  have hsame : ∀ more, more.filter HandlerCall.told = [] →
      handleAll clock question (start s question) (front ++ c :: more) =
        handleAll clock question (start s question) (front ++ [c]) := by
    intro more hm
    rw [show front ++ c :: more = (front ++ [c]) ++ more by
      rw [List.append_assoc, List.singleton_append], handleAll_append,
      handleAll_untold clock question _ hm]
  constructor
  · rw [hsame later hl]
    exact hset.ended
  · rw [hsame later hl]
    exact hset.entry
  · intro before later' he hended
    rw [hsame later hl]
    rcases List.append_eq_append_iff.1 he with ⟨rest, rfl, hrest⟩ | ⟨rest, rfl, hrest⟩
    · cases rest with
      | nil =>
        rw [List.append_nil] at hended
        exact absurd hended (not_ended hf)
      | cons d rest =>
        obtain ⟨rfl, rfl⟩ := List.cons.inj hrest
        have hl : (rest ++ later').filter HandlerCall.told = [] := hl
        rw [List.filter_append, List.append_eq_nil_iff] at hl
        exact (hsame rest hl.1).symm
    · exact absurd hended (not_ended (fun d hd => hf d (List.mem_append_left _ hd)))

end SettlesOnce

def SocketSignal.report : SocketSignal → Option (HandlerCall PipelineEvent)
  | .onmessage event => event.map .onEvent
  | .onerror => some (.onError "The WebSocket connection failed.")

/-- The events and the errors that a connection reports, in order. -/
def Connection.reports : Connection → List (HandlerCall PipelineEvent)
  | .sse frames failure => (frames.filterMap id).map .onEvent ++ failure.toList.map .onError
  | .webSocket signals => signals.filterMap SocketSignal.report

theorem finishCall_told (done : Bool) : (finishCall done).filter HandlerCall.told = [] := by
  cases done <;> rfl

theorem socketCalls_told (done : Bool) (signals : List SocketSignal) :
    (socketCalls done signals).filter HandlerCall.told =
      signals.filterMap SocketSignal.report := by
  induction signals generalizing done with
  | nil => exact finishCall_told done
  | cons signal signals ih =>
    cases signal with
    | onerror => exact congrArg (HandlerCall.onError _ :: ·) (ih done)
    | onmessage event =>
      cases event with
      | none => exact ih done
      | some event =>
        rw [socketCalls]
        split
        · rw [List.filter_cons_of_pos rfl, List.filter_append, finishCall_told, List.nil_append,
            ih]
          rfl
        · rw [List.filter_cons_of_pos rfl, ih]
          rfl

theorem calls_told (conn : Connection) : conn.calls.filter HandlerCall.told = conn.reports := by
  have hall : ∀ l : List PipelineEvent, (l.map HandlerCall.onEvent).filter HandlerCall.told =
      l.map .onEvent := by
    intro l
    apply List.filter_eq_self.2
    intro c hc
    obtain ⟨e, _, rfl⟩ := List.mem_map.1 hc
    rfl
  cases conn with
  | sse frames failure =>
    cases failure with
    | none =>
      rw [Connection.calls, sseCalls, List.filter_append, hall]
      rfl
    | some m =>
      rw [Connection.calls, sseCalls, List.filter_append, hall]
      rfl
  | webSocket signals => exact socketCalls_told false signals

/-- A stream leaves its session ended once and for all if and only if the last of its reports ends
it and none before does. -/
theorem streaming_settles (clock : Nat → String) (s : QueryStore) (question : String)
    (conn : Connection) : SettlesOnce clock s question conn.calls ↔
      OnlyLast HandlerCall.settles conn.reports := by
  rw [← calls_told]
  exact ⟨SettlesOnce.onlyLast, OnlyLast.settlesOnce⟩

def QueryStore.initial : QueryStore where
  question := ""
  mode := .direct
  status := .idle
  events := []
  response := none
  errorMessage := none
  history := []
  drawn := 0
  drawn_fresh := fun _ h => by cases h

/-- A body that ends in order after its first event: a proxy closed the connection. -/
def droppedStream : Connection :=
  .sse [some (PipelineStartedEvent.create "c-1" "How many orders?")] none

theorem dropped_stream_runs : ¬ SettlesOnce (fun _ => "2025-01-01T00:00:00.000Z")
    .initial "How many orders?" droppedStream.calls := by
  intro h
  have hr : (handleAll (fun _ => "2025-01-01T00:00:00.000Z") "How many orders?"
      (start .initial "How many orders?") droppedStream.calls).status = .running := rfl
  have he := h.ended
  rw [QueryStore.Ended, hr] at he
  rcases he with he | he <;> cases he

end QueryMind.Frontend
