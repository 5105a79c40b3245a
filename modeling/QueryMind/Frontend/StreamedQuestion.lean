import QueryMind.Frontend.StreamedAnswer
import QueryMind.Streaming.Asking

namespace QueryMind.Frontend
open Lib Orchestrator ResultFormatter Streaming
set_option autoImplicit true

section Wire

def eventTypes : List PipelineEventType :=
  [.pipelineStarted, .stageStarted, .stageCompleted, .stageFailed, .pipelineCompleted,
    .pipelineFailed, .heartbeat, .clientDisconnected]

def eventTypeOf (value : String) : Option PipelineEventType :=
  eventTypes.find? (·.value = value)

def stageOf (value : String) : Option PipelineStage := (stageOrder true).find? (·.value = value)

theorem eventTypeOf_value (t : PipelineEventType) : eventTypeOf t.value = some t := by
  cases t <;> decide +kernel

theorem stageOf_value (stage : PipelineStage) : stageOf stage.value = some stage := by
  cases stage <;> decide +kernel

def readText : Json → Option String
  | .str s => some s
  | _ => none

def readMembers : Json → Option (List (String × Json))
  | .obj members => some members
  | _ => none

def readStage : Json → Option (Option PipelineStage)
  | .null => some none
  | .str value => (stageOf value).map some
  | _ => none

/-- The fields of a `PipelineEvent` that the client reads of a value. The cast of the source checks
nothing; none stands for a value that lacks one of them. -/
def readEvent (j : Json) : Option PipelineEvent := do
  let correlationId ← (j.child (.name "correlation_id")).bind readText
  let pipelineStage ← (j.child (.name "pipeline_stage")).bind readStage
  let value ← (j.child (.name "event_type")).bind readText
  let eventType ← eventTypeOf value
  let payload ← (j.child (.name "payload")).bind readMembers
  some ⟨correlationId, pipelineStage, eventType, payload⟩

theorem readStage_elim (stage : Option PipelineStage) :
    readStage (stage.elim .null (fun stage => .str stage.value)) = some stage := by
  cases stage with
  | none => rfl
  | some stage =>
    show (stageOf stage.value).map some = some (some stage)
    rw [stageOf_value, Option.map_some]

theorem readEvent_json (e : MintedEvent) : readEvent e.json = some e.event := by
  have hcid : e.json.child (.name "correlation_id") = some (.str e.event.correlationId) := rfl
  have hstage : e.json.child (.name "pipeline_stage") =
      some (e.event.pipelineStage.elim .null (fun stage => .str stage.value)) := rfl
  have htype : e.json.child (.name "event_type") = some (.str e.event.eventType.value) := rfl
  have hpayload : e.json.child (.name "payload") = some (.obj e.event.payload) := rfl
  rw [readEvent, hcid, hstage, htype, hpayload]
  simp only [Option.bind_some, readStage_elim, readText, readMembers, eventTypeOf_value,
    Option.bind_eq_bind]

variable (serializeEvent : MintedEvent → String) (parseJson : List Char → Option Json)

def parseEvent (text : List Char) : Option PipelineEvent := (parseJson text).bind readEvent

/-- What the client of a stream may see of the events that it is sent, over either transport: of
the body of a response any chunks that make it up, or a message for each event. -/
inductive Receives (wire : List MintedEvent) : Connection → Prop
  | sse (chunks : List (List UInt8))
      (h : chunks.flatten = utf8 (sseText serializeEvent wire)) :
      Receives wire (.sse ((SseReader.initial.readAll chunks).map
        (parseSseFrame (parseEvent parseJson))) none)
  | webSocket : Receives wire (.webSocket
      (wire.map fun e => .onmessage (parseEvent parseJson (serializeEvent e).toList)))

/-- The two ends of the wire fit: an event is one line of JSON, which the client parses. -/
structure Fits (wire : List MintedEvent) : Prop where
  line : ∀ e ∈ wire, '\n' ∉ (serializeEvent e).toList
  parsed : ∀ e ∈ wire, parseJson (serializeEvent e).toList = some e.json

variable {serializeEvent parseJson} {wire : List MintedEvent}

theorem parseSseFrame_event (frame : List Char) : parseSseFrame (parseEvent parseJson) frame =
    (parseSseFrame parseJson frame).bind readEvent := by
  rw [parseSseFrame, parseSseFrame]
  split <;> rfl

theorem Fits.event (h : Fits serializeEvent parseJson wire) (he : e ∈ wire) :
    parseEvent parseJson (serializeEvent e).toList = some e.event := by
  rw [parseEvent, h.parsed e he, Option.bind_some, readEvent_json]

theorem Receives.reports (h : Receives serializeEvent parseJson wire conn)
    (hf : Fits serializeEvent parseJson wire) :
    conn.reports = (wire.map (·.event)).map .onEvent := by
  cases h with
  | sse chunks hchunks =>
    have hframes := readAll_text hchunks
    rw [splitDouble_sseText hf.line, List.dropLast_concat] at hframes
    have hparsed : (SseReader.initial.readAll chunks).map
        (parseSseFrame (parseEvent parseJson)) = wire.map (some ∘ MintedEvent.event) := by
      rw [hframes, List.map_map]
      apply List.map_congr_left
      intro e he
      rw [Function.comp_apply, parseSseFrame_event, parseSseFrame_frame (hf.line e he)]
      exact hf.event he
    rw [hparsed, Connection.reports, List.filterMap_map, Function.id_comp,
      List.filterMap_eq_map, Option.toList_none, List.map_nil, List.append_nil]
  | webSocket =>
    rw [Connection.reports, List.filterMap_map, List.map_map, ← List.filterMap_eq_map]
    apply List.filterMap_congr
    intro e he
    simp only [Function.comp_apply, SocketSignal.report, hf.event he, Option.map_some]

end Wire

section Asking
variable (dump : BusinessAnswer → Except Raised Json)

def Asking.calls (a : Asking) : AskCalls where
  calls := a.made dump
  ends := by
    obtain ⟨front, last, h⟩ := a.told dump
    exact ⟨front, last, h.made, h.ongoing, h.ends⟩

theorem handleAll_told (clock : Nat → String) (question : String) (s : QueryStore)
    (calls : List (HandlerCall PipelineEvent)) :
    handleAll clock question s (calls.filter HandlerCall.told) =
      handleAll clock question s calls := by
  induction calls generalizing s with
  | nil => rfl
  | cons c calls ih =>
    cases c with
    | onEvent e => exact ih _
    | onError m => exact ih _
    | onDone => exact ih _

/-- What the client of a stream is shown: events of the run of its own question in their order and,
once it has a response, the answer that `ask` returns for it, where the run is smooth. A stream that
ends without being left settles the session with a response. -/
structure ShowsAnswer (tick : Nat → String) (a : Asking) (st : Stream) (store : QueryStore)
    (conn : Connection) : Prop where
  inOrder : (handleAll tick a.question (start store a.question) conn.calls).events.filter
    (fun e => !e.isHeartbeat) <+: streamedEvents dump a.runner a.clock a.question st.correlationId
  agrees : ∀ d, (handleAll tick a.question (start store a.question) conn.calls).response = some d →
    (Agree dump (a.answer dump) d ↔ Smooth dump a.progress)
  settles : st.phase = .ended → st.closed = false →
    SettlesOnce tick store a.question conn.calls ∧
      ∃ d, (handleAll tick a.question (start store a.question) conn.calls).response = some d

variable {dump} {tick : Nat → String} {a : Asking} {store : QueryStore}

/-- Shown some of the events of a run, the client has no response; shown all, it has the one that
the last event reports. -/
theorem Asking.Told.response (h : a.Told dump front last) (tick : Nat → String)
    (store : QueryStore) {es : List PipelineEvent}
    (hes : es.filter (fun e => !e.isHeartbeat) <+: (a.calls dump).events cid) :
    ((∀ e ∈ es, e.terminal = false) ∧
        (handleAll tick a.question (start store a.question) (es.map .onEvent)).response = none) ∨
      es.filter (fun e => !e.isHeartbeat) = (a.calls dump).events cid ∧
        ∃ d, (handleAll tick a.question (start store a.question) (es.map .onEvent)).response =
            some d ∧ (Agree dump (a.answer dump) d ↔ Smooth dump a.progress) := by
  rcases (a.calls dump).unended_or_whole hes with hn | hall
  · left
    have hes : ∀ e ∈ es, e.terminal = false := unended_of_filter rfl fun e he => by
      simpa only [Bool.not_eq_true] using List.any_eq_false.1 hn e he
    exact ⟨hes, (onEvent_goesOn tick a.question (start store a.question) hes).response⟩
  · right
    exact ⟨hall, h.shown dump tick store hall⟩

theorem settlesOnce_of_ends {st : Stream} {wire : List MintedEvent} {conn : Connection}
    (hwire : wire.map (·.event) = st.items.map (·.event)) (hends : st.EndsTerminal)
    (hconn : conn.reports = (wire.map (·.event)).map .onEvent) :
    SettlesOnce tick store question conn.calls := by
  obtain ⟨pre, m, hitems, hm, hpre⟩ := hends
  apply OnlyLast.settlesOnce
  refine ⟨(pre.map (·.event)).map .onEvent, .onEvent m.event, ?_, ?_, hm⟩
  · rw [calls_told, hconn, hwire, hitems, List.map_append, List.map_append, List.map_singleton,
      List.map_singleton]
  · intro c hc
    obtain ⟨e, he, rfl⟩ := List.mem_map.1 hc
    obtain ⟨x, hx, rfl⟩ := List.mem_map.1 he
    exact Bool.eq_false_iff.2 (List.any_eq_false.1 hpre x hx)

/-- While live streams have distinct ids and every run makes its calls in order, whatever the order
of the steps, the client of a stream sees over either transport the answer to its own question. -/
theorem streamed_question (asks : Nat → Asking)
    (hrun : Run (Guarded Server.Step
      (Server.Admissible (.asking fun i => (asks i).calls dump))) (.initial requests) actions s)
    {k : Nat} (hk : s.streams[k]? = some st) (wire : List MintedEvent)
    (hwire : wire.map (·.event) = st.items.map (·.event))
    (hfits : Fits serializeEvent parseJson wire)
    (hconn : Receives serializeEvent parseJson wire conn) :
    ShowsAnswer dump tick (asks k) st store conn := by
  obtain ⟨hok, rfl, hfollows⟩ := Server.run_follows hrun hk
  have hreports := hconn.reports hfits
  have hall : ∀ question, handleAll tick question (start store question) conn.calls =
      handleAll tick question (start store question) ((wire.map (·.event)).map .onEvent) := by
    intro question
    rw [← handleAll_told, calls_told, hreports]
  have hanswers : answers st.items = (wire.map (·.event)).filter (fun e => !e.isHeartbeat) := by
    rw [answers, hwire]
  have hitems := hfollows.items hok
  rw [hanswers] at hitems
  obtain ⟨front, last, htold⟩ := (asks st.run).told dump
  have hresponse := htold.response tick store hitems
  constructor
  · rw [hall, events_handleAll]
    exact hitems
  · intro d hd
    rw [hall] at hd
    rcases hresponse with ⟨_, hn⟩ | ⟨_, d', hd', hagree⟩
    · rw [hn] at hd
      cases hd
    · rw [hd'] at hd
      cases hd
      exact hagree
  · intro hp hc
    have hwhole := hfollows.whole hok hp hc
    have hany : st.script.any (·.terminal) = true := by
      rw [← (hok.of_ended hp hc).1.all, hwhole]
      exact AskCalls.events_terminal _ _
    refine ⟨settlesOnce_of_ends hwire ((hok.of_ended hp hc).2 hany) hreports, ?_⟩
    rw [hall]
    rcases hresponse with ⟨hn, _⟩ | ⟨_, d, hd, _⟩
    · have hany : (wire.map (·.event)).any (·.terminal) = true := by
        rw [← (hok.of_ended hp hc).1.all, answers_terminal] at hany
        rw [hwire, List.any_map]
        exact hany
      obtain ⟨e, he, ht⟩ := List.any_eq_true.1 hany
      rw [hn e he] at ht
      cases ht
    · exact ⟨d, hd⟩

end Asking

def puzzled : Asking := ⟨puzzledRunner, stoppedClock, "??"⟩

/-- The run of the first of two callers publishes its events, and each is delivered at once. -/
def puzzledActions : List Streaming.Action :=
  opening 1 ++
    (puzzled.made dumpRaises).flatMap (fun c => opening 0 ++ .publish 0 c :: delivery 0) ++
    [.finish 0 .returned, .next 0, .unsubscribe 0]

def puzzledWire : List MintedEvent :=
  ((puzzled.calls dumpRaises).events "trace-1").mapIdx fun i e =>
    ⟨BitVec.ofNat 128 i, "2025-01-01T00:00:00Z", e⟩

def puzzledTail (stage eventType payload : String) : String :=
  "\",\"correlation_id\":\"trace-1\"," ++ "\"timestamp\":\"2025-01-01T00:00:00Z\"," ++
    "\"pipeline_stage\":" ++ stage ++ ",\"event_type\":\"" ++ eventType ++
    "\",\"payload\":\x7b" ++ payload ++ "\x7d\x7d"

def puzzledTails : List String := [
  puzzledTail "null" "pipeline_started" "\"original_question\":\"??\"",
  puzzledTail "\"nlu\"" "stage_started" "",
  puzzledTail "\"nlu\"" "stage_failed"
    ("\"duration_ms\":1.0,\"error_type\":\"NLUError\"," ++ "\"error_message\":\"" ++
      "The question could not be understood." ++ "\""),
  puzzledTail "null" "pipeline_failed"
    ("\"error_type\":\"PipelineExecutionError\"," ++ "\"error_message\":\"" ++
      "Pipeline failed at stage 'nlu': " ++ "The question could not be understood." ++ "\"")]

def puzzledHead : String := "\x7b\"event_id\":\"" ++ "0000000000000000000000000000000"

def puzzledDigit (e : MintedEvent) : Char := Nat.digitChar (e.uuid.toNat % 16)

def puzzledText (e : MintedEvent) : String :=
  puzzledHead ++ String.singleton (puzzledDigit e) ++ puzzledTails.getD e.uuid.toNat ""

def parsePuzzled (text : List Char) : Option Json :=
  (puzzledWire.find? (fun e => (puzzledText e).toList = text)).map MintedEvent.json

def puzzledChunks : List (List UInt8) :=
  let bytes := utf8 (sseText puzzledText puzzledWire)
  [bytes.take 100, bytes.drop 100]

theorem line_append {s t : String} (hs : '\n' ∉ s.toList) (ht : '\n' ∉ t.toList) :
    '\n' ∉ (s ++ t).toList := by
  rw [String.toList_append, List.mem_append, not_or]
  exact ⟨hs, ht⟩

theorem puzzledTail_line (hs : '\n' ∉ stage.toList) (he : '\n' ∉ eventType.toList)
    (hp : '\n' ∉ payload.toList) : '\n' ∉ (puzzledTail stage eventType payload).toList := by
  refine line_append (line_append (line_append (line_append (line_append (line_append
    (line_append (line_append ?_ ?_) ?_) hs) ?_) he) ?_) hp) ?_
  all_goals decide +kernel

theorem puzzledTails_line : ∀ tail ∈ puzzledTails, '\n' ∉ tail.toList := by
  rw [puzzledTails]
  simp only [List.forall_mem_cons]
  refine ⟨?_, ?_, ?_, ?_, nofun⟩
  · apply puzzledTail_line <;> decide +kernel
  · apply puzzledTail_line <;> decide +kernel
  · apply puzzledTail_line
    · decide +kernel
    · decide +kernel
    · refine line_append (line_append (line_append ?_ ?_) ?_) ?_ <;> decide +kernel
  · apply puzzledTail_line
    · decide +kernel
    · decide +kernel
    · refine line_append (line_append (line_append (line_append ?_ ?_) ?_) ?_) ?_ <;>
        decide +kernel

theorem puzzledText_toList (e : MintedEvent) : (puzzledText e).toList =
    puzzledHead.toList ++ puzzledDigit e :: (puzzledTails.getD e.uuid.toNat "").toList := by
  rw [puzzledText, String.toList_append, String.toList_append, String.toList_singleton,
    List.append_assoc, List.singleton_append]

theorem puzzledText_line (e : MintedEvent) : '\n' ∉ (puzzledText e).toList := by
  rw [puzzledText_toList, List.mem_append, List.mem_cons, not_or, not_or]
  refine ⟨?_, ?_, ?_⟩
  · apply line_append <;> decide +kernel
  · exact (digitChar_ne_newline _ (Nat.mod_lt _ (by decide))).symm
  · rw [List.getD_eq_getElem?_getD]
    cases h : puzzledTails[e.uuid.toNat]? with
    | none => decide
    | some tail => exact puzzledTails_line tail (List.mem_of_getElem? h)

theorem find_by_key [DecidableEq β] {f : α → β} {l : List α}
    (h : l.Pairwise (fun a b => f a ≠ f b)) (ha : a ∈ l) :
    l.find? (fun b => f b = f a) = some a := by
  induction h with
  | nil => cases ha
  | cons hb _ ih =>
    rcases List.mem_cons.1 ha with rfl | ha
    · exact List.find?_cons_of_pos (decide_eq_true rfl)
    · rw [List.find?_cons_of_neg, ih ha]
      exact fun he => hb a ha (of_decide_eq_true he)

theorem puzzledDigits_apart :
    puzzledWire.Pairwise (fun e e' => puzzledDigit e ≠ puzzledDigit e') := by decide +kernel

theorem puzzled_fits : Fits puzzledText parsePuzzled puzzledWire := by
  constructor
  · exact fun e _ => puzzledText_line e
  · intro e he
    have hapart : puzzledWire.Pairwise
        (fun e e' => (puzzledText e).toList ≠ (puzzledText e').toList) := by
      apply puzzledDigits_apart.imp
      intro e e' hd ht
      rw [puzzledText_toList, puzzledText_toList] at ht
      exact hd (List.cons.inj (List.append_cancel_left ht)).1
    rw [parsePuzzled, find_by_key hapart he, Option.map_some]

theorem puzzled_run : (runList (guardedNext Server.step
    (Server.Admissible (.asking fun _ => puzzled.calls dumpRaises)))
      (.initial [traced "trace-1" "a", traced "trace-2" "b"]) puzzledActions).map
        (fun s => s.streams[0]?.map (fun st => (st.phase, st.closed, st.items.map (·.event)))) =
      some (some (.ended, false, puzzledWire.map (·.event))) := by
  decide +kernel

theorem streamed_question_puzzled : ∃ s st conn,
    Run (Guarded Server.Step (Server.Admissible (.asking fun _ => puzzled.calls dumpRaises)))
      (.initial [traced "trace-1" "a", traced "trace-2" "b"]) puzzledActions s ∧
    s.streams[0]? = some st ∧ st.phase = .ended ∧ st.closed = false ∧
    Receives puzzledText parsePuzzled puzzledWire conn ∧
    ShowsAnswer dumpRaises (fun _ => "2025-01-01T00:00:00.000Z") puzzled st .initial conn := by
  obtain ⟨s, hs, hp⟩ := Option.map_eq_some_iff.1 puzzled_run
  obtain ⟨st, hst, hp⟩ := Option.map_eq_some_iff.1 hp
  obtain ⟨hphase, hrest⟩ := Prod.mk.inj hp
  obtain ⟨hclosed, hitems⟩ := Prod.mk.inj hrest
  have hchunks : puzzledChunks.flatten = utf8 (sseText puzzledText puzzledWire) := by
    rw [puzzledChunks, List.flatten_cons, List.flatten_singleton, List.take_append_drop]
  have hconn : Receives puzzledText parsePuzzled puzzledWire _ := .sse puzzledChunks hchunks
  exact ⟨s, st, _, runList_guarded hs, hst, hphase, hclosed, hconn,
    streamed_question (fun _ => puzzled) (runList_guarded hs) hst puzzledWire hitems.symm
      puzzled_fits hconn⟩

end QueryMind.Frontend
