import QueryMind.Lib.Frames
import QueryMind.Lib.Utf8
import QueryMind.Streaming.Sse

namespace QueryMind.Frontend
open Lib Orchestrator Streaming
set_option autoImplicit true

/-- A call of the `StreamHandlers` that a caller has handed to the transport. -/
inductive HandlerCall (α : Type)
  | onEvent (event : α)
  | onError (message : String)
  | onDone

def finishCall (done : Bool) : List (HandlerCall α) := if done then [] else [.onDone]

/-- The calls for the frames of a body that ends by itself or in a failure; a frame that holds no
event comes as none. -/
def sseCalls (frames : List (Option α)) : Option String → List (HandlerCall α)
  | none => (frames.filterMap id).map .onEvent ++ [.onDone]
  | some message => (frames.filterMap id).map .onEvent ++ [.onError message, .onDone]

/-- What a WebSocket reports while it is open; a message that is no JSON comes as none. -/
inductive SocketSignal
  | onmessage (event : Option PipelineEvent)
  | onerror

def socketCalls : Bool → List SocketSignal → List (HandlerCall PipelineEvent)
  | done, [] => finishCall done
  | done, .onerror :: signals =>
    .onError "The WebSocket connection failed." :: socketCalls done signals
  | done, .onmessage none :: signals => socketCalls done signals
  | done, .onmessage (some event) :: signals =>
    if event.terminal then .onEvent event :: (finishCall done ++ socketCalls true signals)
    else .onEvent event :: socketCalls done signals

/-- What a `TextDecoder` and a buffer carry from one chunk of a body to the next. -/
structure SseReader where
  decoder : Utf8Decoder
  buffer : List Char

def SseReader.initial : SseReader := ⟨.initial, []⟩

def SseReader.read (r : SseReader) (chunk : List UInt8) : List (List Char) × SseReader :=
  let (text, decoder) := r.decoder.decode chunk
  let (frames, buffer) := Frames.feed '\n' r.buffer text
  (frames, ⟨decoder, buffer⟩)

def SseReader.readAll : SseReader → List (List UInt8) → List (List Char)
  | _, [] => []
  | r, chunk :: chunks => (r.read chunk).1 ++ (r.read chunk).2.readAll chunks

section
variable (parseJson : List Char → Option α)

/-- `parseJson` is none where `JSON.parse` throws or reads null. -/
def parseSseFrame (frame : List Char) : Option α :=
  match (frame.splitOn '\n').find? ("data: ".toList.isPrefixOf ·) with
  | none => none
  | some dataLine => parseJson (dataLine.drop "data: ".length)

def streamQuerySse (chunks : List (List UInt8)) (failure : Option String) :
    List (HandlerCall α) :=
  sseCalls ((SseReader.initial.readAll chunks).map (parseSseFrame parseJson)) failure

end

/-- A reader finds the frames of the text that its chunks make up, however they are cut. -/
theorem readAll_eq (r : SseReader) (chunks : List (List UInt8)) :
    r.readAll chunks = (Frames.feedAll '\n' r.buffer (r.decoder.decodeAll chunks)).1 := by
  induction chunks generalizing r with
  | nil => rfl
  | cons chunk chunks ih =>
    rw [SseReader.readAll, ih]
    rfl

theorem readAll_text (h : chunks.flatten = utf8 text) :
    SseReader.initial.readAll chunks = (Frames.splitDouble '\n' text).dropLast := by
  rw [readAll_eq, Frames.feedAll_eq _ _ rfl]
  simp only [SseReader.initial, Frames.feed, Utf8Decoder.decodeAll_utf8 h, List.nil_append]

def sseText (serializeEvent : MintedEvent → String) (events : List MintedEvent) : List Char :=
  events.flatMap fun e => (formatSseFrame serializeEvent e).toList

section RoundTrip
variable {serializeEvent : MintedEvent → String} {parseJson : List Char → Option Json}

theorem splitDouble_sseText (h : ∀ e ∈ events, '\n' ∉ (serializeEvent e).toList) :
    Frames.splitDouble '\n' (sseText serializeEvent events) =
      events.map (fun e => ['\n'].intercalate (frameLines serializeEvent e)) ++ [[]] := by
  induction events with
  | nil => rfl
  | cons e events ih =>
    have hlines := frameLines_mem (h e List.mem_cons_self)
    rw [sseText, List.flatMap_cons, formatSseFrame_toList, List.append_assoc]
    rw [show ['\n', '\n'] ++ events.flatMap (fun e => (formatSseFrame serializeEvent e).toList) =
      '\n' :: '\n' :: sseText serializeEvent events from rfl]
    rw [Frames.splitDouble_frame hlines (List.cons_ne_nil _ _),
      ih (fun d hd => h d (List.mem_cons_of_mem _ hd))]
    rfl

theorem data_isPrefixOf (line : List Char) :
    "data: ".toList.isPrefixOf ("data: ".toList ++ line) = true :=
  List.isPrefixOf_iff_prefix.2 (List.prefix_append _ _)

theorem parseSseFrame_frame (h : '\n' ∉ (serializeEvent e).toList) :
    parseSseFrame parseJson (['\n'].intercalate (frameLines serializeEvent e)) =
      parseJson (serializeEvent e).toList := by
  have hlines := frameLines_mem h
  have hid : "data: ".toList.isPrefixOf (idLine e) = false := rfl
  have hevent : "data: ".toList.isPrefixOf (eventLine e) = false := rfl
  have hdata : "data: ".toList.isPrefixOf (dataLine serializeEvent e) = true :=
    data_isPrefixOf _
  rw [parseSseFrame, List.splitOn_intercalate _ (fun l hl => (hlines l hl).2)
    (List.cons_ne_nil _ _), frameLines,
    List.find?_cons_of_neg (by rw [hid]; exact Bool.false_ne_true),
    List.find?_cons_of_neg (by rw [hevent]; exact Bool.false_ne_true),
    List.find?_cons_of_pos hdata]
  exact congrArg parseJson (List.drop_left' String.length_toList)

/-- A client reads each event of a stream once, in order, as its JSON value, however the bytes of
the stream are cut into chunks. -/
theorem sse_round_trip (serializeEvent : MintedEvent → String)
    (parseJson : List Char → Option Json) (events : List MintedEvent) (chunks : List (List UInt8))
    (hline : ∀ e ∈ events, '\n' ∉ (serializeEvent e).toList)
    (hjson : ∀ e ∈ events, parseJson (serializeEvent e).toList = some e.json)
    (hchunks : chunks.flatten = utf8 (sseText serializeEvent events)) :
    streamQuerySse parseJson chunks none =
      events.map (fun e => .onEvent e.json) ++ [.onDone] := by
  have hframes := readAll_text hchunks
  rw [splitDouble_sseText hline, List.dropLast_concat] at hframes
  have hparsed : (SseReader.initial.readAll chunks).map (parseSseFrame parseJson) =
      events.map (some ∘ MintedEvent.json) := by
    rw [hframes, List.map_map]
    apply List.map_congr_left
    intro e he
    rw [Function.comp_apply, parseSseFrame_frame (hline e he), hjson e he]
    rfl
  rw [streamQuerySse, hparsed, sseCalls, List.filterMap_map, Function.id_comp,
    List.filterMap_eq_map, List.map_map]
  rfl

end RoundTrip

def cafeEvent : MintedEvent :=
  ⟨0x0f8fad5bd9cb469fa16570867728950e, "2025-01-01T00:00:00Z",
    PipelineStartedEvent.create "c-1" "Café orders?"⟩

def cafeJson : String :=
  "\x7b\"event_id\":\"0f8fad5bd9cb469fa16570867728950e\",\"correlation_id\":\"c-1\"," ++
    "\"timestamp\":\"2025-01-01T00:00:00Z\",\"pipeline_stage\":null," ++
    "\"event_type\":\"pipeline_started\"," ++
    "\"payload\":\x7b\"original_question\":\"Café orders?\"\x7d\x7d"

def nluEvent : MintedEvent :=
  ⟨0x7c9e6679742540de944be07fc1f90ae7, "2025-01-01T00:00:01Z",
    StageStartedEvent.create "c-1" .nlu⟩

def nluJson : String :=
  "\x7b\"event_id\":\"7c9e6679742540de944be07fc1f90ae7\",\"correlation_id\":\"c-1\"," ++
    "\"timestamp\":\"2025-01-01T00:00:01Z\",\"pipeline_stage\":\"nlu\"," ++
    "\"event_type\":\"stage_started\",\"payload\":\x7b\x7d\x7d"

def serializeCafe (e : MintedEvent) : String :=
  if e.uuid = cafeEvent.uuid then cafeJson else nluJson

def parseCafe (text : List Char) : Option Json :=
  if text = cafeJson.toList then some cafeEvent.json
  else if text = nluJson.toList then some nluEvent.json
  else none

/-- The bytes of two frames, cut inside the accented letter, inside the blank line between the
frames and inside the second event. -/
def cafeChunks : List (List UInt8) :=
  let bytes := utf8 (sseText serializeCafe [cafeEvent, nluEvent])
  [bytes.take 262, (bytes.drop 262).take 13, ((bytes.drop 262).drop 13).take 100,
    ((bytes.drop 262).drop 13).drop 100]

theorem newline_notMem_cafeJson : '\n' ∉ cafeJson.toList := by decide +kernel

theorem newline_notMem_nluJson : '\n' ∉ nluJson.toList := by decide +kernel

theorem nluJson_ne_cafeJson : nluJson.toList ≠ cafeJson.toList := by decide +kernel

theorem sse_round_trip_cafe :
    streamQuerySse parseCafe cafeChunks none =
      [.onEvent cafeEvent.json, .onEvent nluEvent.json, .onDone] := by
  apply sse_round_trip serializeCafe parseCafe [cafeEvent, nluEvent] cafeChunks
  · intro e he
    rcases List.mem_pair.1 he with rfl | rfl
    · exact newline_notMem_cafeJson
    · exact newline_notMem_nluJson
  · intro e he
    rcases List.mem_pair.1 he with rfl | rfl
    · exact if_pos rfl
    · exact (if_neg nluJson_ne_cafeJson).trans (if_pos rfl)
  · rw [cafeChunks, List.flatten_cons, List.flatten_cons, List.flatten_cons,
      List.flatten_singleton, List.take_append_drop, List.take_append_drop,
      List.take_append_drop]

end QueryMind.Frontend
