import QueryMind.Streaming.Moves

namespace QueryMind.Streaming
open Lib
set_option autoImplicit true

def published (cid : String) (as : List Action) : List PipelineEvent :=
  as.filterMap fun
    | .publish _ call => some ((PipelineEventEmitter.mk cid).event call)
    | _ => none

def ending (as : List Action) : Option Outcome :=
  as.findSome? fun
    | .finish _ o => some o
    | _ => none

/-- What an action adds to the records of the stream. -/
structure Recorded (a : Action) (st st' : Stream) : Prop where
  correlationId : st'.correlationId = st.correlationId
  published : st'.published = st.published ++ published st.correlationId [a]
  outcome : st'.outcome = st.outcome.or (ending [a])
  closed : st'.closed = true → st.closed = true ∨ ∃ i, a = .close i

theorem Stream.Frame.recorded (hf : Stream.Frame st st')
    (hp : Streaming.published st.correlationId [a] = []) (ho : ending [a] = none) :
    Recorded a st st' where
  correlationId := congrArg Presence.correlationId hf.presence
  published := by rw [hp, List.append_nil, hf.published]
  outcome := by rw [ho, Option.or_none, hf.outcome]
  closed hc := .inl (hf.closed ▸ hc)

namespace Server

theorem step_recorded {s t : Server} (hs : s.streams = [st]) (h : s.Step a t) :
    ∃ st', t.streams = [st'] ∧ Recorded a st st' := by
  obtain ⟨st₀, hi, h⟩ := Option.bind_eq_some_iff.1 h
  have hzero : a.stream = 0 ∧ st₀ = st := by
    rw [hs] at hi
    cases hn : a.stream with
    | zero => rw [hn] at hi; exact ⟨rfl, (Option.some.inj hi).symm⟩
    | succ n => rw [hn] at hi; cases hi
  obtain ⟨hzero, rfl⟩ := hzero
  have hput : ∀ (st' : Stream) (m : Message), ((s.setStream a.stream st').publish m).streams =
      [if 0 ∈ s.bus.queues m.event.correlationId then st'.put m else st'] := by
    intro st' m
    simp only [Server.publish, Server.setStream, hs, hzero, List.set_cons_zero, List.mapIdx_cons,
      List.mapIdx_nil]
  have hset : ∀ st', s.streams.set a.stream st' = [st'] := by
    intro st'
    rw [hs, hzero]
    rfl
  cases a with
  | publish i call =>
    obtain ⟨_, h⟩ := Option.ite_none_right_eq_some.1 h
    cases h
    refine ⟨_, hput _ _, ?_⟩
    split
    · exact ⟨Stream.put_correlationId, Stream.put_published,
        Stream.put_outcome.trans Option.or_none.symm, fun hc => by
          rw [Stream.put_closed] at hc
          exact .inl hc⟩
    · exact ⟨rfl, rfl, Option.or_none.symm, .inl⟩
  | heartbeat i ms =>
    obtain ⟨_, h⟩ := Option.ite_none_right_eq_some.1 h
    cases h
    have hst := hput st₀ ⟨i, HeartbeatEvent.create st₀.correlationId ms⟩
    have hself : s.setStream i st₀ = s := by
      obtain ⟨bus, streams⟩ := s
      simp only [Server.setStream, Server.mk.injEq, true_and]
      exact (hset st₀).trans hs.symm
    rw [show (Action.heartbeat i ms).stream = i from rfl, hself] at hst
    refine ⟨_, hst, ?_⟩
    split
    · exact Stream.Frame.recorded ⟨Stream.presence_put _ _, Stream.put_outcome,
        Stream.put_published, Stream.put_closed⟩ rfl rfl
    · exact Stream.Frame.recorded (.refl _) rfl rfl
  | finish i o =>
    obtain ⟨hr, h⟩ := Option.ite_none_right_eq_some.1 h
    cases h
    have hn : st₀.outcome = none := by
      simpa only [Option.isNone_iff_eq_none] using ((Bool.and_eq_true _ _).mp hr).2
    exact ⟨_, hset _, rfl, (List.append_nil _).symm, by rw [hn]; rfl, .inl⟩
  | run i =>
    obtain ⟨st', hst', rfl⟩ := Option.map_eq_some_iff.1 h
    exact ⟨_, hset _, (Stream.runNext_frame hst').recorded rfl rfl⟩
  | close i =>
    obtain ⟨st', hst', rfl⟩ := Option.map_eq_some_iff.1 h
    obtain ⟨_, rfl⟩ := Stream.close_eq hst'
    exact ⟨_, hset _, rfl, (List.append_nil _).symm, Option.or_none.symm, fun _ => .inr ⟨i, rfl⟩⟩
  | next i =>
    simp only [stepStream] at h
    split at h
    · cases h
      exact ⟨_, hset _, rfl, (List.append_nil _).symm, Option.or_none.symm, .inl⟩
    · obtain ⟨st', hst', rfl⟩ := Option.map_eq_some_iff.1 h
      exact ⟨_, hset _, (Stream.next_frame hst').recorded rfl rfl⟩
  | unsubscribe i =>
    obtain ⟨_, h⟩ := Option.ite_none_right_eq_some.1 h
    have hover : Recorded (.unsubscribe i) st₀ st₀.endStream :=
      ⟨rfl, (List.append_nil _).symm, Option.or_none.symm, .inl⟩
    split at h <;> cases h
    · exact ⟨_, hset _, hover⟩
    · exact ⟨_, hset _, hover⟩

theorem single_admissible {s : Server} (hs : s.streams = [st]) (a : Action) :
    s.Admissible .any a := by
  intro st' hst'
  cases a with
  | next i =>
    intro hp x hx hl
    rw [hs] at hx hst'
    have hst : st' = st := List.mem_singleton.1 (List.mem_of_getElem? hst')
    rw [List.mem_singleton.1 hx, ← hst, Stream.live, hp] at hl
    cases hl
  | publish | finish | heartbeat | run | close | unsubscribe => trivial

/-- What a run of one stream shows of it, and what its actions say. -/
structure Single (cid : String) (as : List Action) (s : Server) (st : Stream) : Prop where
  sound : s.Sound
  ok : st.Ok
  correlationId : st.correlationId = cid
  published : st.published = published cid as
  outcome : st.outcome = ending as
  closed : st.closed = true → ∃ i, .close i ∈ as

theorem run_single (h : Run Server.Step (.initial [r]) as s) :
    ∃ st, s.streams = [st] ∧ Single r.correlationId as s st := by
  refine h.invariant_trace
    (I := fun as s => ∃ st, s.streams = [st] ∧ Single r.correlationId as s st)
    ⟨_, rfl, .initial _, .create _ _, rfl, rfl, rfl, nofun⟩ fun as s a t ⟨st, hs, hi⟩ hstep => ?_
  obtain ⟨hsound, hmoves⟩ := step_moves hi.sound hstep (single_admissible hs a)
  obtain ⟨st', ht, hr⟩ := step_recorded hs hstep
  obtain ⟨st₀, h₀, hm⟩ := hmoves 0 st' (by rw [ht]; rfl)
  rw [hs] at h₀
  cases h₀
  refine ⟨st', ht, hsound, hm.ok hi.ok, hr.correlationId.trans hi.correlationId, ?_, ?_, ?_⟩
  · rw [hr.published, hi.published, hi.correlationId, Streaming.published, Streaming.published,
      Streaming.published, List.filterMap_append]
  · rw [hr.outcome, hi.outcome, ending, ending, ending, List.findSome?_append]
  · intro hc
    rcases hr.closed hc with hc | ⟨i, rfl⟩
    · obtain ⟨i, hm⟩ := hi.closed hc
      exact ⟨i, List.mem_append_left _ hm⟩
    · exact ⟨i, List.mem_append_right _ (List.mem_singleton.2 rfl)⟩

theorem Single.unsubscribed {s : Server} (h : Single cid as s st) (hs : s.streams = [st])
    (hp : st.phase = .ended) : s.bus.subscriberCount cid = 0 := by
  rw [EventBus.subscriberCount, List.length_eq_zero_iff, List.eq_nil_iff_forall_not_mem]
  intro k hk
  have hpres := (h.sound.registered k cid).1 hk
  simp only [presenceAt, Option.map_eq_some_iff] at hpres
  obtain ⟨st', hst', hpres⟩ := hpres
  rw [hs] at hst'
  have hst : st' = st := List.mem_singleton.1 (List.mem_of_getElem? hst')
  have hl : st.live = true := hst ▸ congrArg Presence.live hpres
  rw [Stream.live, hp] at hl
  cases hl

end Server

/-- The consumer was given the non-terminal events of the run, in order and among heartbeats, and
then one terminal event. -/
def Stream.EndsOnce (s : Stream) (events : List PipelineEvent) : Prop :=
  ∃ pre m, s.items = pre ++ [m] ∧ m.event.terminal = true ∧ pre.any (·.event.terminal) = false ∧
    answers pre = events.filter (! ·.terminal)

/-- A run that publishes a terminal event, and no other kind of event after it, or that raises
without publishing one. -/
def TellsItsEnd (events : List PipelineEvent) (o : Option Outcome) : Prop :=
  (∃ pre e rest, events = pre ++ e :: rest ∧ pre.any (·.terminal) = false ∧ e.terminal = true ∧
      rest.all (·.terminal) = true) ∨
    events.any (·.terminal) = false ∧ o.any (·.isRaised) = true

theorem filter_of_none {events : List PipelineEvent} (h : events.any (·.terminal) = false) :
    events.filter (! ·.terminal) = events := by
  rw [List.filter_eq_self]
  intro e he
  rw [List.any_eq_false] at h
  rw [Bool.eq_false_iff.2 (h e he)]
  rfl

theorem filter_of_all {events : List PipelineEvent} :
    events.filter (! ·.terminal) = [] ↔ events.all (·.terminal) = true := by
  simp only [List.filter_eq_nil_iff, List.all_eq_true, Bool.not_eq_true', Bool.not_eq_false]

theorem Stream.script_ends (s : Stream) :
    (∃ e, e.terminal = true ∧ s.script = s.published.filter (! ·.terminal) ++ [e]) ↔
      TellsItsEnd s.published s.outcome := by
  cases ht : s.published.any (·.terminal) with
  | true =>
    obtain ⟨pre, a, rest, hl, hpre, ha, hup⟩ := upTo_split ht
    have hfilter : s.published.filter (! ·.terminal) = pre ++ rest.filter (! ·.terminal) := by
      rw [hl, List.filter_append, filter_of_none hpre, List.filter_cons, ha]
      rfl
    rw [script_of_terminal ht, hup, hfilter]
    constructor
    · rintro ⟨e, _, hs⟩
      have hnil : rest.filter (! ·.terminal) = [] := by
        have hlen := congrArg List.length hs
        simp only [List.length_append, List.length_singleton] at hlen
        exact List.length_eq_zero_iff.1 (by omega)
      exact .inl ⟨pre, a, rest, hl, hpre, ha, filter_of_all.1 hnil⟩
    · rintro (⟨pre', a', rest', hl', hpre', ha', hall⟩ | ⟨hno, _⟩)
      · have hup' : upTo (·.terminal) s.published = pre' ++ [a'] := by
          rw [hl', upTo_append_of_none hpre', upTo, if_pos ha']
        obtain ⟨rfl, h⟩ := List.append_inj' (hup.symm.trans hup') rfl
        cases h
        have hrest : rest = rest' := (List.cons.inj (List.append_cancel_left (hl.symm.trans hl'))).2
        rw [hrest, filter_of_all.2 hall, List.append_nil]
        exact ⟨a, ha, rfl⟩
      · rw [ht] at hno
        cases hno
  | false =>
    have hscript : s.script = s.published ++ s.failure := by
      simp only [script, ht, upTo_of_none ht, Bool.false_eq_true, if_false]
    rw [hscript, filter_of_none ht]
    constructor
    · rintro ⟨e, _, hs⟩
      have hf : s.failure = [e] := List.append_cancel_left hs
      refine .inr ⟨ht, ?_⟩
      unfold failure at hf
      split at hf
      · rename_i error ho
        rw [ho]
        rfl
      · cases hf
    · rintro (⟨pre, e, rest, hl, _, he, _⟩ | ⟨_, ho⟩)
      · rw [hl, List.any_append, List.any_cons, he, Bool.true_or, Bool.or_true] at ht
        cases ht
      · cases hout : s.outcome with
        | none => rw [hout] at ho; cases ho
        | some o =>
          rw [hout] at ho
          cases o with
          | returned | cancelled => cases ho
          | raised error => exact ⟨_, rfl, by rw [failure, hout]⟩

theorem Stream.Ok.endsOnce {s : Stream} (h : s.Ok) (hp : s.phase = .ended) (hc : s.closed = false) :
    s.EndsOnce s.published ↔
      ∃ e, e.terminal = true ∧ s.script = s.published.filter (! ·.terminal) ++ [e] := by
  obtain ⟨hcomplete, hends⟩ := h.of_ended hp hc
  constructor
  · rintro ⟨pre, m, hi, ht, _, hpre⟩
    refine ⟨m.event, ht, ?_⟩
    rw [← hcomplete.all, hi, answers_append,
      answers_own (PipelineEvent.isHeartbeat_of_terminal ht), hpre]
  · rintro ⟨e, he, hs⟩
    have hany : s.script.any (·.terminal) = true := by
      rw [hs, List.any_append, List.any_cons, he, Bool.true_or, Bool.or_true]
    obtain ⟨pre, m, hi, ht, hpre, hans⟩ := (hends hany).answers
    refine ⟨pre, m, hi, ht, hpre, ?_⟩
    rw [hcomplete.all, hs] at hans
    exact (List.append_inj' hans rfl).1.symm

/-- A stream read to its end tells its run and ends with exactly one terminal event, and leaves no
subscription, exactly when the run told its end. -/
theorem stream_ends_once (h : Run Server.Step (.initial [r]) as s) (hs : s.streams = [st])
    (hp : st.phase = .ended) (hc : ∀ i, .close i ∉ as) :
    st.EndsOnce (published r.correlationId as) ∧ s.bus.subscriberCount r.correlationId = 0 ↔
      TellsItsEnd (published r.correlationId as) (ending as) := by
  obtain ⟨st', hs', hi⟩ := Server.run_single h
  rw [hs] at hs'
  cases hs'
  have hopen : st.closed = false := Bool.eq_false_iff.2 fun hcl =>
    (hi.closed hcl).elim fun i hm => hc i hm
  rw [← hi.published, ← hi.outcome, ← st.script_ends, ← hi.ok.endsOnce hp hopen]
  exact and_iff_left (hi.unsubscribed hs hp)

def plainRequest : StreamRequest := ⟨none, none, "req", "cid"⟩

def raisingActions : List Action :=
  [.next 0, .publish 0 (.pipelineStarted "q"), .run 0, .run 0, .run 0, .heartbeat 0 5000, .next 0,
    .run 0, .finish 0 (.raised ⟨"RuntimeError", "boom"⟩), .run 0, .run 0, .run 0, .next 0,
    .run 0, .run 0, .run 0, .next 0, .unsubscribe 0]

theorem stream_ends_once_raising :
    ∃ s st, Run Server.Step (.initial [plainRequest]) raisingActions s ∧ s.streams = [st] ∧
      (st.EndsOnce (published "req" raisingActions) ∧ s.bus.subscriberCount "req" = 0 ↔
        TellsItsEnd (published "req" raisingActions) (ending raisingActions)) := by
  have h : (runList Server.step (.initial [plainRequest]) raisingActions).map
      (fun s => s.streams.map (·.phase)) = some [.ended] := by decide
  obtain ⟨s, hs, hp⟩ := Option.map_eq_some_iff.1 h
  obtain ⟨st, hst, hp⟩ := List.map_eq_singleton_iff.1 hp
  have hopen : ∀ i, .close i ∉ raisingActions := by
    simp [raisingActions]
  exact ⟨s, st, runList_run hs, hst,
    stream_ends_once (r := plainRequest) (runList_run hs) hst hp hopen⟩

def silentActions : List Action :=
  [.next 0, .publish 0 (.pipelineStarted "q"), .run 0, .run 0, .run 0, .finish 0 .returned, .next 0,
    .run 0, .run 0, .run 0, .unsubscribe 0]

/-- The stream of a run that returns without a terminal event ends without one. -/
theorem stream_ends_silently :
    ∃ s st, Run Server.Step (.initial [plainRequest]) silentActions s ∧ s.streams = [st] ∧
      st.phase = .ended ∧ (∀ i, .close i ∉ silentActions) ∧
      ¬ st.EndsOnce (published "req" silentActions) := by
  have h : (runList Server.step (.initial [plainRequest]) silentActions).map
      (fun s => s.streams.map fun st => (st.phase, st.items.map (·.event.terminal))) =
        some [(.ended, [false])] := by decide
  obtain ⟨s, hs, hp⟩ := Option.map_eq_some_iff.1 h
  obtain ⟨st, hst, hp⟩ := List.map_eq_singleton_iff.1 hp
  obtain ⟨hp, hi⟩ := Prod.mk.inj hp
  refine ⟨s, st, runList_run hs, hst, hp, by simp [silentActions], ?_⟩
  rintro ⟨pre, m, he, ht, _⟩
  have hm : m.event.terminal ∈ st.items.map (·.event.terminal) :=
    List.mem_map.2 ⟨m, by rw [he]; exact List.mem_append_right _ (List.mem_singleton.2 rfl), rfl⟩
  rw [hi, List.mem_singleton, ht] at hm
  cases hm

end QueryMind.Streaming
