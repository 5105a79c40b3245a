import QueryMind.Streaming.Turns
import QueryMind.Streaming.Server

namespace QueryMind.Streaming
open Lib
set_option autoImplicit true

/-- What a run may publish and how it may end. -/
structure AskContract where
  mayPublish : Stream → PipelineEvent → Prop
  mayFinish : Stream → Outcome → Prop

def AskContract.any : AskContract := ⟨fun _ _ => True, fun _ _ => True⟩

/-- What a step does to a stream that no other run publishes to. -/
inductive Move (C : AskContract) : Stream → Stream → Prop
  | stay : Move C s s
  | start (hp : s.phase = .created) : Move C s s.beginWait
  | beat (hl : s.live = true) (hb : m.event.isHeartbeat = true) (hm : m.origin = s.run) :
      Move C s (s.put m)
  | publish (hr : s.running = true) (hb : e.isHeartbeat = false) (hc : C.mayPublish s e) :
      Move C s ((s.record e).put ⟨s.run, e⟩)
  | finish (hr : s.running = true) (hc : C.mayFinish s o) : Move C s (s.finish o)
  | run (h : s.runNext = some t) : Move C s t
  | next (h : s.next = some t) : Move C s t
  | close (h : s.close = some t) : Move C s t
  | finished (hp : s.phase = .cleanup) (ho : s.outcome.isSome = true) : Move C s s.endStream

theorem Move.ok {s t : Stream} (hm : Move C s t) (h : s.Ok) : t.Ok := by
  cases hm with
  | stay => exact h
  | start hp => exact h.beginWait (.inl hp)
  | beat hl hb hm => exact h.beat hl hb hm
  | publish hr hb _ => exact h.publish hr hb
  | finish hr _ => exact h.finish hr
  | run hr => exact h.runNext hr
  | next hn => exact h.next hn
  | close hc => exact h.close hc
  | finished hp _ => exact h.endStream hp

/-- What the bus and the other streams see of a stream. -/
structure Presence where
  run : Nat
  correlationId : String
  live : Bool

namespace Stream

def presence (s : Stream) : Presence := ⟨s.run, s.correlationId, s.live⟩

@[simp] theorem presence_put (s : Stream) (m : Message) : (s.put m).presence = s.presence := by
  simp only [presence, live, put_run, put_correlationId, put_phase]

/-- What the turns of the loop leave alone. -/
structure Frame (s t : Stream) : Prop where
  presence : t.presence = s.presence
  outcome : t.outcome = s.outcome
  published : t.published = s.published
  closed : t.closed = s.closed

theorem Frame.refl (s : Stream) : Frame s s := ⟨rfl, rfl, rfl, rfl⟩

theorem takeEvent_frame (s : Stream) : Frame s s.takeEvent := by
  unfold takeEvent
  split <;> exact ⟨rfl, rfl, rfl, rfl⟩

theorem onCompletion_frame (s : Stream) : Frame s s.onCompletion := by
  unfold onCompletion
  split <;> exact ⟨rfl, rfl, rfl, rfl⟩

theorem deliver_frame {s : Stream} (hp : s.phase = .waiting) (m : Message) (last : Bool) :
    Frame s (s.deliver m last) :=
  ⟨by simp only [presence, live, deliver, hp]; rfl, rfl, rfl, rfl⟩

theorem leave_frame {s : Stream} (hl : s.live = true) : Frame s (s.leave s.closed) :=
  ⟨by rw [presence, presence, hl]; rfl, rfl, rfl, rfl⟩

theorem resume_frame {s : Stream} (hp : s.phase = .waiting) : Frame s s.resume := by
  unfold resume
  split
  · exact deliver_frame hp _ _
  · split
    · exact deliver_frame hp _ _
    · exact leave_frame (by rw [live, hp]; rfl)

theorem perform_frame (s : Stream) (h : Handle) : Frame s (s.perform h) := by
  unfold perform
  split
  · exact .refl s
  · rename_i hcur
    have hp : s.phase = .waiting := not_not.1 (not_or.1 hcur).2
    split
    · exact takeEvent_frame s
    · exact takeEvent_frame s
    · exact onCompletion_frame s
    · exact onCompletion_frame s
    · exact resume_frame hp
    · exact .refl s

theorem runNext_frame {s t : Stream} (h : s.runNext = some t) : Frame s t := by
  unfold runNext at h
  split at h
  · cases h
  · cases h
    have hf := perform_frame { s with ready := ‹_› } ‹_›
    exact ⟨hf.presence, hf.outcome, hf.published, hf.closed⟩

theorem next_frame {s t : Stream} (h : s.next = some t) : Frame s t := by
  unfold next at h
  split at h
  · rename_i hp
    cases h
    exact leave_frame (by rw [live, hp]; rfl)
  · rename_i hp
    cases h
    exact ⟨by simp only [presence, live, beginWait, hp]; rfl, rfl, rfl, rfl⟩
  · cases h

theorem close_eq {s t : Stream} (h : s.close = some t) : s.live = true ∧ t = s.leave true := by
  unfold close at h
  split at h
  · rename_i hp
    exact ⟨by rw [live, hp]; rfl, (Option.some.inj h).symm⟩
  · rename_i hp
    exact ⟨by rw [live, hp]; rfl, (Option.some.inj h).symm⟩
  · cases h

theorem presence_close {s t : Stream} (h : s.close = some t) : t.presence = s.presence := by
  obtain ⟨hl, rfl⟩ := close_eq h
  rw [presence, presence, hl]
  rfl

end Stream

namespace Server

/-- The condition on a step: a run keeps its contract, and a stream starts under an id that no
live stream has. -/
def admits (C : AskContract) (s : Server) (st : Stream) : Action → Prop
  | .publish _ call => C.mayPublish st ((PipelineEventEmitter.mk st.correlationId).event call)
  | .finish _ o => C.mayFinish st o
  | .next _ =>
    st.phase = .created → ∀ st' ∈ s.streams, st'.live = true → st'.correlationId ≠ st.correlationId
  | _ => True

def Admissible (C : AskContract) (s : Server) (a : Action) : Prop :=
  ∀ st ∈ s.streams[a.stream]?, s.admits C st a

def presenceAt (s : Server) (k : Nat) : Option Presence := s.streams[k]?.map (·.presence)

variable {i : Nat} {st st' : Stream}

/-- Every queue of the bus is a live stream's, and no two live streams share an id. -/
structure Sound (s : Server) : Prop where
  numbered : ∀ k p, s.presenceAt k = some p → p.run = k
  registered : ∀ k cid, k ∈ s.bus.queues cid ↔ s.presenceAt k = some ⟨k, cid, true⟩
  apart : ∀ j k cid, s.presenceAt j = some ⟨j, cid, true⟩ → s.presenceAt k = some ⟨k, cid, true⟩ →
    j = k

theorem Sound.congr {s t : Server} (h : s.Sound) (hb : t.bus = s.bus)
    (hp : ∀ k, t.presenceAt k = s.presenceAt k) : t.Sound where
  numbered k p hk := h.numbered k p (hp k ▸ hk)
  registered k cid := by rw [hb, hp]; exact h.registered k cid
  apart j k cid hj hk := h.apart j k cid (hp j ▸ hj) (hp k ▸ hk)

theorem Sound.presence {s : Server} (h : s.Sound) (hi : s.streams[i]? = some st) :
    s.presenceAt i = some ⟨i, st.correlationId, st.live⟩ := by
  have hp : s.presenceAt i = some st.presence := by rw [presenceAt, hi]; rfl
  have hr := h.numbered i _ hp
  rw [hp, Stream.presence] at *
  rw [show st.run = i from hr]

theorem Sound.run_eq {s : Server} (h : s.Sound) (hi : s.streams[i]? = some st) : st.run = i :=
  h.numbered i st.presence (by rw [presenceAt, hi]; rfl)

theorem streams_setStream {s : Server} (hi : s.streams[i]? = some st) (st' : Stream) (k : Nat) :
    (s.setStream i st').streams[k]? = if k = i then some st' else s.streams[k]? := by
  have hlt : i < s.streams.length := (List.getElem?_eq_some_iff.1 hi).1
  simp only [setStream, List.getElem?_set, hlt, if_true, eq_comm]

theorem presenceAt_set {s : Server} (hi : s.streams[i]? = some st) (bus : EventBus) (k : Nat) :
    presenceAt ⟨bus, s.streams.set i st'⟩ k =
      if k = i then some st'.presence else s.presenceAt k := by
  have hk := streams_setStream hi st' k
  simp only [setStream] at hk
  simp only [presenceAt, hk]
  split <;> rfl

theorem presenceAt_publish (s : Server) (m : Message) (k : Nat) :
    (s.publish m).presenceAt k = s.presenceAt k := by
  simp only [presenceAt, publish, List.getElem?_mapIdx, Option.map_map]
  congr 1
  funext st
  simp only [Function.comp]
  split
  · exact Stream.presence_put _ _
  · rfl

def Moves (C : AskContract) (s t : Server) : Prop :=
  ∀ (k : Nat) st', t.streams[k]? = some st' → ∃ st, s.streams[k]? = some st ∧ Move C st st'

theorem Moves.set {s : Server} {i : Nat} (hi : s.streams[i]? = some st) (hm : Move C st st')
    (bus : EventBus) : s.Moves C ⟨bus, s.streams.set i st'⟩ := by
  intro k x hx
  have hk := streams_setStream hi st' k
  simp only [setStream] at hk
  rw [hk] at hx
  split at hx
  · rename_i hki
    cases hx
    exact ⟨st, hki ▸ hi, hm⟩
  · exact ⟨x, hx, .stay⟩

theorem Sound.publish_streams {s : Server} (h : s.Sound) (hi : s.streams[i]? = some st)
    (hl : st.live = true) (hcid : m.event.correlationId = st.correlationId) (k : Nat) :
    (s.publish m).streams[k]? = if k = i then some (st.put m) else s.streams[k]? := by
  simp only [publish, List.getElem?_mapIdx, hcid]
  have hpi := h.presence hi
  rw [hl] at hpi
  by_cases hk : k = i
  · subst hk
    rw [hi, Option.map_some, if_pos ((h.registered k _).2 hpi), if_pos rfl]
  · simp only [if_neg fun hm => hk (h.apart k i _ ((h.registered k _).1 hm) hpi), if_neg hk]
    exact Option.map_id'

theorem Moves.publish {s : Server} (h : s.Sound) (hi : s.streams[i]? = some st)
    (hl : st.live = true) (hcid : m.event.correlationId = st.correlationId)
    (hm : Move C st (st.put m)) : s.Moves C (s.publish m) := by
  intro k x hx
  rw [h.publish_streams hi hl hcid] at hx
  split at hx
  · rename_i hk
    cases hx
    exact ⟨st, hk ▸ hi, hm⟩
  · exact ⟨x, hx, .stay⟩

theorem Sound.setStream {s : Server} (h : s.Sound) (hi : s.streams[i]? = some st)
    (hp : st'.presence = st.presence) : (s.setStream i st').Sound := by
  refine h.congr rfl fun k => ?_
  rw [Server.setStream, presenceAt_set hi]
  split
  · rename_i hk
    rw [hp, hk, presenceAt, hi]
    rfl
  · rfl

theorem Sound.subscribe {s : Server} (h : s.Sound) (hi : s.streams[i]? = some st)
    (hp : st.phase = .created)
    (hf : ∀ st' ∈ s.streams, st'.live = true → st'.correlationId ≠ st.correlationId) :
    Sound ⟨(s.bus.subscribe st.correlationId i).2, s.streams.set i st.beginWait⟩ := by
  have hfresh : ∀ k, s.presenceAt k ≠ some ⟨k, st.correlationId, true⟩ := by
    intro k hk
    simp only [presenceAt, Option.map_eq_some_iff] at hk
    obtain ⟨st', hst', hpres⟩ := hk
    exact hf st' (List.mem_of_getElem? hst') (congrArg Presence.live hpres)
      (congrArg Presence.correlationId hpres)
  have hnew : st.beginWait.presence = ⟨i, st.correlationId, true⟩ := by
    rw [← h.run_eq hi]
    rfl
  constructor
  · intro k p hk
    rw [presenceAt_set hi] at hk
    split at hk
    · rename_i hki
      rw [hnew] at hk
      cases hk
      exact hki.symm
    · exact h.numbered k p hk
  · intro k cid
    rw [EventBus.mem_queues_subscribe, presenceAt_set hi, h.registered k cid]
    split
    · rename_i hki
      rw [hnew, hki, Option.some.injEq, Presence.mk.injEq, h.presence hi]
      simp only [Stream.live, hp, Option.some.injEq, Presence.mk.injEq, true_and, and_true]
      constructor
      · rintro (⟨_, hl⟩ | rfl)
        · exact absurd hl (by decide)
        · rfl
      · exact fun hc => .inr hc.symm
    · rename_i hki
      exact ⟨fun hc => hc.resolve_right fun hc => hki hc.2, .inl⟩
  · intro j k cid hj hk
    rw [presenceAt_set hi] at hj hk
    split at hj <;> split at hk
    · rename_i hji hki
      rw [hji, hki]
    · rw [hnew] at hj
      cases hj
      exact absurd hk (hfresh k)
    · rw [hnew] at hk
      cases hk
      exact absurd hj (hfresh j)
    · exact h.apart j k cid hj hk

theorem presence_endStream (st : Stream) :
    st.endStream.presence = ⟨st.run, st.correlationId, false⟩ := rfl

theorem Sound.unsubscribe {s : Server} (h : s.Sound) (hi : s.streams[i]? = some st)
    (hl : st.live = true) :
    ∃ bus, s.bus.unsubscribe ⟨st.correlationId, i⟩ = .ok bus ∧
      Sound ⟨bus, s.streams.set i st.endStream⟩ := by
  have hpi := h.presence hi
  rw [hl] at hpi
  cases hu : s.bus.unsubscribe ⟨st.correlationId, i⟩ with
  | error e => exact absurd ((h.registered i _).2 hpi) (EventBus.unsubscribe_error hu)
  | ok bus =>
    refine ⟨bus, rfl, ?_⟩
    have hrun := h.run_eq hi
    constructor
    · intro k p hk
      rw [presenceAt_set hi] at hk
      split at hk
      · rename_i hki
        cases hk
        rw [hki]
        exact hrun
      · exact h.numbered k p hk
    · intro k cid
      rw [EventBus.mem_queues_unsubscribe hu, presenceAt_set hi, h.registered k cid]
      split
      · rename_i hki
        subst hki
        rw [hpi, presence_endStream]
        simp [eq_comm]
      · rename_i hki
        simp only [hki, and_false, not_false_eq_true, and_true]
    · intro j k cid hj hk
      rw [presenceAt_set hi] at hj hk
      split at hj
      · rw [presence_endStream] at hj
        cases hj
      · split at hk
        · rw [presence_endStream] at hk
          cases hk
        · exact h.apart j k cid hj hk

theorem Sound.publish_own {s : Server} (h : s.Sound) (hi : s.streams[i]? = some st)
    (hr : st.running = true)
    (hc : C.mayPublish st ((PipelineEventEmitter.mk st.correlationId).event call)) :
    let e := (PipelineEventEmitter.mk st.correlationId).event call
    ((s.setStream i (st.record e)).publish ⟨i, e⟩).Sound ∧
      s.Moves C ((s.setStream i (st.record e)).publish ⟨i, e⟩) := by
  intro e
  have hl : st.live = true := ((Bool.and_eq_true _ _).mp hr).1
  have hs : (s.setStream i (st.record e)).Sound := h.setStream hi rfl
  have hi' : (s.setStream i (st.record e)).streams[i]? = some (st.record e) := by
    rw [streams_setStream hi, if_pos rfl]
  refine ⟨hs.congr rfl (presenceAt_publish _ _), fun k x hx => ?_⟩
  rw [hs.publish_streams hi' hl (PipelineEventEmitter.event_correlationId _ _)] at hx
  split at hx
  · rename_i hk
    cases hx
    refine ⟨st, hk ▸ hi, ?_⟩
    have hmove : Move C st ((st.record e).put ⟨st.run, e⟩) :=
      .publish hr (PipelineEventEmitter.event_isHeartbeat _ _) hc
    rw [h.run_eq hi] at hmove
    exact hmove
  · rename_i hk
    rw [streams_setStream hi, if_neg hk] at hx
    exact ⟨x, hx, .stay⟩

/-- One admissible step keeps the streams apart and moves each of them on its own. -/
theorem step_moves {s t : Server} (h : s.Sound) (hs : s.Step a t) (ha : s.Admissible C a) :
    t.Sound ∧ s.Moves C t := by
  obtain ⟨st, hi, hs⟩ := Option.bind_eq_some_iff.1 hs
  have ha := ha st hi
  have hpi := h.presence hi
  have hrun := h.run_eq hi
  cases a with
  | publish i call =>
    obtain ⟨hr, hs⟩ := Option.ite_none_right_eq_some.1 hs
    cases hs
    exact h.publish_own (i := i) hi hr ha
  | heartbeat i ms =>
    obtain ⟨hl, hs⟩ := Option.ite_none_right_eq_some.1 hs
    cases hs
    exact ⟨h.congr rfl (presenceAt_publish _ _), .publish h hi hl rfl (.beat hl rfl hrun.symm)⟩
  | finish i o =>
    obtain ⟨hr, hs⟩ := Option.ite_none_right_eq_some.1 hs
    cases hs
    exact ⟨h.setStream hi rfl, .set hi (.finish hr ha) _⟩
  | run i =>
    obtain ⟨st', hst', rfl⟩ := Option.map_eq_some_iff.1 hs
    exact ⟨h.setStream hi (Stream.runNext_frame hst').presence, .set hi (.run hst') _⟩
  | close i =>
    obtain ⟨st', hst', rfl⟩ := Option.map_eq_some_iff.1 hs
    exact ⟨h.setStream hi (Stream.presence_close hst'), .set hi (.close hst') _⟩
  | next i =>
    simp only [stepStream] at hs
    split at hs
    · rename_i hp
      cases hs
      exact ⟨h.subscribe hi hp (ha hp), .set hi (.start hp) _⟩
    · obtain ⟨st', hst', rfl⟩ := Option.map_eq_some_iff.1 hs
      exact ⟨h.setStream hi (Stream.next_frame hst').presence, .set hi (.next hst') _⟩
  | unsubscribe i =>
    obtain ⟨⟨hp, ho⟩, hs⟩ := Option.ite_none_right_eq_some.1 hs
    obtain ⟨bus, hbus, hsound⟩ := h.unsubscribe hi (by simp [Stream.live, hp])
    have hbus' : s.bus.unsubscribe ⟨st.correlationId, (Action.unsubscribe i).stream⟩ = .ok bus :=
      hbus
    rw [hbus'] at hs
    cases hs
    exact ⟨hsound, .set hi (.finished hp ho) _⟩

theorem Sound.initial (requests : List StreamRequest) : (initial requests).Sound := by
  have hp : ∀ k p, (Server.initial requests).presenceAt k = some p →
      p.run = k ∧ p.live = false := by
    intro k p hk
    simp only [presenceAt, Server.initial, List.getElem?_mapIdx, Option.map_map,
      Option.map_eq_some_iff] at hk
    obtain ⟨r, _, rfl⟩ := hk
    exact ⟨rfl, rfl⟩
  refine ⟨fun k p hk => (hp k p hk).1, fun k cid => ⟨nofun, fun hk => ?_⟩, fun j k cid hj _ => ?_⟩
  · exact absurd (hp k _ hk).2 nofun
  · exact absurd (hp j _ hj).2 nofun

/-- Along an admissible run every stream keeps its invariant. -/
theorem run_ok (h : Run (Guarded Server.Step (Admissible C)) (.initial requests) as s) :
    s.Sound ∧ ∀ (k : Nat) st, s.streams[k]? = some st → st.Ok := by
  refine h.invariant (I := fun s => s.Sound ∧ ∀ (k : Nat) st, s.streams[k]? = some st → st.Ok)
    ⟨.initial requests, fun k st hk => ?_⟩ fun s a t ⟨hsound, hok⟩ ⟨hs, ha⟩ => ?_
  · simp only [Server.initial, List.getElem?_mapIdx, Option.map_eq_some_iff] at hk
    obtain ⟨r, _, rfl⟩ := hk
    exact .create _ _
  · obtain ⟨hsound', hmoves⟩ := step_moves hsound hs ha
    refine ⟨hsound', fun k st' hk => ?_⟩
    obtain ⟨st, hst, hmove⟩ := hmoves k st' hk
    exact hmove.ok (hok k st hst)

end Server

end QueryMind.Streaming
