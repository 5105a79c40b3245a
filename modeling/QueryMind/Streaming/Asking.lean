import QueryMind.Streaming.Isolation

namespace QueryMind.Streaming
open Lib
set_option autoImplicit true

instance : DecidableEq PipelineEvent := fun e e' =>
  decidable_of_iff (e.correlationId = e'.correlationId ∧ e.pipelineStage = e'.pipelineStage ∧
    e.eventType = e'.eventType ∧ Json.beqMembers e.payload e'.payload = true) (by
      rw [Json.beqMembers_iff]
      cases e
      cases e'
      rw [PipelineEvent.mk.injEq])

/-- The calls that a run makes of its publisher: the last one, and no other, ends it. -/
structure AskCalls where
  calls : List StageCallback
  ends : ∃ front last, calls = front ++ [last] ∧ (∀ c ∈ front, c.terminal = false) ∧
    last.terminal = true

namespace AskCalls

def events (p : AskCalls) (cid : String) : List PipelineEvent :=
  p.calls.map (PipelineEventEmitter.mk cid).event

theorem unended_or_whole (p : AskCalls) (h : es <+: p.events cid) :
    es.any (·.terminal) = false ∨ es = p.events cid := by
  obtain ⟨front, last, hp, hfront, _⟩ := p.ends
  have hev : p.events cid = front.map (PipelineEventEmitter.mk cid).event ++
      [(PipelineEventEmitter.mk cid).event last] := by
    rw [events, hp, List.map_append, List.map_singleton]
  rw [hev] at h ⊢
  rcases List.prefix_concat_iff.1 h with h | h
  · exact .inr h
  · left
    rw [List.any_eq_false]
    intro e he
    obtain ⟨c, hc, rfl⟩ := List.mem_map.1 (h.subset he)
    rw [PipelineEventEmitter.event_terminal, hfront c hc]
    exact Bool.false_ne_true

theorem events_terminal (p : AskCalls) (cid : String) :
    (p.events cid).any (·.terminal) = true := by
  obtain ⟨front, last, hp, _, hlast⟩ := p.ends
  refine List.any_eq_true.2 ⟨(PipelineEventEmitter.mk cid).event last, ?_, ?_⟩
  · rw [events, hp]
    exact List.mem_map_of_mem (List.mem_append_right _ (List.mem_singleton_self last))
  · rw [PipelineEventEmitter.event_terminal]
    exact hlast

theorem upTo_told (p : AskCalls) (h : es <+: p.events cid) : upTo (·.terminal) es = es := by
  rcases p.unended_or_whole h with he | rfl
  · exact upTo_of_none he
  · obtain ⟨front, last, hp, hfront, _⟩ := p.ends
    have hnone : (front.map (PipelineEventEmitter.mk cid).event).any (·.terminal) = false := by
      rw [List.any_eq_false]
      intro e he
      obtain ⟨c, hc, rfl⟩ := List.mem_map.1 he
      rw [PipelineEventEmitter.event_terminal, hfront c hc]
      exact Bool.false_ne_true
    rw [events, hp, List.map_append, List.map_singleton, upTo_append_of_none hnone, upTo]
    split <;> rfl

end AskCalls

/-- Run `k` makes the calls that it has to make, in their order. It returns when it has made them
all; while the driver cleans up it may also be cancelled. -/
def AskContract.asking (runs : Nat → AskCalls) : AskContract where
  mayPublish s e := s.published ++ [e] <+: (runs s.run).events s.correlationId
  mayFinish s o :=
    o.isRaised = false ∧ (s.phase = .cleanup ∨ s.published = (runs s.run).events s.correlationId)

instance (runs : Nat → AskCalls) (s : Server) (st : Stream) (a : Action) :
    Decidable (s.admits (.asking runs) st a) :=
  match a with
  | .publish _ _ => inferInstanceAs (Decidable (_ <+: _))
  | .finish _ _ => inferInstanceAs (Decidable (_ = false ∧ (_ ∨ _)))
  | .next _ => inferInstanceAs (Decidable (_ → ∀ _ ∈ _, _ → _ ≠ _))
  | .heartbeat _ _ | .run _ | .close _ | .unsubscribe _ => .isTrue trivial

instance (runs : Nat → AskCalls) (s : Server) (a : Action) :
    Decidable (s.Admissible (.asking runs) a) :=
  inferInstanceAs (Decidable (∀ st ∈ s.streams[a.stream]?, s.admits (.asking runs) st a))

namespace Stream

/-- A stream whose run has done as it should so far. -/
structure Follows (runs : Nat → AskCalls) (s : Stream) : Prop where
  told : s.published <+: (runs s.run).events s.correlationId
  quiet : ∀ o, s.outcome = some o → o.isRaised = false
  ending : s.closed = false → s.outcome.isSome = true →
    s.published = (runs s.run).events s.correlationId

theorem Frame.follows {s t : Stream} (hf : Frame s t) (h : s.Follows runs) : t.Follows runs := by
  have hrun : t.run = s.run := congrArg Presence.run hf.presence
  have hcid : t.correlationId = s.correlationId := congrArg Presence.correlationId hf.presence
  constructor
  · rw [hf.published, hrun, hcid]
    exact h.told
  · rw [hf.outcome]
    exact h.quiet
  · rw [hf.closed, hf.outcome, hf.published, hrun, hcid]
    exact h.ending

theorem Follows.finish {s : Stream} (h : s.Follows runs) (hok : s.Ok) (hr : s.running = true)
    (hc : (AskContract.asking runs).mayFinish s o) : (s.finish o).Follows runs where
  told := h.told
  quiet o' ho' := by
    cases ho'
    exact hc.1
  ending hcl _ := by
    rcases hc.2 with hp | hall
    · have hn : s.outcome = none := by
        simpa only [Option.isNone_iff_eq_none] using ((Bool.and_eq_true _ _).mp hr).2
      have hh := hok.history
      simp only [History, hp] at hh
      rcases hh with ⟨hcl', _⟩ | ⟨_, hh, _⟩
      · rw [show s.closed = false from hcl] at hcl'
        cases hcl'
      · have ht := hh.terminal_of_running hn
        rcases (runs s.run).unended_or_whole h.told with he | he
        · rw [he] at ht
          cases ht
        · exact he
    · exact hall

theorem Follows.move {s t : Stream} (h : s.Follows runs) (hok : s.Ok)
    (hm : Move (.asking runs) s t) : t.Follows runs := by
  cases hm with
  | stay => exact h
  | start => exact ⟨h.told, h.quiet, h.ending⟩
  | beat => exact (put_frame _ _).follows h
  | publish hr _ hc =>
    rename_i e _
    have hn : s.outcome = none := by
      simpa only [Option.isNone_iff_eq_none] using ((Bool.and_eq_true _ _).mp hr).2
    have hrec : (s.record e).Follows runs := by
      refine ⟨hc, h.quiet, fun _ hs => ?_⟩
      rw [show (s.record e).outcome = s.outcome from rfl, hn] at hs
      cases hs
    exact (put_frame _ _).follows hrec
  | finish hr hc => exact h.finish hok hr hc
  | run hr => exact (runNext_frame hr).follows h
  | next hn => exact (next_frame hn).follows h
  | close hc =>
    obtain ⟨_, rfl⟩ := close_eq hc
    exact ⟨h.told, h.quiet, nofun⟩
  | finished => exact ⟨h.told, h.quiet, h.ending⟩

theorem Follows.script {s : Stream} (h : s.Follows runs) : s.script = s.published := by
  have hf : s.failure = [] := by
    rw [failure]
    split
    · rename_i error ho
      exact absurd (h.quiet _ ho) (by rw [Outcome.isRaised]; exact Bool.true_eq_false.mp)
    · rfl
  rw [Stream.script, (runs s.run).upTo_told h.told, hf, ite_self, List.append_nil]

theorem Follows.items {s : Stream} (h : s.Follows runs) (hok : s.Ok) :
    answers s.items <+: (runs s.run).events s.correlationId :=
  (h.script ▸ hok.items_prefix).trans h.told

theorem Follows.whole {s : Stream} (h : s.Follows runs) (hok : s.Ok) (hp : s.phase = .ended)
    (hc : s.closed = false) : answers s.items = (runs s.run).events s.correlationId := by
  obtain ⟨hcomplete, _⟩ := hok.of_ended hp hc
  have hall : s.published = (runs s.run).events s.correlationId := by
    rcases hcomplete.finished with ht | ho
    · rcases (runs s.run).unended_or_whole h.told with he | he
      · rw [he] at ht
        cases ht
      · exact he
    · exact h.ending hc ho
  rw [hcomplete.all, h.script, hall]

end Stream

/-- Along a run whose live streams have distinct ids every stream follows its own run. -/
theorem Server.run_follows
    (h : Run (Guarded Server.Step (Server.Admissible (.asking runs))) (.initial requests) as s)
    {k : Nat} (hk : s.streams[k]? = some st) : st.Ok ∧ st.run = k ∧ st.Follows runs := by
  have hinv := h.invariant (I := fun s => s.Sound ∧ ∀ (k : Nat) st, s.streams[k]? = some st →
    st.Ok ∧ st.Follows runs)
  have hstart : ∀ (k : Nat) st, (Server.initial requests).streams[k]? = some st →
      st.Ok ∧ st.Follows runs := by
    intro k st hk
    simp only [Server.initial, List.getElem?_mapIdx, Option.map_eq_some_iff] at hk
    obtain ⟨r, _, rfl⟩ := hk
    refine ⟨.create _ _, List.nil_prefix, ?_, ?_⟩
    · intro o ho
      cases ho
    · intro _ ho
      cases ho
  obtain ⟨hsound, hst⟩ := hinv ⟨.initial requests, hstart⟩ (by
    intro s a t hs hstep
    obtain ⟨hsound, hst⟩ := hs
    obtain ⟨hstep, ha⟩ := hstep
    obtain ⟨hsound', hmoves⟩ := Server.step_moves hsound hstep ha
    refine ⟨hsound', ?_⟩
    intro k st' hk
    obtain ⟨st, hi, hmove⟩ := hmoves k st' hk
    obtain ⟨hok, hf⟩ := hst k st hi
    exact ⟨hmove.ok hok, hf.move hok hmove⟩)
  obtain ⟨hok, hf⟩ := hst k st hk
  exact ⟨hok, hsound.run_eq hk, hf⟩

end QueryMind.Streaming
