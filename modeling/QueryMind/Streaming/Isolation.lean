import QueryMind.Streaming.Moves

namespace QueryMind.Streaming
open Lib
set_option autoImplicit true

/-- What `QueryMindEngine.ask` says of itself: a terminal event is the last it publishes, and it
does not end without one, unless it raises or the driver no longer listens. -/
def AskContract.documented : AskContract where
  mayPublish s _ := s.published.any (·.terminal) = false
  mayFinish s o := s.phase = .cleanup ∨ s.published.any (·.terminal) = true ∨ o.isRaised = true

instance (s : Server) (st : Stream) (a : Action) : Decidable (s.admits .documented st a) :=
  match a with
  | .publish _ _ => inferInstanceAs (Decidable (_ = false))
  | .finish _ _ => inferInstanceAs (Decidable (_ ∨ _ = true ∨ _ = true))
  | .next _ => inferInstanceAs (Decidable (_ → ∀ _ ∈ _, _ → _ ≠ _))
  | .heartbeat _ _ | .run _ | .close _ | .unsubscribe _ => .isTrue trivial

instance (s : Server) (a : Action) : Decidable (s.Admissible .documented a) :=
  inferInstanceAs (Decidable (∀ st ∈ s.streams[a.stream]?, s.admits .documented st a))

namespace Stream

/-- What a run has to say: all it published, or its failure on top when it raised instead of
publishing a terminal event. -/
def ownAnswer (s : Stream) : List PipelineEvent :=
  s.published ++ if s.published.any (·.terminal) then [] else s.failure

/-- The consumer is given the events of run `k`, in order, and nothing of another run; a stream
that it does not leave ends with the terminal event of that run. -/
structure ReceivesOwn (k : Nat) (s : Stream) : Prop where
  own : ∀ m ∈ s.items, m.origin = k
  inOrder : answers s.items <+: s.ownAnswer
  whole : s.phase = .ended → s.closed = false → answers s.items = s.ownAnswer ∧ s.EndsTerminal

/-- The run has kept its contract so far. -/
structure Honoured (s : Stream) : Prop where
  terminalLast : upTo (·.terminal) s.published = s.published
  ending : s.closed = false → ∀ o, s.outcome = some o →
    s.published.any (·.terminal) = true ∨ o.isRaised = true

theorem Frame.honoured {s t : Stream} (hf : Frame s t) (h : s.Honoured) : t.Honoured where
  terminalLast := by rw [hf.published]; exact h.terminalLast
  ending hc o ho := by
    rw [hf.published]
    exact h.ending (hf.closed ▸ hc) o (hf.outcome ▸ ho)

theorem put_frame (s : Stream) (m : Message) : Frame s (s.put m) :=
  ⟨presence_put s m, put_outcome, put_published, put_closed⟩

theorem record_honoured {s : Stream} (ho : s.outcome = none)
    (ht : s.published.any (·.terminal) = false) : (s.record e).Honoured where
  terminalLast := by
    simp only [Stream.record, upTo_append_of_none ht, upTo]
    split <;> rfl
  ending _ o hs := by
    rw [show s.outcome = some o from hs] at ho
    cases ho

theorem Honoured.finish {s : Stream} (h : s.Honoured) (hok : s.Ok) (hr : s.running = true)
    (hc : AskContract.documented.mayFinish s o) : (s.finish o).Honoured where
  terminalLast := h.terminalLast
  ending hcl o' ho' := by
    cases ho'
    rcases hc with hp | hc
    · left
      have hn : s.outcome = none := by
        simpa only [Option.isNone_iff_eq_none] using ((Bool.and_eq_true _ _).mp hr).2
      have hh := hok.history
      simp only [History, hp] at hh
      rcases hh with ⟨hcl', _⟩ | ⟨_, hh, _⟩
      · rw [show s.closed = false from hcl] at hcl'
        cases hcl'
      · exact hh.terminal_of_running hn
    · exact hc

theorem Honoured.move {s t : Stream} (h : s.Honoured) (hok : s.Ok) (hm : Move .documented s t) :
    t.Honoured := by
  cases hm with
  | stay => exact h
  | start => exact ⟨h.terminalLast, h.ending⟩
  | beat => exact (put_frame _ _).honoured h
  | publish hr _ hc =>
    have hn : s.outcome = none := by
      simpa only [Option.isNone_iff_eq_none] using ((Bool.and_eq_true _ _).mp hr).2
    exact (put_frame _ _).honoured (record_honoured hn hc)
  | finish hr hc => exact h.finish hok hr hc
  | run hr => exact (runNext_frame hr).honoured h
  | next hn => exact (next_frame hn).honoured h
  | close hc =>
    obtain ⟨_, rfl⟩ := close_eq hc
    exact ⟨h.terminalLast, nofun⟩
  | finished => exact ⟨h.terminalLast, h.ending⟩

theorem Honoured.script {s : Stream} (h : s.Honoured) : s.script = s.ownAnswer := by
  rw [Stream.script, h.terminalLast, ownAnswer]

theorem Honoured.receivesOwn {s : Stream} (h : s.Honoured) (hok : s.Ok) : s.ReceivesOwn s.run where
  own m hm := hok.own m (by simp only [List.mem_append]; exact .inl (.inl hm))
  inOrder := h.script ▸ hok.items_prefix
  whole hp hc := by
    obtain ⟨hcomplete, hends⟩ := hok.of_ended hp hc
    refine ⟨h.script ▸ hcomplete.all, hends ?_⟩
    rw [h.script]
    by_cases ht : s.published.any (·.terminal) = true
    · rw [ownAnswer, List.any_append, ht, Bool.true_or]
    · obtain ⟨o, ho⟩ := Option.isSome_iff_exists.1 (hcomplete.finished.resolve_left ht)
      have hr := (h.ending hc o ho).resolve_left ht
      cases o with
      | returned | cancelled => cases hr
      | raised error =>
        simp only [ownAnswer, ht, failure, ho]
        simp

end Stream

/-- While live streams have distinct ids and runs keep their contract, no consumer is given an
event of another run, misses one of its own, or is ended by anything but its own run. -/
theorem streams_isolated
    (h : Run (Guarded Server.Step (Server.Admissible .documented)) (.initial requests) as s)
    {k : Nat} (hk : s.streams[k]? = some st) : st.ReceivesOwn k := by
  obtain ⟨hsound, hok⟩ := Server.run_ok h
  have hh : ∀ (k : Nat) st, s.streams[k]? = some st → st.Ok ∧ st.Honoured := by
    have hinv := h.invariant
      (I := fun s => s.Sound ∧ ∀ (k : Nat) st, s.streams[k]? = some st → st.Ok ∧ st.Honoured)
      ⟨.initial requests, fun k st hk => ?_⟩ fun s a t ⟨hsound, hst⟩ ⟨hs, ha⟩ => ?_
    · exact hinv.2
    · simp only [Server.initial, List.getElem?_mapIdx, Option.map_eq_some_iff] at hk
      obtain ⟨r, _, rfl⟩ := hk
      exact ⟨.create _ _, rfl, fun _ o ho => by cases ho⟩
    · obtain ⟨hsound', hmoves⟩ := Server.step_moves hsound hs ha
      refine ⟨hsound', fun k st' hk => ?_⟩
      obtain ⟨st, hi, hmove⟩ := hmoves k st' hk
      obtain ⟨hok, hhon⟩ := hst k st hi
      exact ⟨hmove.ok hok, hhon.move hok hmove⟩
  rw [← hsound.run_eq hk]
  exact (hh k st hk).2.receivesOwn (hok k st hk)

def traced (trace minted : String) : StreamRequest := ⟨none, some trace, minted, minted⟩

def opening (i : Nat) : List Action := [.next i, .run i]

def delivery (i : Nat) : List Action := [.run i, .run i, .run i]

def answered (i : Nat) (answer : String) : Action :=
  .publish i (.pipelineCompleted .success none (some (.str answer)))

/-- Two callers with ids of their own; the run of the first publishes its answer and returns. -/
def apartActions : List Action :=
  opening 0 ++ opening 1 ++ [answered 0 "42"] ++ delivery 0 ++
    [.finish 0 .returned, .next 0, .unsubscribe 0]

theorem streams_isolated_apart :
    ∃ s st, Run (Guarded Server.Step (Server.Admissible .documented))
        (.initial [traced "trace-1" "a", traced "trace-2" "b"]) apartActions s ∧
      s.streams[0]? = some st ∧ st.phase = .ended ∧ st.ReceivesOwn 0 := by
  have h : (runList (guardedNext Server.step (Server.Admissible .documented))
      (.initial [traced "trace-1" "a", traced "trace-2" "b"]) apartActions).map
        (fun s => s.streams[0]?.map (·.phase)) = some (some .ended) := by decide
  obtain ⟨s, hs, hp⟩ := Option.map_eq_some_iff.1 h
  obtain ⟨st, hst, hp⟩ := Option.map_eq_some_iff.1 hp
  exact ⟨s, st, runList_guarded hs, hst, hp, streams_isolated (runList_guarded hs) hst⟩

/-- Two callers that pass on one trace id: the second is given the answer to the first. -/
theorem foreign_answer_delivered :
    ∃ s st, Run Server.Step (.initial [traced "trace-1" "a", traced "trace-1" "b"])
        (opening 0 ++ opening 1 ++ [answered 0 "42"] ++ delivery 1) s ∧
      s.streams[1]? = some st ∧ ¬ st.ReceivesOwn 1 := by
  have h : (runList Server.step (.initial [traced "trace-1" "a", traced "trace-1" "b"])
      (opening 0 ++ opening 1 ++ [answered 0 "42"] ++ delivery 1)).map
        (fun s => s.streams[1]?.map (·.items.map (·.origin))) = some (some [0]) := by decide
  obtain ⟨s, hs, hi⟩ := Option.map_eq_some_iff.1 h
  obtain ⟨st, hst, hi⟩ := Option.map_eq_some_iff.1 hi
  refine ⟨s, st, runList_run hs, hst, fun hr => ?_⟩
  obtain ⟨m, hm, ho⟩ := List.mem_map.1 (hi ▸ List.mem_singleton.2 rfl : 0 ∈ st.items.map (·.origin))
  rw [hr.own m hm] at ho
  cases ho

end QueryMind.Streaming
