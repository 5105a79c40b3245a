import QueryMind.Streaming.Isolation

namespace QueryMind.Streaming
open Lib
set_option autoImplicit true

namespace Stream

/-- No wake-up is lost: whatever the waiting driver depends on has its callback scheduled. -/
structure Alive (s : Stream) : Prop where
  driver : s.phase = .waiting → s.waiterSet = true → .driverWakeup ∈ due s.round s.ready
  event : s.phase = .waiting → s.waiterSet = false → s.getTask = .done m →
    .onGet ∈ due s.round s.ready
  pipeline : s.phase = .waiting → s.waiterSet = false → s.outcome.isSome = true →
    .onPipeline ∈ due s.round s.ready

theorem Alive.of_not_waiting {s : Stream} (hp : s.phase ≠ .waiting) : s.Alive :=
  ⟨fun h => absurd h hp, fun h => absurd h hp, fun h => absurd h hp⟩

theorem Alive.extend {s t : Stream} (h : s.Alive) (hp : t.phase = s.phase)
    (hw : t.waiterSet = s.waiterSet) (hg : ∀ m, t.getTask = .done m → s.getTask = .done m)
    (ho : t.outcome = s.outcome) (hd : ∀ c ∈ due s.round s.ready, c ∈ due t.round t.ready) :
    t.Alive where
  driver hph hwt := hd _ (h.driver (hp ▸ hph) (hw ▸ hwt))
  event hph hwt hgt := hd _ (h.event (hp ▸ hph) (hw ▸ hwt) (hg _ hgt))
  pipeline hph hwt hot := hd _ (h.pipeline (hp ▸ hph) (hw ▸ hwt) (ho ▸ hot))

theorem Alive.put {s : Stream} (h : s.Alive) (m : Message) : (s.put m).Alive := by
  refine h.extend put_phase ?_ ?_ put_outcome ?_
  · unfold Stream.put
    split <;> rfl
  · intro m' hm'
    unfold Stream.put at hm'
    split at hm'
    · cases hm'
    · exact hm'
  · intro c hc
    unfold Stream.put
    split
    · rw [due_append]
      exact List.mem_append_left _ hc
    · exact hc

theorem beginWait_alive (s : Stream) : s.beginWait.Alive where
  driver _ hw := by cases hw
  event _ _ hg := by cases hg
  pipeline _ _ ho := by
    have ho : s.outcome.isSome = true := ho
    simp only [Stream.beginWait, ho, if_true, due_append, due_cons_self, List.mem_append]
    exact .inr (.tail _ (.head _))

theorem Alive.finish {s : Stream} (h : s.Alive) (o : Outcome) : (s.finish o).Alive := by
  by_cases hp : s.phase = .waiting
  · have hd : due s.round (s.finish o).ready = due s.round s.ready ++ [.onPipeline] := by
      simp only [Stream.finish, hp, if_true, due_append, due_cons_self, due_nil]
    refine ⟨fun _ hw => ?_, fun _ hw hg => ?_, fun _ hw _ => ?_⟩
    · exact hd ▸ List.mem_append_left _ (h.driver hp hw)
    · exact hd ▸ List.mem_append_left _ (h.event hp hw hg)
    · exact hd ▸ List.mem_append_right _ (.head _)
  · exact .of_not_waiting hp

theorem mem_due_tail (h : x ∈ due r (⟨c, r⟩ :: l)) (hc : c ≠ x) : x ∈ due r l := by
  rw [due_cons_self] at h
  exact (List.mem_cons.1 h).resolve_left hc.symm

theorem perform_alive {s : Stream} (hp : s.phase = .waiting)
    (h : Alive { s with ready := ⟨c, s.round⟩ :: s.ready }) : (s.perform ⟨c, s.round⟩).Alive := by
  have hdriver : c ≠ .driverWakeup → s.waiterSet = true → .driverWakeup ∈ due s.round s.ready := by
    intro hc hw
    exact mem_due_tail (h.driver hp hw) hc
  have hevent : ∀ m, c ≠ .onGet → s.waiterSet = false → s.getTask = .done m →
      .onGet ∈ due s.round s.ready := by
    intro m hc hw hg
    exact mem_due_tail (h.event hp hw hg) hc
  have hpipeline : c ≠ .onPipeline → s.waiterSet = false → s.outcome.isSome = true →
      .onPipeline ∈ due s.round s.ready := by
    intro hc hw ho
    exact mem_due_tail (h.pipeline hp hw ho) hc
  have htake : c ≠ .driverWakeup → c ≠ .onPipeline → s.takeEvent.Alive := by
    intro hd ho
    unfold takeEvent
    split
    · exact ⟨fun _ => hdriver hd, nofun, fun _ => hpipeline ho⟩
    · have hsub : ∀ x ∈ due s.round s.ready, x ∈ due s.round (s.ready ++ [⟨.onGet, s.round⟩]) := by
        intro x hx
        rw [due_append]
        exact List.mem_append_left _ hx
      refine ⟨fun _ hw => hsub _ (hdriver hd hw), fun _ _ _ => ?_,
        fun _ hw hs => hsub _ (hpipeline ho hw hs)⟩
      rw [due_append, due_cons_self]
      exact List.mem_append_right _ (.head _)
  have hcomplete : c ≠ .driverWakeup → s.onCompletion.Alive := by
    intro hd
    unfold onCompletion
    split
    · rename_i hw
      exact ⟨fun _ => hdriver hd, fun _ hf => absurd (hw.symm.trans hf) nofun,
        fun _ hf => absurd (hw.symm.trans hf) nofun⟩
    · refine ⟨fun _ _ => ?_, nofun, nofun⟩
      rw [due_append, due_cons_self]
      exact List.mem_append_right _ (.head _)
  have hresume : s.resume.Alive := by
    refine .of_not_waiting ?_
    unfold resume
    split
    · exact nofun
    · split <;> exact nofun
  have hskip : c ≠ .driverWakeup → c ≠ .onPipeline → c ≠ .onGet → s.Alive := fun hd ho hg =>
    ⟨fun _ => hdriver hd, fun _ => hevent _ hg, fun _ => hpipeline ho⟩
  unfold perform
  rw [if_neg (not_or.2 ⟨not_not.2 rfl, not_not.2 hp⟩)]
  cases c with
  | onGet => exact hcomplete nofun
  | onPipeline => exact hcomplete nofun
  | driverWakeup => exact hresume
  | getStep =>
    split
    · exact htake nofun nofun
    · exact htake nofun nofun
    · exact hcomplete nofun
    · exact hcomplete nofun
    · exact hresume
    · exact hskip nofun nofun nofun
  | getWakeup =>
    split
    · exact htake nofun nofun
    · exact htake nofun nofun
    · exact hcomplete nofun
    · exact hcomplete nofun
    · exact hresume
    · exact hskip nofun nofun nofun

theorem Alive.runNext {s t : Stream} (h : s.Alive) (hn : s.runNext = some t) : t.Alive := by
  unfold Stream.runNext at hn
  split at hn
  · cases hn
  · rename_i hd l hready
    cases hn
    obtain ⟨c, r⟩ := hd
    by_cases hcur : r = s.round ∧ s.phase = .waiting
    · obtain ⟨rfl, hp⟩ := hcur
      refine perform_alive (s := { s with ready := l }) hp ?_
      exact h.extend rfl rfl (fun _ hg => hg) rfl fun x hx => by rwa [hready] at hx
    · have hstale : r ≠ s.round ∨ s.phase ≠ .waiting := not_and_or.1 hcur
      have hskip : perform { s with ready := l } ⟨c, r⟩ = { s with ready := l } := if_pos hstale
      rw [hskip]
      by_cases hp : s.phase = .waiting
      · refine h.extend rfl rfl (fun _ hg => hg) rfl fun x hx => ?_
        rwa [hready, due_cons_of_ne (h := ⟨c, r⟩) (hstale.resolve_right (not_not.2 hp))] at hx
      · exact .of_not_waiting hp

theorem Alive.move {s t : Stream} (h : s.Alive) (hm : Move C s t) : t.Alive := by
  cases hm with
  | stay => exact h
  | start => exact beginWait_alive s
  | beat => exact h.put _
  | publish => exact Alive.put (s := s.record _) ⟨h.driver, h.event, h.pipeline⟩ _
  | finish => exact h.finish _
  | run hr => exact h.runNext hr
  | next hn =>
    unfold Stream.next at hn
    split at hn <;> cases hn
    · exact .of_not_waiting nofun
    · exact beginWait_alive s
  | close hc =>
    obtain ⟨_, rfl⟩ := close_eq hc
    exact .of_not_waiting nofun
  | finished => exact .of_not_waiting nofun

theorem Alive.ready {s : Stream} (h : s.Alive) (hp : s.phase = .waiting)
    (ho : s.outcome.isSome = true) : ∃ t, s.runNext = some t := by
  have hne : s.ready ≠ [] := by
    intro hnil
    cases hw : s.waiterSet with
    | true => simpa [hnil] using h.driver hp hw
    | false => simpa [hnil] using h.pipeline hp hw ho
  unfold Stream.runNext
  split
  · exact absurd ‹_› hne
  · exact ⟨_, rfl⟩

/-- How many steps a stream can still make once its run is over. -/
def debt (s : Stream) : Nat :=
  s.ready.length +
    match s.phase with
    | .created | .ended => 0
    | .cleanup => 1
    | .yielded true => 2
    | .yielded false => 6 * s.queue.length + 12
    | .waiting =>
      (match s.getTask with | .new | .woken => 1 | _ => 0) + (if s.waiterSet then 0 else 1) +
        6 * (s.inTransit.length + s.queue.length) + 7

theorem perform_debt {s : Stream} (h : Handle) : (s.perform h).debt ≤ s.debt := by
  unfold perform
  split
  · exact le_refl _
  · rename_i hcur
    have hp : s.phase = .waiting := not_not.1 (not_or.1 hcur).2
    have htake : s.getTask = .new ∨ s.getTask = .woken → s.takeEvent.debt ≤ s.debt := by
      intro hg
      unfold takeEvent
      split
      · rename_i hq
        rcases hg with hg | hg <;> simp only [debt, hp, hg, hq, inTransit] <;> simp
      · rename_i m q hq
        rcases hg with hg | hg <;> simp only [debt, hp, hg, hq, inTransit]
        all_goals
          simp
          omega
    have hcomplete : s.onCompletion.debt ≤ s.debt := by
      unfold onCompletion
      split
      · exact le_refl _
      · rename_i hw
        simp only [debt, hp, hw, inTransit]
        simp
        omega
    have hdeliver : ∀ m, s.getTask = .done m → (s.deliver m m.event.terminal).debt ≤ s.debt := by
      intro m hg
      cases m.event.terminal with
      | false =>
        simp only [debt, deliver, hp, hg, inTransit, List.length_singleton]
        omega
      | true =>
        simp only [debt, deliver, hp]
        omega
    split
    · exact htake (.inl ‹_›)
    · exact htake (.inr ‹_›)
    · exact hcomplete
    · exact hcomplete
    · unfold resume
      split
      · exact hdeliver _ ‹_›
      · split
        · simp only [debt, deliver, hp]
          omega
        · simp only [debt, leave, hp]
          omega
    · exact le_refl _

theorem runNext_debt {s t : Stream} (h : s.runNext = some t) : t.debt < s.debt := by
  unfold Stream.runNext at h
  split at h
  · cases h
  · rename_i hd l hready
    cases h
    refine (perform_debt _).trans_lt ?_
    simp only [debt, hready, List.length_cons]
    exact Nat.add_lt_add_right (Nat.lt_succ_self _) _

theorem next_debt {s t : Stream} (h : s.next = some t) : t.debt < s.debt := by
  unfold Stream.next at h
  split at h
  · rename_i hp
    cases h
    simp only [debt, leave, hp]
    omega
  · rename_i hp
    cases h
    simp only [debt, beginWait, hp, inTransit, List.length_append, List.length_cons]
    split <;> simp <;> omega
  · cases h

end Stream

def Action.Reads : Action → Prop
  | .run _ | .next _ | .unsubscribe _ => True
  | _ => False

namespace Server

theorem run_alive (h : Run (Guarded Server.Step (Admissible C)) (.initial requests) as s) :
    s.Sound ∧ ∀ (k : Nat) st, s.streams[k]? = some st → st.Ok ∧ st.Alive := by
  have hinv := h.invariant (I := fun s => s.Sound ∧ ∀ (k : Nat) st, s.streams[k]? = some st →
    st.Ok ∧ st.Alive)
  have hstart : ∀ (k : Nat) st, (Server.initial requests).streams[k]? = some st →
      st.Ok ∧ st.Alive := by
    intro k st hk
    simp only [Server.initial, List.getElem?_mapIdx, Option.map_eq_some_iff] at hk
    obtain ⟨r, _, rfl⟩ := hk
    refine ⟨.create _ _, .of_not_waiting ?_⟩
    intro hp
    cases hp
  apply hinv ⟨.initial requests, hstart⟩
  intro s a t hs hstep
  obtain ⟨hsound, hst⟩ := hs
  obtain ⟨hstep, ha⟩ := hstep
  obtain ⟨hsound', hmoves⟩ := step_moves hsound hstep ha
  refine ⟨hsound', ?_⟩
  intro k st' hk
  obtain ⟨st, hi, hmove⟩ := hmoves k st' hk
  obtain ⟨hok, halive⟩ := hst k st hi
  exact ⟨hmove.ok hok, halive.move hmove⟩

theorem read_on {s : Server} {k : Nat} (hsound : s.Sound) (hk : s.streams[k]? = some st)
    (hok : st.Ok) (ha : st.Alive) (ho : st.outcome.isSome = true) (hp : st.phase ≠ .ended) :
    ∃ a bus st', a.Reads ∧ a.stream = k ∧ s.Step a ⟨bus, s.streams.set k st'⟩ ∧
      s.Admissible C a ∧ st'.outcome = st.outcome ∧ st'.closed = st.closed ∧
      st'.debt < st.debt := by
  have hstep : ∀ a : Action, a.stream = k → s.step a = s.stepStream k st a := by
    intro a ha
    rw [Server.step, ha, hk, Option.bind_some]
  cases hph : st.phase with
  | ended => exact absurd hph hp
  | created =>
    have hh := hok.history
    simp only [Stream.History, hph] at hh
    rw [hh.2.2.2.1] at ho
    cases ho
  | waiting =>
    obtain ⟨st', hr⟩ := ha.ready hph ho
    have hf := Stream.runNext_frame hr
    refine ⟨.run k, s.bus, st', trivial, rfl, ?_, fun _ _ => trivial, hf.outcome, hf.closed,
      Stream.runNext_debt hr⟩
    rw [Server.Step, hstep _ rfl, stepStream, hr, Option.map_some]
    rfl
  | yielded last =>
    obtain ⟨st', hn⟩ : ∃ st', st.next = some st' := by
      unfold Stream.next
      rw [hph]
      cases last <;> exact ⟨_, rfl⟩
    have hf := Stream.next_frame hn
    have hne : st.phase ≠ .created := by
      rw [hph]
      intro he
      cases he
    refine ⟨.next k, s.bus, st', trivial, rfl, ?_, ?_, hf.outcome, hf.closed,
      Stream.next_debt hn⟩
    · rw [Server.Step, hstep _ rfl, stepStream, if_neg hne, hn, Option.map_some]
      rfl
    · intro st₀ h₀ hp₀
      rw [show s.streams[(Action.next k).stream]? = some st from hk] at h₀
      cases h₀
      exact absurd hp₀ hne
  | cleanup =>
    obtain ⟨bus, hbus, _⟩ := hsound.unsubscribe hk (by rw [Stream.live, hph]; rfl)
    refine ⟨.unsubscribe k, bus, st.endStream, trivial, rfl, ?_, fun _ _ => trivial, rfl, rfl, ?_⟩
    · rw [Server.Step, hstep _ rfl, stepStream, if_pos ⟨hph, ho⟩, hbus]
    · simp only [Stream.debt, Stream.endStream, hph]
      omega

end Server

/-- A stream that was read to its end by steps of its own. -/
structure Drained (C : AskContract) (s : Server) (k : Nat) (st : Stream) (bs : List Action)
    (t : Server) (st' : Stream) : Prop where
  reads : ∀ a ∈ bs, a.Reads ∧ a.stream = k
  bounded : bs.length ≤ st.debt
  run : Run (Guarded Server.Step (Server.Admissible C)) s bs t
  stands : t.streams[k]? = some st'
  ended : st'.phase = .ended
  told : st.closed = false → answers st'.items = st'.script
  others : ∀ j, j ≠ k → t.streams[j]? = s.streams[j]?

/-- Whatever the others have done, a stream whose run is over comes to its end when it is read on,
after so many steps as it still has to make, and the other streams stay as they are. -/
theorem streams_drain
    (h : Run (Guarded Server.Step (Server.Admissible C)) (.initial requests) as s) {k : Nat}
    (hk : s.streams[k]? = some st) (ho : st.outcome.isSome = true) :
    ∃ bs t st', Drained C s k st bs t st' := by
  induction hn : st.debt using Nat.strong_induction_on generalizing as s st with
  | _ n ih =>
    obtain ⟨hsound, hst⟩ := Server.run_alive h
    obtain ⟨hok, halive⟩ := hst k st hk
    by_cases hp : st.phase = .ended
    · exact ⟨[], s, st, fun _ ha => absurd ha List.not_mem_nil, Nat.zero_le _, .nil, hk, hp,
        fun hc => (hok.of_ended hp hc).1.all, fun _ _ => rfl⟩
    · obtain ⟨a, bus, st₁, hr, hs, hstep, hadm, ho₁, hc₁, hlt⟩ :=
        Server.read_on hsound hk hok halive ho hp
      have hset : ∀ j, (s.streams.set k st₁)[j]? = if j = k then some st₁ else s.streams[j]? :=
        fun j => Server.streams_setStream hk st₁ j
      have hk₁ : (s.streams.set k st₁)[k]? = some st₁ := (hset k).trans (if_pos rfl)
      obtain ⟨bs, t, st', hd⟩ :=
        ih _ (hn ▸ hlt) (h.snoc ⟨hstep, hadm⟩) hk₁ (ho₁ ▸ ho) rfl
      refine ⟨a :: bs, t, st', ?_, ?_, .cons ⟨hstep, hadm⟩ hd.run, hd.stands, hd.ended, ?_, ?_⟩
      · intro b hb
        rcases List.mem_cons.1 hb with rfl | hb
        · exact ⟨hr, hs⟩
        · exact hd.reads b hb
      · have hb := hd.bounded
        rw [List.length_cons]
        omega
      · exact fun hc => hd.told (hc₁.trans hc)
      · exact fun j hj => (hd.others j hj).trans ((hset j).trans (if_neg hj))

/-- Two callers; the run of the first has published its answer and returned, unread. -/
def returnedActions : List Action :=
  opening 0 ++ opening 1 ++ [answered 0 "42", .finish 0 .returned]

theorem streams_drain_apart :
    ∃ s st, Run (Guarded Server.Step (Server.Admissible .documented))
        (.initial [traced "trace-1" "a", traced "trace-2" "b"]) returnedActions s ∧
      s.streams[0]? = some st ∧ st.phase = .waiting ∧
      ∃ bs t st', Drained .documented s 0 st bs t st' := by
  have h : (runList (guardedNext Server.step (Server.Admissible .documented))
      (.initial [traced "trace-1" "a", traced "trace-2" "b"]) returnedActions).map
        (fun s => s.streams[0]?.map (fun st => (st.phase, st.outcome.isSome))) =
      some (some (.waiting, true)) := by decide
  obtain ⟨s, hs, hp⟩ := Option.map_eq_some_iff.1 h
  obtain ⟨st, hst, hp⟩ := Option.map_eq_some_iff.1 hp
  obtain ⟨hphase, ho⟩ := Prod.mk.inj hp
  exact ⟨s, st, runList_guarded hs, hst, hphase, streams_drain (runList_guarded hs) hst ho⟩

end QueryMind.Streaming
