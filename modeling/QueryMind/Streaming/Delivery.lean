import QueryMind.Lib.UpTo
import QueryMind.Streaming.Stream

namespace QueryMind.Streaming
open Lib
set_option autoImplicit true

def answers (ms : List Message) : List PipelineEvent :=
  (ms.map (·.event)).filter (! ·.isHeartbeat)

@[simp] theorem answers_nil : answers [] = [] := rfl

@[simp] theorem answers_append (l l' : List Message) :
    answers (l ++ l') = answers l ++ answers l' := by
  simp only [answers, List.map_append, List.filter_append]

theorem answers_beat {m : Message} (h : m.event.isHeartbeat = true) : answers [m] = [] := by
  simp [answers, h]

theorem answers_own {m : Message} (h : m.event.isHeartbeat = false) : answers [m] = [m.event] := by
  simp [answers, h]

theorem answers_terminal {ms : List Message} :
    (answers ms).any (·.terminal) = ms.any (·.event.terminal) := by
  induction ms with
  | nil => rfl
  | cons m ms ih =>
    rw [← List.singleton_append, answers_append, List.any_append, List.any_append, ih]
    congr 1
    cases hb : m.event.isHeartbeat with
    | true => rw [answers_beat hb, List.any_cons, PipelineEvent.isHeartbeat_terminal hb]; rfl
    | false => rw [answers_own hb]; rfl

namespace Stream

/-- The event the get task holds, not yet given to the consumer. -/
def inTransit (s : Stream) : List Message :=
  match s.getTask with
  | .done m => [m]
  | _ => []

def failure (s : Stream) : List PipelineEvent :=
  match s.outcome with
  | some (.raised error) => [PipelineFailedEvent.create s.correlationId error]
  | _ => []

/-- What the consumer is to be given in all, heartbeats aside. -/
def script (s : Stream) : List PipelineEvent :=
  upTo (·.terminal) s.published ++ if s.published.any (·.terminal) then [] else s.failure

/-- Everything has been given, and nothing can be added. -/
structure Complete (s : Stream) : Prop where
  all : answers s.items = s.script
  finished : s.published.any (·.terminal) = true ∨ s.outcome.isSome = true

/-- The last item, and only the last, is a terminal event. -/
def EndsTerminal (s : Stream) : Prop :=
  ∃ pre m, s.items = pre ++ [m] ∧ m.event.terminal = true ∧ pre.any (·.event.terminal) = false

structure Ongoing (s : Stream) : Prop where
  account : answers (s.items ++ s.inTransit ++ s.queue) = s.published
  unfinished : s.items.any (·.event.terminal) = false
  present : s.closed = false

/-- What has been given so far, by where the driver stands. -/
def History (s : Stream) : Prop :=
  match s.phase with
  | .created => s.items = [] ∧ s.queue = [] ∧ s.published = [] ∧ s.outcome = none ∧ s.closed = false
  | .waiting | .yielded false => s.Ongoing
  | .yielded true => s.Complete ∧ s.EndsTerminal ∧ s.closed = false
  | .cleanup | .ended =>
    s.closed = true ∧ answers s.items <+: s.script ∨
      s.closed = false ∧ s.Complete ∧ (s.EndsTerminal ∨ s.items.any (·.event.terminal) = false)

def due (round : Nat) (ready : List Handle) : List Callback :=
  (ready.filter (·.round = round)).map (·.callback)

@[simp] theorem due_append (r : Nat) (l l' : List Handle) :
    due r (l ++ l') = due r l ++ due r l' := by
  simp only [due, List.filter_append, List.map_append]

@[simp] theorem due_nil (r : Nat) : due r [] = [] := rfl

@[simp] theorem due_cons_self (c : Callback) (r : Nat) (l : List Handle) :
    due r (⟨c, r⟩ :: l) = c :: due r l := by
  simp only [due, List.filter_cons, decide_true, if_true, List.map_cons]

theorem due_cons_of_ne {h : Handle} (hr : h.round ≠ r) : due r (h :: l) = due r l := by
  simp only [due, List.filter_cons, hr, decide_false, Bool.false_eq_true, if_false]

theorem due_later {l : List Handle} (h : ∀ x ∈ l, x.round ≤ r) : due (r + 1) l = [] := by
  simp only [due, List.map_eq_nil_iff, List.filter_eq_nil_iff, decide_eq_true_eq]
  intro x hx he
  have hle := h x hx
  omega

/-- While an event may be queued, the get task runs before the driver is told of the pipeline. -/
def Scheduled (s : Stream) : Prop :=
  match s.getTask with
  | .idle => False
  | .new => ∃ rest, due s.round s.ready = .getStep :: rest ∧ (s.outcome = none → rest = [])
  | .waiting => s.queue = [] ∧ (s.outcome = none → due s.round s.ready = [])
  | .woken =>
    (s.outcome = none → due s.round s.ready = [.getWakeup]) ∧
      (answers s.queue ≠ [] → ∃ rest, due s.round s.ready = .getWakeup :: rest)
  | .done _ => True

/-- The invariant of one stream that only its own run publishes to. -/
structure Ok (s : Stream) : Prop where
  rounds : ∀ h ∈ s.ready, h.round ≤ s.round
  scheduled : s.phase = .waiting → s.Scheduled
  idle : s.phase ≠ .waiting → s.getTask = .idle
  history : s.History
  own : ∀ m ∈ s.items ++ s.inTransit ++ s.queue, m.origin = s.run

theorem Ok.create (i : Nat) (cid : String) : (create i cid).Ok where
  rounds h hh := by cases hh
  scheduled h := by cases h
  idle _ := rfl
  history := ⟨rfl, rfl, rfl, rfl, rfl⟩
  own m hm := by cases hm

theorem script_of_running {s : Stream} (h : s.outcome = none) :
    s.script = upTo (·.terminal) s.published := by
  simp only [script, failure, h, ite_self, List.append_nil]

theorem script_of_terminal {s : Stream} (h : s.published.any (·.terminal) = true) :
    s.script = upTo (·.terminal) s.published := by
  simp only [script, h, if_true, List.append_nil]

theorem script_record {s : Stream} (h : s.outcome = none) : s.script <+: (s.record e).script := by
  rw [script_of_running h, script_of_running (s := s.record e) h]
  exact upTo_append_prefix _ _ _

theorem script_finish {s : Stream} (h : s.outcome = none) : s.script <+: (s.finish o).script := by
  rw [script_of_running h]
  exact List.prefix_append _ _

theorem Complete.terminal_of_running {s : Stream} (h : s.Complete) (ho : s.outcome = none) :
    s.published.any (·.terminal) = true :=
  h.finished.resolve_right (by rw [ho]; exact Bool.false_ne_true)

theorem Complete.record {s : Stream} (h : s.Complete) (ho : s.outcome = none) :
    (s.record e).Complete := by
  have ht := h.terminal_of_running ho
  have ht' : (s.record e).published.any (·.terminal) = true := by
    rw [Stream.record, List.any_append, ht, Bool.true_or]
  refine ⟨?_, .inl ht'⟩
  rw [script_of_terminal ht', Stream.record, upTo_append_of_any ht, ← script_of_terminal ht]
  exact h.all

theorem Complete.finish {s : Stream} (h : s.Complete) (ho : s.outcome = none) :
    (s.finish o).Complete := by
  have ht := h.terminal_of_running ho
  refine ⟨?_, .inl ht⟩
  rw [script_of_terminal (s := s.finish o) ht]
  exact h.all.trans (script_of_terminal ht)

section
variable {s : Stream}

@[simp] theorem put_run : (s.put m).run = s.run := by unfold put; split <;> rfl
@[simp] theorem put_correlationId : (s.put m).correlationId = s.correlationId := by
  unfold put; split <;> rfl
@[simp] theorem put_phase : (s.put m).phase = s.phase := by unfold put; split <;> rfl
@[simp] theorem put_outcome : (s.put m).outcome = s.outcome := by unfold put; split <;> rfl
@[simp] theorem put_round : (s.put m).round = s.round := by unfold put; split <;> rfl
@[simp] theorem put_items : (s.put m).items = s.items := by unfold put; split <;> rfl
@[simp] theorem put_closed : (s.put m).closed = s.closed := by unfold put; split <;> rfl
@[simp] theorem put_published : (s.put m).published = s.published := by unfold put; split <;> rfl
@[simp] theorem put_queue : (s.put m).queue = s.queue ++ [m] := by unfold put; split <;> rfl

@[simp] theorem put_inTransit : (s.put m).inTransit = s.inTransit := by
  unfold put
  split
  · rename_i h
    simp only [inTransit, h]
  · rfl

@[simp] theorem put_script : (s.put m).script = s.script := by
  simp only [script, failure, put_published, put_outcome, put_correlationId]

end

theorem rounds_put {s : Stream} (h : ∀ x ∈ s.ready, x.round ≤ s.round) :
    ∀ x ∈ (s.put m).ready, x.round ≤ (s.put m).round := by
  rw [put_round]
  unfold put
  split
  · intro x hx
    rcases List.mem_append.1 hx with hx | hx
    · exact h x hx
    · rw [List.mem_singleton.1 hx]
  · exact h

theorem Scheduled.put {s : Stream} (h : s.Scheduled)
    (hm : m.event.isHeartbeat = true ∨ s.outcome = none) : (s.put m).Scheduled := by
  simp only [Scheduled] at h
  simp only [Scheduled, Stream.put]
  cases hg : s.getTask with
  | idle => simp only [hg] at h
  | new => simpa only [hg] using h
  | done m' => trivial
  | waiting =>
    simp only [hg] at h ⊢
    obtain ⟨hq, hd⟩ := h
    refine ⟨fun ho => ?_, fun hne => ?_⟩
    · rw [due_append, hd ho, due_cons_self]
      rfl
    · rcases hm with hb | ho
      · rw [hq, List.nil_append, answers_beat hb] at hne
        exact absurd rfl hne
      · exact ⟨[], by rw [due_append, hd ho, due_cons_self]; rfl⟩
  | woken =>
    simp only [hg] at h ⊢
    obtain ⟨hd, hq⟩ := h
    refine ⟨hd, fun hne => ?_⟩
    rcases hm with hb | ho
    · rw [answers_append, answers_beat hb, List.append_nil] at hne
      exact hq hne
    · exact ⟨[], hd ho⟩

theorem idle_put {s : Stream} (h : s.getTask = .idle) : (s.put m).getTask = .idle := by
  simp only [put, h]

theorem own_put {s : Stream} (h : ∀ x ∈ s.items ++ s.inTransit ++ s.queue, x.origin = s.run)
    (hm : m.origin = s.run) :
    ∀ x ∈ (s.put m).items ++ (s.put m).inTransit ++ (s.put m).queue, x.origin = (s.put m).run := by
  rw [put_items, put_inTransit, put_queue, put_run, ← List.append_assoc]
  intro x hx
  rcases List.mem_append.1 hx with hx | hx
  · exact h x hx
  · rw [List.mem_singleton.1 hx, hm]

theorem Complete.put {s : Stream} (h : s.Complete) : (s.put m).Complete where
  all := by rw [put_items, put_script]; exact h.all
  finished := by rw [put_published, put_outcome]; exact h.finished

theorem EndsTerminal.put {s : Stream} (h : s.EndsTerminal) : (s.put m).EndsTerminal := by
  simpa only [EndsTerminal, put_items] using h

theorem Ongoing.beat {s : Stream} (h : s.Ongoing) (hb : m.event.isHeartbeat = true) :
    (s.put m).Ongoing where
  account := by
    rw [put_items, put_inTransit, put_queue, put_published, ← List.append_assoc, answers_append,
      answers_beat hb, List.append_nil]
    exact h.account
  unfinished := by rw [put_items]; exact h.unfinished
  present := by rw [put_closed]; exact h.present

theorem Ongoing.publish {s : Stream} (h : s.Ongoing) (hb : e.isHeartbeat = false) :
    ((s.record e).put ⟨s.run, e⟩).Ongoing where
  account := by
    rw [put_items, put_inTransit, put_queue, put_published, ← List.append_assoc, answers_append,
      answers_own hb]
    exact congrArg (· ++ [e]) h.account
  unfinished := by rw [put_items]; exact h.unfinished
  present := by rw [put_closed]; exact h.present

theorem live_cases {s : Stream} (h : s.live = true) :
    s.phase = .waiting ∨ s.phase = .yielded false ∨ s.phase = .yielded true ∨
      s.phase = .cleanup := by
  simp only [live, Bool.and_eq_true, decide_eq_true_eq] at h
  cases hp : s.phase with
  | created => exact absurd hp h.1
  | ended => exact absurd hp h.2
  | waiting => exact .inl rfl
  | cleanup => exact .inr (.inr (.inr rfl))
  | yielded last =>
    cases last
    · exact .inr (.inl rfl)
    · exact .inr (.inr (.inl rfl))

theorem Ok.beat {s : Stream} (h : s.Ok) (hl : s.live = true) (hb : m.event.isHeartbeat = true)
    (hm : m.origin = s.run) : (s.put m).Ok where
  rounds := rounds_put h.rounds
  scheduled hp := (h.scheduled (put_phase ▸ hp)).put (.inl hb)
  idle hp := idle_put (h.idle (put_phase ▸ hp))
  own := own_put h.own hm
  history := by
    have hh := h.history
    rcases live_cases hl with hp | hp | hp | hp <;> simp only [History, hp, put_phase] at hh ⊢
    · exact hh.beat hb
    · exact hh.beat hb
    · exact ⟨hh.1.put, hh.2.1.put, by rw [put_closed]; exact hh.2.2⟩
    · rw [put_closed, put_items, put_script]
      rcases hh with hh | ⟨hc, hh, he⟩
      · exact .inl hh
      · exact .inr ⟨hc, hh.put, he.imp EndsTerminal.put id⟩

theorem Ok.publish {s : Stream} (h : s.Ok) (hr : s.running = true) (hb : e.isHeartbeat = false) :
    ((s.record e).put ⟨s.run, e⟩).Ok := by
  simp only [running, Bool.and_eq_true, Option.isNone_iff_eq_none] at hr
  obtain ⟨hl, ho⟩ := hr
  have hp' : ((s.record e).put ⟨s.run, e⟩).phase = s.phase := put_phase
  refine ⟨rounds_put h.rounds, fun hp => ?_, fun hp => ?_, ?_, own_put h.own rfl⟩
  · exact Scheduled.put (s := s.record e) (h.scheduled (hp' ▸ hp)) (.inr ho)
  · exact idle_put (s := s.record e) (h.idle (hp' ▸ hp))
  · have hh := h.history
    rcases live_cases hl with hp | hp | hp | hp <;> simp only [History, hp, hp'] at hh ⊢
    · exact hh.publish hb
    · exact hh.publish hb
    · exact ⟨(hh.1.record ho).put, EndsTerminal.put (s := s.record e) hh.2.1,
        by rw [put_closed]; exact hh.2.2⟩
    · rw [put_closed, put_items, put_script]
      rcases hh with ⟨hc, hh⟩ | ⟨hc, hh, he⟩
      · exact .inl ⟨hc, hh.trans (script_record ho)⟩
      · exact .inr ⟨hc, (hh.record ho).put, he.imp (EndsTerminal.put (s := s.record e)) id⟩

end Stream

end QueryMind.Streaming
