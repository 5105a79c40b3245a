import QueryMind.Streaming.Delivery

namespace QueryMind.Streaming
open Lib
set_option autoImplicit true

namespace Stream

theorem rounds_append {s : Stream} (h : ∀ x ∈ s.ready, x.round ≤ s.round) (c : Callback) :
    ∀ x ∈ s.ready ++ [⟨c, s.round⟩], x.round ≤ s.round := by
  intro x hx
  rcases List.mem_append.1 hx with hx | hx
  · exact h x hx
  · rw [List.mem_singleton.1 hx]

theorem Ongoing.inTransit_eq {s t : Stream} (h : s.Ongoing) (hi : t.items = s.items)
    (hq : t.inTransit ++ t.queue = s.inTransit ++ s.queue) (hp : t.published = s.published)
    (hc : t.closed = s.closed) : t.Ongoing where
  account := by
    rw [hi, List.append_assoc, hq, ← List.append_assoc, hp]
    exact h.account
  unfinished := by rw [hi]; exact h.unfinished
  present := by rw [hc]; exact h.present

theorem History.ready {s : Stream} (h : s.History) (l : List Handle) :
    History { s with ready := l } := by
  cases hp : s.phase with
  | created =>
    simp only [History, hp] at h ⊢
    exact h
  | waiting =>
    simp only [History, hp] at h ⊢
    exact h.inTransit_eq rfl rfl rfl rfl
  | yielded last =>
    cases last <;> simp only [History, hp] at h ⊢
    · exact h.inTransit_eq rfl rfl rfl rfl
    · exact ⟨⟨h.1.all, h.1.finished⟩, h.2⟩
  | cleanup | ended =>
    simp only [History, hp] at h ⊢
    rcases h with h | ⟨hc, hh, he⟩
    · exact .inl h
    · exact .inr ⟨hc, ⟨hh.all, hh.finished⟩, he⟩

theorem Ok.beginWait {s : Stream} (h : s.Ok) (hp : s.phase = .created ∨ s.phase = .yielded false) :
    s.beginWait.Ok := by
  have hidle : s.getTask = .idle := h.idle (by rcases hp with hp | hp <;> rw [hp] <;> exact nofun)
  have hitems : s.beginWait.items = s.items := rfl
  have hin : s.beginWait.inTransit = s.inTransit := by
    simp only [inTransit, hidle, Stream.beginWait]
  refine ⟨?_, fun _ => ?_, fun hne => absurd rfl hne, ?_, ?_⟩
  · intro x hx
    rcases List.mem_append.1 hx with hx | hx
    · exact (h.rounds x hx).trans (Nat.le_succ _)
    · rcases List.mem_cons.1 hx with rfl | hx
      · exact le_refl _
      · split at hx
        · rw [List.mem_singleton.1 hx]
          exact le_refl _
        · cases hx
  · refine ⟨due (s.round + 1) (if s.outcome.isSome then [⟨.onPipeline, s.round + 1⟩] else []),
      ?_, fun ho => ?_⟩
    · simp only [Stream.beginWait, due_append, due_later h.rounds, due_cons_self, List.nil_append]
    · have hn : s.outcome = none := ho
      simp only [hn, Option.isSome_none, Bool.false_eq_true, if_false, due_nil]
  · show s.beginWait.Ongoing
    have hh := h.history
    rcases hp with hp | hp
    · simp only [History, hp] at hh
      obtain ⟨hi, hq, hpub, _, hc⟩ := hh
      refine ⟨?_, ?_, hc⟩
      · rw [hin]
        simp only [Stream.beginWait, inTransit, hidle, hi, hq, hpub, List.append_nil, answers_nil]
      · rw [hitems, hi]
        rfl
    · simp only [History, hp] at hh
      exact hh.inTransit_eq rfl (by rw [hin]; rfl) rfl rfl
  · rw [hin]
    exact h.own

theorem Ok.finish {s : Stream} (h : s.Ok) (hr : s.running = true) : (s.finish o).Ok := by
  simp only [running, Bool.and_eq_true, Option.isNone_iff_eq_none] at hr
  obtain ⟨hl, ho⟩ := hr
  refine ⟨?_, fun hp => ?_, h.idle, ?_, h.own⟩
  · simp only [Stream.finish]
    split
    · exact rounds_append h.rounds _
    · exact h.rounds
  · have hw : s.phase = .waiting := hp
    have hs := h.scheduled hw
    simp only [Scheduled] at hs
    simp only [Scheduled, Stream.finish, hw, if_true, due_append, due_cons_self, due_nil]
    cases hg : s.getTask with
    | idle => simp only [hg] at hs
    | done m => trivial
    | new =>
      simp only [hg] at hs ⊢
      obtain ⟨rest, hd, _⟩ := hs
      exact ⟨rest ++ [.onPipeline], by rw [hd]; rfl, fun hn => by cases hn⟩
    | waiting =>
      simp only [hg] at hs ⊢
      exact ⟨hs.1, fun hn => by cases hn⟩
    | woken =>
      simp only [hg] at hs ⊢
      exact ⟨(fun hn => by cases hn), fun _ => ⟨[.onPipeline], by rw [hs.1 ho]; rfl⟩⟩
  · have hh := h.history
    have hp' : (s.finish o).phase = s.phase := rfl
    rcases live_cases hl with hp | hp | hp | hp <;> simp only [History, hp, hp'] at hh ⊢
    · exact hh.inTransit_eq rfl rfl rfl rfl
    · exact hh.inTransit_eq rfl rfl rfl rfl
    · exact ⟨hh.1.finish ho, hh.2⟩
    · rcases hh with ⟨hc, hh⟩ | ⟨hc, hh, he⟩
      · exact .inl ⟨hc, hh.trans (script_finish ho)⟩
      · exact .inr ⟨hc, hh.finish ho, he⟩

theorem Ok.leave {s : Stream} (h : s.Ok) (hh : (s.leave c).History) : (s.leave c).Ok where
  rounds := h.rounds
  scheduled hp := by cases hp
  idle _ := rfl
  history := hh
  own m hm := by
    refine h.own m ?_
    simp only [Stream.leave, inTransit, List.append_nil, List.mem_append] at hm ⊢
    exact hm.imp .inl id

theorem Ongoing.items_prefix {s : Stream} (h : s.Ongoing) : answers s.items <+: s.script := by
  have hn : (answers s.items).any (·.terminal) = false := by
    rw [answers_terminal]
    exact h.unfinished
  have hp : s.published = answers s.items ++ answers (s.inTransit ++ s.queue) := by
    rw [← answers_append, ← List.append_assoc]
    exact h.account.symm
  simp only [script, hp, upTo_append_of_none hn, List.append_assoc]
  exact List.prefix_append _ _

theorem Ok.items_prefix {s : Stream} (h : s.Ok) : answers s.items <+: s.script := by
  have hh := h.history
  cases hp : s.phase with
  | created =>
    simp only [History, hp] at hh
    rw [hh.1]
    exact List.nil_prefix
  | waiting =>
    simp only [History, hp] at hh
    exact hh.items_prefix
  | yielded last =>
    cases last <;> simp only [History, hp] at hh
    · exact hh.items_prefix
    · rw [hh.1.all]
  | cleanup | ended =>
    simp only [History, hp] at hh
    rcases hh with ⟨_, hh⟩ | ⟨_, hh, _⟩
    · exact hh
    · rw [hh.all]

theorem Ok.close {s : Stream} (h : s.Ok) (hc : s.close = some t) : t.Ok := by
  unfold Stream.close at hc
  split at hc
  all_goals cases hc
  all_goals exact h.leave (.inl ⟨rfl, h.items_prefix⟩)

theorem Ok.next {s : Stream} (h : s.Ok) (hn : s.next = some t) : t.Ok := by
  have hh := h.history
  unfold Stream.next at hn
  split at hn
  · rename_i hp
    cases hn
    simp only [History, hp] at hh
    obtain ⟨hc, he, hcl⟩ := hh
    exact h.leave (.inr ⟨hcl, ⟨hc.all, hc.finished⟩, .inl he⟩)
  · rename_i hp
    cases hn
    exact h.beginWait (.inr hp)
  · cases hn

theorem Ok.endStream {s : Stream} (h : s.Ok) (hp : s.phase = .cleanup) : s.endStream.Ok where
  rounds := h.rounds
  scheduled hw := by cases hw
  idle _ := h.idle (by rw [hp]; exact nofun)
  history := by
    have hh := h.history
    simp only [History, hp] at hh
    rcases hh with hh | ⟨hc, hh, he⟩
    · exact .inl hh
    · exact .inr ⟨hc, ⟨hh.all, hh.finished⟩, he⟩
  own := h.own

/-- The driver may be told: an event is at hand, or the run is over and none is left. -/
def Settled (s : Stream) : Prop :=
  match s.getTask with
  | .done _ => True
  | .waiting => s.queue = [] ∧ s.outcome ≠ none
  | .woken => answers s.queue = [] ∧ s.outcome ≠ none
  | _ => False

theorem Settled.scheduled {s : Stream} (h : s.Settled) : s.Scheduled := by
  simp only [Settled] at h
  simp only [Scheduled]
  cases hg : s.getTask with
  | idle | new => simp only [hg] at h
  | done m => trivial
  | waiting =>
    simp only [hg] at h ⊢
    exact ⟨h.1, fun ho => absurd ho h.2⟩
  | woken =>
    simp only [hg] at h ⊢
    exact ⟨fun ho => absurd ho h.2, fun hne => absurd h.1 hne⟩

theorem Scheduled.head {s : Stream} (h : Scheduled { s with ready := ⟨c, s.round⟩ :: s.ready }) :
    ((s.getTask = .new ∧ c = .getStep ∨ s.getTask = .woken ∧ c = .getWakeup) ∧
        (s.outcome = none → due s.round s.ready = [])) ∨
      s.Settled ∧ ¬ (s.getTask = .woken ∧ c = .getWakeup) := by
  simp only [Scheduled, due_cons_self] at h
  simp only [Settled]
  cases hg : s.getTask with
  | idle => simp only [hg] at h
  | new =>
    simp only [hg] at h
    obtain ⟨rest, hd, hr⟩ := h
    obtain ⟨rfl, rfl⟩ := List.cons.inj hd
    exact .inl ⟨.inl ⟨rfl, rfl⟩, hr⟩
  | waiting =>
    simp only [hg] at h
    exact .inr ⟨⟨h.1, fun ho => List.cons_ne_nil _ _ (h.2 ho)⟩, fun hw => by cases hw.1⟩
  | done m => exact .inr ⟨trivial, fun hw => by cases hw.1⟩
  | woken =>
    simp only [hg] at h
    obtain ⟨hd, hq⟩ := h
    by_cases hc : c = .getWakeup
    · exact .inl ⟨.inr ⟨rfl, hc⟩, fun ho => (List.cons.inj (hd ho)).2⟩
    · refine .inr ⟨⟨by_contra fun hne => ?_, fun ho => hc (List.cons.inj (hd ho)).1⟩,
        fun h => hc h.2⟩
      obtain ⟨rest, hd⟩ := hq hne
      exact hc (List.cons.inj hd).1

theorem Ok.of_waiting {s : Stream} (hp : s.phase = .waiting)
    (hr : ∀ x ∈ s.ready, x.round ≤ s.round) (hs : s.Scheduled) (hh : s.Ongoing)
    (hown : ∀ m ∈ s.items ++ s.inTransit ++ s.queue, m.origin = s.run) : s.Ok where
  rounds := hr
  scheduled _ := hs
  idle hne := absurd hp hne
  history := by simpa only [History, hp] using hh
  own := hown

theorem takeEvent_ok {s : Stream} (hp : s.phase = .waiting)
    (hr : ∀ x ∈ s.ready, x.round ≤ s.round) (hh : s.Ongoing)
    (hown : ∀ m ∈ s.items ++ s.inTransit ++ s.queue, m.origin = s.run) (hin : s.inTransit = [])
    (hd : s.outcome = none → due s.round s.ready = []) : s.takeEvent.Ok := by
  unfold takeEvent
  split
  · rename_i hq
    refine .of_waiting hp hr ⟨hq, hd⟩ (hh.inTransit_eq rfl ?_ rfl rfl) ?_
    · rw [hin]
      rfl
    · rw [hin] at hown
      exact hown
  · rename_i m queue hq
    refine .of_waiting hp (rounds_append hr _) trivial (hh.inTransit_eq rfl ?_ rfl rfl) ?_
    · rw [hin, hq]
      rfl
    · rw [hin, hq, List.append_nil] at hown
      simpa only [inTransit, List.append_assoc, List.singleton_append] using hown

theorem onCompletion_ok {s : Stream} (hp : s.phase = .waiting)
    (hr : ∀ x ∈ s.ready, x.round ≤ s.round) (hh : s.Ongoing)
    (hown : ∀ m ∈ s.items ++ s.inTransit ++ s.queue, m.origin = s.run) (hs : s.Settled) :
    s.onCompletion.Ok := by
  unfold onCompletion
  split
  · exact .of_waiting hp hr hs.scheduled hh hown
  · exact .of_waiting hp (rounds_append hr _) (Settled.scheduled hs)
      (hh.inTransit_eq rfl rfl rfl rfl) hown

theorem deliver_ok {s : Stream} (hr : ∀ x ∈ s.ready, x.round ≤ s.round) (hh : s.Ongoing)
    (hown : ∀ m ∈ s.items ++ s.inTransit ++ s.queue, m.origin = s.run)
    (hg : s.getTask = .done m) : (s.deliver m m.event.terminal).Ok := by
  have hin : s.inTransit = [m] := by simp only [inTransit, hg]
  have hacc := hh.account
  rw [hin] at hown hacc
  refine ⟨hr, (fun hp => by cases hp), fun _ => rfl, ?_, ?_⟩
  · cases ht : m.event.terminal with
    | false =>
      refine ⟨?_, ?_, hh.present⟩
      · simpa only [Stream.deliver, inTransit, List.append_nil] using hacc
      · simp only [Stream.deliver, List.any_append, hh.unfinished, List.any_cons, ht, List.any_nil,
          Bool.or_false]
    | true =>
      have hb := PipelineEvent.isHeartbeat_of_terminal ht
      have hpub : s.published = answers s.items ++ m.event :: answers s.queue := by
        rw [← hacc, answers_append, answers_append, answers_own hb, List.append_assoc]
        rfl
      have hany : s.published.any (·.terminal) = true := by
        rw [hpub, List.any_append, List.any_cons, ht, Bool.true_or, Bool.or_true]
      refine ⟨⟨?_, .inl hany⟩, ⟨s.items, m, rfl, ht, hh.unfinished⟩, hh.present⟩
      have hn : (answers s.items).any (·.terminal) = false := by
        rw [answers_terminal]
        exact hh.unfinished
      rw [script_of_terminal (s := s.deliver m true) hany]
      simp only [Stream.deliver, answers_append, answers_own hb, hpub, upTo_append_of_none hn, upTo,
        ht, if_true]
  · simpa only [Stream.deliver, inTransit, List.append_nil] using hown

theorem resume_ok {s : Stream} (hp : s.phase = .waiting)
    (hr : ∀ x ∈ s.ready, x.round ≤ s.round) (hh : s.Ongoing)
    (hown : ∀ m ∈ s.items ++ s.inTransit ++ s.queue, m.origin = s.run) (hs : s.Settled) :
    s.resume.Ok := by
  by_cases hdone : ∃ m, s.getTask = .done m
  · obtain ⟨m, hg⟩ := hdone
    simp only [resume, hg]
    exact deliver_ok hr hh hown hg
  · have hin : s.inTransit = [] := by
      simp only [inTransit]
      split
      · exact absurd ⟨_, ‹_›⟩ hdone
      · rfl
    have hq : answers s.queue = [] ∧ s.outcome ≠ none := by
      simp only [Settled] at hs
      split at hs
      · exact absurd ⟨_, ‹_›⟩ hdone
      · exact ⟨by rw [hs.1]; rfl, hs.2⟩
      · exact hs
      · exact hs.elim
    obtain ⟨hq, ho⟩ := hq
    obtain ⟨o, ho⟩ := Option.ne_none_iff_exists'.1 ho
    have hpub : s.published = answers s.items := by
      rw [← hh.account, hin, List.append_nil, answers_append, hq, List.append_nil]
    have hn : s.published.any (·.terminal) = false := by
      rw [hpub, answers_terminal]
      exact hh.unfinished
    have hscript : s.script = s.published ++ s.failure := by
      simp only [script, hn, upTo_of_none hn, Bool.false_eq_true, if_false]
    unfold resume
    split
    · exact absurd ⟨_, ‹_›⟩ hdone
    · split
      · rename_i error he
        refine ⟨hr, (fun hp => by cases hp), fun _ => rfl,
          ⟨⟨?_, .inr (by rw [Stream.deliver, he]; rfl)⟩, ⟨s.items, _, rfl, rfl, hh.unfinished⟩,
            hh.present⟩, ?_⟩
        · show _ = s.script
          rw [hscript, hpub, Stream.deliver, answers_append, answers_own rfl, failure, he]
        · intro m hm
          simp only [Stream.deliver, inTransit, List.append_nil, List.mem_append,
            List.mem_singleton] at hm
          rcases hm with (hm | rfl) | hm
          · exact hown m (by simp [hm])
          · rfl
          · exact hown m (by simp [hm])
      · rename_i hne
        refine Ok.leave (.of_waiting hp hr hs.scheduled hh hown)
          (.inr ⟨hh.present, ⟨?_, .inr (by rw [Stream.leave, ho]; rfl)⟩, .inr hh.unfinished⟩)
        show _ = s.script
        have hf : s.failure = [] := by
          unfold failure
          split
          · exact absurd ‹_› (hne _)
          · rfl
        rw [hscript, hf, List.append_nil, hpub]
        rfl

theorem perform_ok {s : Stream} (hp : s.phase = .waiting)
    (hr : ∀ x ∈ s.ready, x.round ≤ s.round) (hh : s.Ongoing)
    (hown : ∀ m ∈ s.items ++ s.inTransit ++ s.queue, m.origin = s.run)
    (hs : Scheduled { s with ready := ⟨c, s.round⟩ :: s.ready }) : (s.perform ⟨c, s.round⟩).Ok := by
  unfold perform
  rw [if_neg (not_or.2 ⟨not_not.2 rfl, not_not.2 hp⟩)]
  rcases hs.head with ⟨hg, hd⟩ | ⟨hset, hne⟩
  · have hin : s.inTransit = [] := by
      rcases hg with ⟨hg, _⟩ | ⟨hg, _⟩ <;> simp only [inTransit, hg]
    have htake := takeEvent_ok hp hr hh hown hin hd
    rcases hg with ⟨hg, hc⟩ | ⟨hg, hc⟩ <;> simpa only [hg, hc] using htake
  · split
    · rename_i hg
      simp only [Settled, hg] at hset
    · rename_i hc hg
      exact absurd ⟨hg, hc⟩ hne
    · exact onCompletion_ok hp hr hh hown hset
    · exact onCompletion_ok hp hr hh hown hset
    · exact resume_ok hp hr hh hown hset
    · exact .of_waiting hp hr hset.scheduled hh hown

theorem Ok.runNext {s : Stream} (h : s.Ok) (hn : s.runNext = some t) : t.Ok := by
  unfold Stream.runNext at hn
  split at hn
  · cases hn
  · rename_i hd l hready
    cases hn
    obtain ⟨c, r⟩ := hd
    have hrounds : ∀ x ∈ l, x.round ≤ s.round := fun x hx =>
      h.rounds x (by rw [hready]; exact List.mem_cons_of_mem _ hx)
    have hh := h.history.ready l
    by_cases hcur : r = s.round ∧ s.phase = .waiting
    · obtain ⟨rfl, hp⟩ := hcur
      have hs := h.scheduled hp
      refine perform_ok (s := { s with ready := l }) hp hrounds ?_ h.own ?_
      · simpa only [History, hp] using hh
      · simpa only [Scheduled, hready] using hs
    · have hstale : r ≠ s.round ∨ s.phase ≠ .waiting := not_and_or.1 hcur
      have hskip : perform { s with ready := l } ⟨c, r⟩ = { s with ready := l } := if_pos hstale
      rw [hskip]
      refine ⟨hrounds, fun hp => ?_, h.idle, hh, h.own⟩
      have hs := h.scheduled hp
      have hne : r ≠ s.round := hstale.resolve_right (fun hne => hne hp)
      simpa only [Scheduled, hready, due_cons_of_ne (h := ⟨c, r⟩) hne] using hs

theorem EndsTerminal.answers {s : Stream} (h : s.EndsTerminal) :
    ∃ pre m, s.items = pre ++ [m] ∧ m.event.terminal = true ∧ pre.any (·.event.terminal) = false ∧
      Streaming.answers s.items = Streaming.answers pre ++ [m.event] := by
  obtain ⟨pre, m, hi, ht, hpre⟩ := h
  refine ⟨pre, m, hi, ht, hpre, ?_⟩
  rw [hi, answers_append, answers_own (PipelineEvent.isHeartbeat_of_terminal ht)]

theorem Ok.of_ended {s : Stream} (h : s.Ok) (hp : s.phase = .ended) (hc : s.closed = false) :
    s.Complete ∧ (s.script.any (·.terminal) = true → s.EndsTerminal) := by
  have hh := h.history
  simp only [History, hp] at hh
  rcases hh with ⟨hc', _⟩ | ⟨_, hh, he⟩
  · rw [hc] at hc'
    cases hc'
  · refine ⟨hh, fun hany => he.resolve_right fun hno => ?_⟩
    rw [← hh.all, answers_terminal, hno] at hany
    cases hany

end Stream

end QueryMind.Streaming
