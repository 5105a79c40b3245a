import QueryMind.Streaming.EventBus
import QueryMind.Streaming.Models
import QueryMind.Lib.Transition
import Mathlib.Data.List.Nodup

namespace QueryMind.Streaming
open Lib
set_option autoImplicit true

/-- The bus with everything put so far into each queue it made, in the order they were made. -/
structure Broker where
  bus : EventBus
  received : List (List PipelineEvent)

inductive BusCall
  | subscribe (correlationId : String)
  | unsubscribe (subscription : Subscription)
  | publish (event : PipelineEvent)

inductive BusAnswer
  | subscribed (subscription : Subscription)
  | done
  | raised (error : UnknownSubscriptionError)

def BusCall.correlationId : BusCall → String
  | .subscribe cid => cid
  | .unsubscribe sub => sub.correlationId
  | .publish e => e.correlationId

namespace Broker

def initial : Broker := ⟨.empty, []⟩

def putNowait (received : List (List PipelineEvent)) (queue : Nat) (event : PipelineEvent) :
    List (List PipelineEvent) := received.modify queue (· ++ [event])

def putAll (event : PipelineEvent) :
    List Nat → List (List PipelineEvent) → List (List PipelineEvent)
  | [], received => received
  | queue :: queues, received => putAll event queues (putNowait received queue event)

def call (b : Broker) : BusCall → BusAnswer × Broker
  | .subscribe cid =>
    let (sub, bus) := b.bus.subscribe cid b.received.length
    (.subscribed sub, ⟨bus, b.received ++ [[]]⟩)
  | .unsubscribe sub =>
    match b.bus.unsubscribe sub with
    | .ok bus => (.done, { b with bus })
    | .error e => (.raised e, b)
  | .publish e => (.done, { b with received := putAll e (b.bus.queues e.correlationId) b.received })

def run (b : Broker) : List BusCall → List (BusCall × BusAnswer) × Broker
  | [] => ([], b)
  | c :: calls =>
    let (log, last) := (b.call c).2.run calls
    ((c, (b.call c).1) :: log, last)

def content (b : Broker) (queue : Nat) : List PipelineEvent := b.received[queue]?.getD []

end Broker

abbrev BusLog := List (BusCall × BusAnswer)

/-- The log since a subscription was made, which was not given back in it. -/
def Since (log : BusLog) (sub : Subscription) (later : BusLog) : Prop :=
  (∃ before, log = before ++ (.subscribe sub.correlationId, .subscribed sub) :: later) ∧
    ∀ a ∈ later, a.1 ≠ .unsubscribe sub

def Live (log : BusLog) (sub : Subscription) : Prop := ∃ later, Since log sub later

def BusCall.publishedTo (cid : String) : BusCall → Option PipelineEvent
  | .publish e => if e.correlationId = cid then some e else none
  | _ => none

/-- The events published to a correlation id, oldest first. -/
def publishedTo (cid : String) (log : BusLog) : List PipelineEvent :=
  log.filterMap (fun a => a.1.publishedTo cid)

theorem since_snoc : Since (log ++ [a]) sub later ↔
    (later = [] ∧ a = (.subscribe sub.correlationId, .subscribed sub)) ∨
      ∃ later', later = later' ++ [a] ∧ Since log sub later' ∧ a.1 ≠ .unsubscribe sub := by
  constructor
  · intro h
    obtain ⟨⟨before, hb⟩, hn⟩ := h
    rcases split_snoc hb with ⟨hl, _, ha⟩ | ⟨later', rfl, hl⟩
    · exact .inl ⟨hl, ha⟩
    · have ha := hn a (List.mem_append_right _ (List.mem_singleton_self a))
      exact .inr ⟨later', rfl, ⟨⟨before, hl⟩, fun y hy => hn y (List.mem_append_left _ hy)⟩, ha⟩
  · intro h
    rcases h with ⟨rfl, rfl⟩ | ⟨later', rfl, ⟨⟨before, rfl⟩, hn⟩, ha⟩
    · exact ⟨⟨log, rfl⟩, fun _ h => by cases h⟩
    · have hs : ∀ y ∈ later' ++ [a], y.1 ≠ .unsubscribe sub := by
        intro y hy
        rcases List.mem_append.1 hy with hy | hy
        · exact hn y hy
        · rw [List.mem_singleton.1 hy]
          exact ha
      exact ⟨⟨before, List.append_assoc ..⟩, hs⟩

theorem live_snoc : Live (log ++ [a]) sub ↔
    a = (.subscribe sub.correlationId, .subscribed sub) ∨
      Live log sub ∧ a.1 ≠ .unsubscribe sub := by
  constructor
  · intro h
    obtain ⟨later, hl⟩ := h
    rcases since_snoc.1 hl with ⟨_, ha⟩ | ⟨later', _, hs, ha⟩
    · exact .inl ha
    · exact .inr ⟨⟨later', hs⟩, ha⟩
  · intro h
    rcases h with ha | ⟨⟨later, hs⟩, ha⟩
    · exact ⟨[], since_snoc.2 (.inl ⟨rfl, ha⟩)⟩
    · exact ⟨later ++ [a], since_snoc.2 (.inr ⟨later, rfl, hs, ha⟩)⟩

namespace Broker

def Step (b : Broker) (a : BusCall × BusAnswer) (b' : Broker) : Prop := b.call a.1 = (a.2, b')

theorem run_run (b : Broker) (calls : List BusCall) :
    Run Step b (b.run calls).1 (b.run calls).2 := by
  induction calls generalizing b with
  | nil => exact .nil
  | cons c calls ih => exact .cons rfl (ih _)

theorem getElem?_putAll (event : PipelineEvent) (received : List (List PipelineEvent))
    (hn : queues.Nodup) :
    (putAll event queues received)[k]? =
      if k ∈ queues then received[k]?.map (· ++ [event]) else received[k]? := by
  induction queues generalizing received with
  | nil => rfl
  | cons q queues ih =>
    obtain ⟨hq, hn⟩ := List.nodup_cons.1 hn
    rw [putAll, ih _ hn, putNowait, List.getElem?_modify]
    by_cases hk : q = k
    · subst hk
      simp [hq]
    · simp [hk, Ne.symm hk]

theorem length_putAll (event : PipelineEvent) (queues : List Nat)
    (received : List (List PipelineEvent)) :
    (putAll event queues received).length = received.length := by
  induction queues generalizing received with
  | nil => rfl
  | cons q queues ih => rw [putAll, ih, putNowait, List.length_modify]

theorem subscribers_call (b : Broker) (hc : c.correlationId ≠ cid) :
    (b.call c).2.bus.subscribers cid = b.bus.subscribers cid := by
  cases c with
  | subscribe c => exact b.bus.subscribers_subscribe_other _ (Ne.symm hc)
  | unsubscribe sub =>
    simp only [Broker.call]
    cases hu : b.bus.unsubscribe sub with
    | error e => rfl
    | ok bus' =>
      obtain ⟨left, _, hb⟩ := EventBus.subscribers_unsubscribe hu
      simp only [hb]
      exact Function.update_of_ne (Ne.symm hc) ..
  | publish e => rfl

end Broker

/-- The bus says of each handle what the log says of it. -/
structure Coherent (log : BusLog) (b : Broker) : Prop where
  listed : ∀ sub, sub.queue ∈ b.bus.queues sub.correlationId ↔ Live log sub
  tidy : b.bus.Tidy
  made : ∀ sub, Live log sub → sub.queue < b.received.length
  single : ∀ sub sub', Live log sub → Live log sub' → sub.queue = sub'.queue → sub = sub'
  content : ∀ sub later, Since log sub later →
    b.content sub.queue = publishedTo sub.correlationId later

theorem publishedTo_snoc (cid : String) (log : BusLog) (a : BusCall × BusAnswer) :
    publishedTo cid (log ++ [a]) = publishedTo cid log ++ (a.1.publishedTo cid).toList := by
  rw [publishedTo, List.filterMap_append]
  cases h : a.1.publishedTo cid with
  | none => simp [publishedTo, h]
  | some e => simp [publishedTo, h]

theorem live_subscribe {s : Subscription} :
    Live (log ++ [(.subscribe s.correlationId, .subscribed s)]) sub ↔ sub = s ∨ Live log sub := by
  rw [live_snoc]
  constructor
  · intro h
    rcases h with he | ⟨hl, _⟩
    · cases (Prod.mk.inj he).2
      exact .inl rfl
    · exact .inr hl
  · intro h
    rcases h with rfl | hl
    · exact .inl rfl
    · exact .inr ⟨hl, BusCall.noConfusion⟩

theorem live_unsubscribe :
    Live (log ++ [(.unsubscribe s, ans)]) sub ↔ Live log sub ∧ sub ≠ s := by
  rw [live_snoc]
  constructor
  · intro h
    rcases h with he | ⟨hl, hs⟩
    · cases he
    · exact ⟨hl, fun he => hs (he ▸ rfl)⟩
  · intro h
    exact .inr ⟨h.1, fun he => h.2 (BusCall.unsubscribe.inj he).symm⟩

theorem live_publish : Live (log ++ [(.publish e, ans)]) sub ↔ Live log sub := by
  rw [live_snoc]
  constructor
  · intro h
    rcases h with he | ⟨hl, _⟩
    · cases he
    · exact hl
  · exact fun hl => .inr ⟨hl, fun he => by cases he⟩

namespace Coherent
variable {b : Broker}

theorem fresh (h : Coherent log b) (cid : String) : b.received.length ∉ b.bus.queues cid := by
  intro hm
  exact Nat.lt_irrefl _ (h.made _ ((h.listed ⟨cid, b.received.length⟩).1 hm))

theorem subscribe (h : Coherent log b) (cid : String) :
    Coherent (log ++ [(.subscribe cid, (b.call (.subscribe cid)).1)])
      (b.call (.subscribe cid)).2 := by
  let s : Subscription := ⟨cid, b.received.length⟩
  have hlive : ∀ sub, Live (log ++ [(.subscribe cid, (b.call (.subscribe cid)).1)]) sub ↔
      sub = s ∨ Live log sub := fun sub => live_subscribe (s := s)
  have hold : ∀ sub, Live log sub → sub.queue < b.received.length := h.made
  constructor
  · intro sub
    rw [hlive, ← h.listed]
    change sub.queue ∈ (b.bus.subscribe cid b.received.length).2.queues sub.correlationId ↔ _
    rw [EventBus.mem_queues_subscribe, or_comm]
    obtain ⟨c, k⟩ := sub
    simp [s]
  · exact h.tidy.subscribe h.fresh
  · intro sub hs
    simp only [Broker.call, List.length_append, List.length_singleton]
    rcases (hlive sub).1 hs with rfl | hs
    · exact Nat.lt_succ_self _
    · exact Nat.lt_succ_of_lt (hold sub hs)
  · intro sub sub' hs hs' hq
    rcases (hlive sub).1 hs with rfl | hs <;> rcases (hlive sub').1 hs' with rfl | hs'
    · rfl
    · exact absurd (hq ▸ hold sub' hs') (Nat.lt_irrefl _)
    · exact absurd (hq ▸ hold sub hs) (Nat.lt_irrefl _)
    · exact h.single sub sub' hs hs' hq
  · intro sub later hs
    rcases since_snoc.1 hs with ⟨rfl, ha⟩ | ⟨later', rfl, hs, _⟩
    · cases BusAnswer.subscribed.inj (Prod.mk.inj ha).2
      simp [Broker.content, Broker.call, EventBus.subscribe, publishedTo]
    · rw [publishedTo_snoc, ← h.content sub later' hs]
      have hk := hold sub ⟨later', hs⟩
      simp [Broker.content, Broker.call, BusCall.publishedTo, List.getElem?_append_left hk]

theorem unsubscribe (h : Coherent log b) (s : Subscription) :
    Coherent (log ++ [(.unsubscribe s, (b.call (.unsubscribe s)).1)])
      (b.call (.unsubscribe s)).2 := by
  have hr : (b.call (.unsubscribe s)).2.received = b.received := by
    simp only [Broker.call]
    split <;> rfl
  constructor
  · intro sub
    rw [live_unsubscribe, ← h.listed]
    simp only [Broker.call]
    cases hu : b.bus.unsubscribe s with
    | error e =>
      have hn := EventBus.unsubscribe_error hu
      constructor
      · intro hm
        exact ⟨hm, fun he => hn (he ▸ hm)⟩
      · exact And.left
    | ok bus' =>
      rw [EventBus.mem_queues_unsubscribe hu]
      obtain ⟨c, k⟩ := sub
      obtain ⟨c', k'⟩ := s
      simp
  · simp only [Broker.call]
    cases hu : b.bus.unsubscribe s with
    | error e => exact h.tidy
    | ok bus' => exact h.tidy.unsubscribe hu
  · intro sub hs
    rw [hr]
    exact h.made sub (live_unsubscribe.1 hs).1
  · intro sub sub' hs hs' hq
    exact h.single sub sub' (live_unsubscribe.1 hs).1 (live_unsubscribe.1 hs').1 hq
  · intro sub later hs
    rw [Broker.content, hr]
    rcases since_snoc.1 hs with ⟨_, ha⟩ | ⟨later', rfl, hs, _⟩
    · cases ha
    · rw [publishedTo_snoc, ← h.content sub later' hs]
      exact (List.append_nil _).symm

theorem publish (h : Coherent log b) (e : PipelineEvent) :
    Coherent (log ++ [(.publish e, (b.call (.publish e)).1)]) (b.call (.publish e)).2 := by
  constructor
  · exact fun sub => (h.listed sub).trans live_publish.symm
  · exact h.tidy
  · intro sub hs
    rw [Broker.call, Broker.length_putAll]
    exact h.made sub (live_publish.1 hs)
  · intro sub sub' hs hs' hq
    exact h.single sub sub' (live_publish.1 hs) (live_publish.1 hs') hq
  · intro sub later hs
    rcases since_snoc.1 hs with ⟨_, ha⟩ | ⟨later', rfl, hs, _⟩
    · cases ha
    have hl : Live log sub := ⟨later', hs⟩
    rw [publishedTo_snoc, ← h.content sub later' hs]
    simp only [Broker.content, Broker.call, BusCall.publishedTo]
    rw [Broker.getElem?_putAll e _ (h.tidy.nodup _)]
    have hk := List.getElem?_eq_getElem (h.made sub hl)
    split
    · rename_i hm
      have he : sub = ⟨e.correlationId, sub.queue⟩ :=
        h.single _ _ hl ((h.listed ⟨e.correlationId, sub.queue⟩).1 hm) rfl
      rw [if_pos (congrArg Subscription.correlationId he).symm, hk]
      rfl
    · rename_i hm
      have hc : e.correlationId ≠ sub.correlationId :=
        fun hc => hm (hc ▸ (h.listed sub).2 hl)
      rw [if_neg hc]
      exact (List.append_nil _).symm

theorem step (h : Coherent log b) (hs : Broker.Step b a b') : Coherent (log ++ [a]) b' := by
  obtain ⟨c, ans⟩ := a
  have ha : ans = (b.call c).1 := (congrArg Prod.fst hs).symm
  have hb : b' = (b.call c).2 := (congrArg Prod.snd hs).symm
  subst ha hb
  cases c with
  | subscribe cid => exact h.subscribe cid
  | unsubscribe sub => exact h.unsubscribe sub
  | publish e => exact h.publish e

theorem initial : Coherent [] .initial := by
  have hn : ∀ sub later, ¬ Since [] sub later := by
    intro sub later hs
    obtain ⟨⟨before, hb⟩, _⟩ := hs
    exact List.append_ne_nil_of_right_ne_nil before (List.cons_ne_nil _ _) hb.symm
  constructor
  · intro sub
    constructor
    · intro hm
      cases hm
    · intro hl
      obtain ⟨later, hs⟩ := hl
      exact absurd hs (hn sub later)
  · exact .empty
  · intro sub hl
    obtain ⟨later, hs⟩ := hl
    exact absurd hs (hn sub later)
  · intro sub _ hl
    obtain ⟨later, hs⟩ := hl
    exact absurd hs (hn sub later)
  · exact fun sub later hs => absurd hs (hn sub later)

theorem run (calls : List BusCall) :
    Coherent (Broker.initial.run calls).1 (Broker.initial.run calls).2 :=
  (Broker.run_run _ calls).invariant_trace .initial (fun _ _ _ _ h hs => h.step hs)

end Coherent

/-- What the bus owes its callers after a log. -/
structure Delivers (log : BusLog) (b : Broker) : Prop where
  received : ∀ sub later, Since log sub later → sub.queue ∈ b.bus.queues sub.correlationId ∧
    b.content sub.queue = publishedTo sub.correlationId later
  owned : ∀ sub sub', Live log sub → Live log sub' → sub.queue = sub'.queue → sub = sub'
  topics : ∀ cid, (b.bus.subscribers cid).isSome = true ↔
    ∃ sub, Live log sub ∧ sub.correlationId = cid
  released : ∀ sub, Live log sub → (b.call (.unsubscribe sub)).1 = .done
  unknown : ∀ sub, ¬ Live log sub →
    b.call (.unsubscribe sub) = (.raised ⟨EventBus.unsubscribe.unknown sub⟩, b)
  apart : ∀ c cid, c.correlationId ≠ cid →
    (b.call c).2.bus.subscribers cid = b.bus.subscribers cid ∧
      ∀ queue ∈ b.bus.queues cid, (b.call c).2.content queue = b.content queue

namespace Coherent
variable {b : Broker}

theorem call_done (h : Coherent log b) (hl : Live log sub) :
    (b.call (.unsubscribe sub)).1 = .done := by
  obtain ⟨bus', hu⟩ := b.bus.unsubscribe_of_mem ((h.listed sub).2 hl)
  simp only [Broker.call, hu]

theorem call_unknown (h : Coherent log b) (hl : ¬ Live log sub) :
    b.call (.unsubscribe sub) = (.raised ⟨EventBus.unsubscribe.unknown sub⟩, b) := by
  have hn := fun hm => hl ((h.listed sub).1 hm)
  simp only [Broker.call, b.bus.unsubscribe_of_not_mem hn]

theorem topic_iff (h : Coherent log b) (cid : String) :
    (b.bus.subscribers cid).isSome = true ↔ ∃ sub, Live log sub ∧ sub.correlationId = cid := by
  rw [h.tidy.isSome_iff]
  constructor
  · intro he
    obtain ⟨k, hk⟩ := he
    exact ⟨⟨cid, k⟩, (h.listed ⟨cid, k⟩).1 hk, rfl⟩
  · intro he
    obtain ⟨sub, hl, rfl⟩ := he
    exact ⟨sub.queue, (h.listed sub).2 hl⟩

theorem content_call (h : Coherent log b) (hc : c.correlationId ≠ cid)
    (hq : queue ∈ b.bus.queues cid) : (b.call c).2.content queue = b.content queue := by
  have hl := (h.listed ⟨cid, queue⟩).1 hq
  cases c with
  | subscribe c =>
    have hk : queue < b.received.length := h.made _ hl
    simp only [Broker.content, Broker.call, List.getElem?_append_left hk]
  | unsubscribe sub =>
    simp only [Broker.call]
    split <;> rfl
  | publish e =>
    have hn : queue ∉ b.bus.queues e.correlationId := by
      intro hm
      have he := h.single _ _ ((h.listed ⟨e.correlationId, queue⟩).1 hm) hl rfl
      exact hc (congrArg Subscription.correlationId he)
    simp only [Broker.content, Broker.call, Broker.getElem?_putAll e _ (h.tidy.nodup _), if_neg hn]

end Coherent

/-- Whatever is called in whatever order, the bus delivers as its log says. -/
theorem bus_delivers (calls : List BusCall) :
    Delivers (Broker.initial.run calls).1 (Broker.initial.run calls).2 := by
  have h := Coherent.run calls
  constructor
  · intro sub later hs
    exact ⟨(h.listed sub).2 ⟨later, hs⟩, h.content sub later hs⟩
  · exact h.single
  · exact h.topic_iff
  · exact fun sub hl => h.call_done hl
  · exact fun sub hl => h.call_unknown hl
  · intro c cid hc
    exact ⟨Broker.subscribers_call _ hc, fun queue hq => h.content_call hc hq⟩

end QueryMind.Streaming
