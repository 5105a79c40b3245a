import Mathlib.Logic.Function.Basic
import Mathlib.Data.List.Basic

namespace QueryMind.Streaming
set_option autoImplicit true

structure UnknownSubscriptionError where
  message : String
  deriving DecidableEq, Repr

/-- A handle to a queue, which is named by a number of its own. -/
structure Subscription where
  correlationId : String
  queue : Nat
  deriving DecidableEq, Repr

/-- The queues registered for each correlation id; a topic without entry is not in the bus. -/
structure EventBus where
  subscribers : String → Option (List Nat)

namespace EventBus

def empty : EventBus := ⟨fun _ => none⟩

def queues (bus : EventBus) (cid : String) : List Nat := (bus.subscribers cid).getD []

/-- Register a queue, which nobody else holds, and return a handle to it. -/
def subscribe (bus : EventBus) (cid : String) (queue : Nat) : Subscription × EventBus :=
  (⟨cid, queue⟩, ⟨Function.update bus.subscribers cid (some (bus.queues cid ++ [queue]))⟩)

def unsubscribe (bus : EventBus) (sub : Subscription) :
    Except UnknownSubscriptionError EventBus :=
  match bus.subscribers sub.correlationId with
  | none => .error ⟨unknown sub⟩
  | some queues =>
    if sub.queue ∉ queues then .error ⟨unknown sub⟩
    else
      let left := queues.filter (· ≠ sub.queue)
      .ok ⟨Function.update bus.subscribers sub.correlationId
        (if left = [] then none else some left)⟩
where
  unknown (sub : Subscription) : String :=
    "No active subscription for correlation_id='" ++ sub.correlationId ++
      "' matches this queue -- it may already have been unsubscribed."

def subscriberCount (bus : EventBus) (cid : String) : Nat := (bus.queues cid).length

theorem queues_subscribe (bus : EventBus) (cid c : String) (queue : Nat) :
    (bus.subscribe cid queue).2.queues c =
      if c = cid then bus.queues cid ++ [queue] else bus.queues c := by
  simp only [subscribe, queues, Function.update_apply]
  split <;> rfl

theorem mem_queues_subscribe {bus : EventBus} :
    k ∈ (bus.subscribe cid queue).2.queues c ↔ k ∈ bus.queues c ∨ c = cid ∧ k = queue := by
  rw [queues_subscribe]
  split
  · rename_i hc
    subst hc
    simp only [List.mem_append, List.mem_singleton, true_and]
  · rename_i hc
    simp only [hc, false_and, or_false]

theorem unsubscribe_error {bus : EventBus} (h : bus.unsubscribe sub = .error e) :
    sub.queue ∉ bus.queues sub.correlationId := by
  simp only [unsubscribe] at h
  split at h
  · rename_i hn
    simp [queues, hn]
  · rename_i l hs
    split at h
    · rename_i hn
      simpa [queues, hs] using hn
    · cases h

theorem mem_queues_unsubscribe {bus bus' : EventBus} (h : bus.unsubscribe sub = .ok bus') :
    k ∈ bus'.queues c ↔ k ∈ bus.queues c ∧ ¬ (c = sub.correlationId ∧ k = sub.queue) := by
  simp only [unsubscribe] at h
  split at h
  · cases h
  · rename_i l hs
    split at h
    · cases h
    · cases h
      simp only [queues, Function.update_apply]
      split
      · rename_i hc
        subst hc
        have hm : k ∈ l.filter (· ≠ sub.queue) ↔ k ∈ l ∧ ¬ k = sub.queue := by
          simp only [ne_eq, decide_not, List.mem_filter, Bool.not_eq_eq_eq_not, Bool.not_true,
            decide_eq_false_iff_not]
        simp only [hs, Option.getD_some, true_and]
        split
        · rename_i he
          rw [he] at hm
          simpa using hm
        · exact hm
      · rename_i hc
        simp only [hc, false_and, not_false_eq_true, and_true]

theorem unsubscribe_of_not_mem (bus : EventBus) (h : sub.queue ∉ bus.queues sub.correlationId) :
    bus.unsubscribe sub = .error ⟨unsubscribe.unknown sub⟩ := by
  rw [unsubscribe]
  split
  · rfl
  · rename_i l hs
    apply if_pos
    simpa only [queues, hs, Option.getD_some] using h

theorem unsubscribe_of_mem (bus : EventBus) (h : sub.queue ∈ bus.queues sub.correlationId) :
    ∃ bus', bus.unsubscribe sub = .ok bus' := by
  cases hu : bus.unsubscribe sub with
  | error e => exact absurd h (unsubscribe_error hu)
  | ok bus' => exact ⟨bus', rfl⟩

theorem subscribers_subscribe_other (bus : EventBus) (queue : Nat) (h : c ≠ cid) :
    (bus.subscribe cid queue).2.subscribers c = bus.subscribers c :=
  Function.update_of_ne h ..

theorem subscribers_unsubscribe {bus bus' : EventBus} (h : bus.unsubscribe sub = .ok bus') :
    ∃ left, left = (bus.queues sub.correlationId).filter (· ≠ sub.queue) ∧
      bus'.subscribers = Function.update bus.subscribers sub.correlationId
        (if left = [] then none else some left) := by
  simp only [unsubscribe] at h
  split at h
  · cases h
  · rename_i l hs
    split at h
    · cases h
    · cases h
      exact ⟨_, rfl, by simp only [queues, hs, Option.getD_some]⟩

/-- No topic without a subscriber, and no queue registered twice. -/
structure Tidy (bus : EventBus) : Prop where
  nonempty : ∀ c, bus.subscribers c ≠ some []
  nodup : ∀ c, (bus.queues c).Nodup

theorem Tidy.empty : Tidy .empty := ⟨(fun _ h => by cases h), fun _ => List.nodup_nil⟩

theorem Tidy.subscribe {bus : EventBus} (h : Tidy bus) (hq : ∀ c, queue ∉ bus.queues c) :
    Tidy (bus.subscribe cid queue).2 := by
  constructor
  · intro c
    simp only [EventBus.subscribe, Function.update_apply]
    split
    · intro he
      exact List.append_ne_nil_of_right_ne_nil _ (List.cons_ne_nil _ _) (Option.some.inj he)
    · exact h.nonempty c
  · intro c
    rw [queues_subscribe]
    split
    · exact (List.perm_append_singleton _ _).nodup_iff.2 (List.nodup_cons.2 ⟨hq cid, h.nodup cid⟩)
    · exact h.nodup c

theorem Tidy.unsubscribe {bus bus' : EventBus} (h : Tidy bus)
    (hu : bus.unsubscribe sub = .ok bus') : Tidy bus' := by
  obtain ⟨left, hl, hb⟩ := subscribers_unsubscribe hu
  constructor
  · intro c
    rw [hb, Function.update_apply]
    split
    · split
      · exact fun he => by cases he
      · rename_i hne
        exact fun he => hne (Option.some.inj he)
    · exact h.nonempty c
  · intro c
    rw [queues, hb, Function.update_apply]
    split
    · split
      · exact List.nodup_nil
      · rw [hl]
        exact (h.nodup _).filter _
    · exact h.nodup c

theorem Tidy.isSome_iff {bus : EventBus} (h : Tidy bus) :
    (bus.subscribers c).isSome = true ↔ ∃ k, k ∈ bus.queues c := by
  rw [queues]
  cases hs : bus.subscribers c with
  | none => simp
  | some l =>
    have hl : l ≠ [] := fun he => h.nonempty c (he ▸ hs)
    simpa using List.exists_mem_of_ne_nil l hl

end EventBus

end QueryMind.Streaming
