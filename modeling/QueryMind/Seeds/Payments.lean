import QueryMind.Lib.Text
import QueryMind.Seeds.Totals

namespace QueryMind.Seeds
open Lib Lib.Draws
set_option autoImplicit true

/-- What is drawn for the payments of one order, attempt by attempt. -/
structure PaymentDraws where
  method : Chance
  succeeds : Nat → Chance
  gate : Nat → Chance
  retries : Nat
  minutes : Nat

def successfulStatuses : List OrderStatus := [.confirmed, .shipped, .delivered, .returned]

section PaymentGenerator
variable (config : SeedConfig) (seed : Int)

/-- The draw of a payment, narrowed for cancelled orders. -/
def drawSuccess (isCancelled : Bool) (draws : PaymentDraws) (attempt : Nat) : Bool :=
  let succeeded := paymentSucceeds config (draws.succeeds attempt)
  if isCancelled && succeeded then (draws.gate attempt).value < 0.3 else succeeded

def transactionReference (sequence : Nat) : String :=
  "ch_" ++ Text.zeroPadded 4 seed ++ Text.zeroPadded 8 sequence

def buildPayment (order : Order) (method : PaymentMethod) (sequence : Nat)
    (status : PaymentStatus) (paidAt : Option Int) : Payment where
  order := order
  paymentMethod := method
  paymentStatus := status
  amount := order.totalAmount
  transactionReference := transactionReference seed (sequence + 1)
  paidAt := paidAt

/-- The failed attempts of the loop, and whether the last draw was a success. -/
def failedAttempts (order : Order) (method : PaymentMethod) (draws : PaymentDraws) :
    Nat → Nat → Nat → Bool → List Payment × Bool
  | 0, _, _, succeeded => ([], succeeded)
  | retriesRemaining + 1, attempt, sequence, succeeded =>
    if succeeded then ([], true)
    else
      let next := drawSuccess config (order.orderStatus == .cancelled) draws (attempt + 1)
      let later := failedAttempts order method draws retriesRemaining (attempt + 1) (sequence + 1)
        next
      (buildPayment seed order method sequence .failed none :: later.1, later.2)

/-- The attempts that are repeated until one succeeds or no retry remains. -/
def attemptsFor (order : Order) (draws : PaymentDraws) (sequence : Nat) : List Payment × Bool :=
  let succeeded := drawSuccess config (order.orderStatus == .cancelled) draws 0
  let retriesRemaining := if succeeded then 0 else retryCountOnFailure draws.retries
  failedAttempts config seed order (paymentMethodWeights.pick draws.method) draws retriesRemaining 0
    sequence succeeded

def paymentsForOrder (order : Order) (draws : PaymentDraws) (sequence : Nat) : List Payment :=
  let method := paymentMethodWeights.pick draws.method
  if order.orderStatus = .pending then [buildPayment seed order method sequence .pending none]
  else
    let mustSucceed := successfulStatuses.contains order.orderStatus
    let attempts := attemptsFor config seed order draws sequence
    let made := sequence + attempts.1.length
    if attempts.2 || mustSucceed then
      let paidAt := order.orderDate + minutes (randint 1 180 draws.minutes)
      attempts.1 ++ [buildPayment seed order method made .captured (some paidAt)]
    else attempts.1 ++ [buildPayment seed order method made .failed none]

def paymentsFor (draws : Nat → PaymentDraws) : List Order → Nat → Nat → List Payment
  | [], _, _ => []
  | order :: orders, index, sequence =>
    let payments := paymentsForOrder config seed order (draws index) sequence
    payments ++ paymentsFor draws orders (index + 1) (sequence + payments.length)

def generatePayments (orders : List Order) (draws : Nat → PaymentDraws) : List Payment :=
  paymentsFor config seed draws orders 0 0

end PaymentGenerator

section References
variable {config : SeedConfig} {seed : Int} {sequence : Nat}

theorem transactionReference_inj (h : transactionReference seed n = transactionReference seed m) :
    n = m := by
  rw [transactionReference, transactionReference, String.append_right_inj] at h
  exact Text.zeroPadded_inj h

def Numbered (seed : Int) (sequence : Nat) (payments : List Payment) : Prop :=
  payments.map Payment.transactionReference =
    (List.range' (sequence + 1) payments.length).map (transactionReference seed)

theorem Numbered.append (h : Numbered seed sequence payments)
    (h' : Numbered seed (sequence + payments.length) later) :
    Numbered seed sequence (payments ++ later) := by
  rw [Numbered] at h h'
  rw [Numbered, List.map_append, h, h', List.length_append, ← List.range'_append_1, List.map_append,
    Nat.add_right_comm]

theorem Numbered.nodup (h : Numbered seed sequence payments) :
    (payments.map Payment.transactionReference).Nodup := by
  rw [Numbered] at h
  rw [h]
  exact List.Nodup.map (fun n m => transactionReference_inj) List.nodup_range'

theorem numbered_build (order : Order) (method : PaymentMethod) (sequence : Nat)
    (status : PaymentStatus) (paidAt : Option Int) :
    Numbered seed sequence [buildPayment seed order method sequence status paidAt] := rfl

theorem failedAttempts_numbered (order : Order) (method : PaymentMethod) (draws : PaymentDraws)
    (retries attempt sequence : Nat) (succeeded : Bool) :
    Numbered seed sequence
      (failedAttempts config seed order method draws retries attempt sequence succeeded).1 := by
  induction retries generalizing attempt sequence succeeded with
  | zero => rfl
  | succ retries ih =>
    cases succeeded with
    | true => rfl
    | false => exact (numbered_build order method sequence .failed none).append (ih _ _ _)

theorem paymentsForOrder_pending (h : order.orderStatus = .pending) :
    paymentsForOrder config seed order draws sequence = [buildPayment seed order
      (paymentMethodWeights.pick draws.method) sequence .pending none] := by
  rw [paymentsForOrder, if_pos h]

theorem paymentsForOrder_ended (config : SeedConfig) (seed : Int) (draws : PaymentDraws)
    (sequence : Nat) (h : ¬ order.orderStatus = .pending) :
    ∃ status paidAt, paymentsForOrder config seed order draws sequence =
        (attemptsFor config seed order draws sequence).1 ++
          [buildPayment seed order (paymentMethodWeights.pick draws.method)
            (sequence + (attemptsFor config seed order draws sequence).1.length) status paidAt] ∧
      (((attemptsFor config seed order draws sequence).2 = true ∨
          order.orderStatus ∈ successfulStatuses) ∧ status = .captured ∧ paidAt =
            some (order.orderDate + minutes (randint 1 180 draws.minutes)) ∨
        ¬ ((attemptsFor config seed order draws sequence).2 = true ∨
          order.orderStatus ∈ successfulStatuses) ∧ status = .failed ∧ paidAt = none) := by
  rw [paymentsForOrder, if_neg h, ← List.contains_iff_mem, ← Bool.or_eq_true]
  dsimp only
  split
  · rename_i hends
    exact ⟨_, _, rfl, .inl ⟨hends, rfl, rfl⟩⟩
  · rename_i hends
    exact ⟨_, _, rfl, .inr ⟨hends, rfl, rfl⟩⟩

theorem paymentsForOrder_numbered (order : Order) (draws : PaymentDraws) (sequence : Nat) :
    Numbered seed sequence (paymentsForOrder config seed order draws sequence) := by
  by_cases h : order.orderStatus = .pending
  · rw [paymentsForOrder_pending h]
    exact numbered_build ..
  · obtain ⟨status, paidAt, he, _⟩ := paymentsForOrder_ended config seed draws sequence h
    rw [he]
    exact (failedAttempts_numbered ..).append (numbered_build ..)

theorem paymentsFor_numbered (draws : Nat → PaymentDraws) (orders : List Order)
    (index sequence : Nat) :
    Numbered seed sequence (paymentsFor config seed draws orders index sequence) := by
  induction orders generalizing index sequence with
  | nil => rfl
  | cons order orders ih => exact (paymentsForOrder_numbered order _ sequence).append (ih _ _)

end References

section Histories
variable {config : SeedConfig} {seed : Int} {sequence : Nat}

/-- A charge over the whole order, which was paid if it was captured. -/
structure Charges (order : Order) (payment : Payment) : Prop where
  belongs : payment.order = order
  amount : payment.amount = order.totalAmount
  paid : payment.paidAt.isSome = true ↔ payment.paymentStatus = .captured

theorem charges_build (h : paidAt.isSome = true ↔ status = PaymentStatus.captured) :
    Charges order (buildPayment seed order method sequence status paidAt) := ⟨rfl, rfl, h⟩

/-- The payments of an order, from the failed attempts to the last one. -/
structure History (config : SeedConfig) (order : Order) (draws : PaymentDraws)
    (payments : List Payment) : Prop where
  charges : ∀ payment ∈ payments, Charges order payment
  pending : order.orderStatus = .pending → payments.map Payment.paymentStatus = [.pending]
  successful : order.orderStatus ∈ successfulStatuses →
    ∃ n, payments.map Payment.paymentStatus = List.replicate n .failed ++ [.captured]
  cancelled : order.orderStatus = .cancelled →
    ∃ n last, payments.map Payment.paymentStatus = List.replicate n .failed ++ [last] ∧
      (last = .failed ∨ last = .captured) ∧
      (last = .captured ↔ ∃ attempt ≤ retryCountOnFailure draws.retries,
        paymentSucceeds config (draws.succeeds attempt) = true ∧ (draws.gate attempt).value < 0.3)

theorem failedAttempts_spec (order : Order) (method : PaymentMethod) (draws : PaymentDraws)
    (retries attempt sequence : Nat) (succeeded : Bool) {attempts : List Payment × Bool}
    (he : failedAttempts config seed order method draws retries attempt sequence succeeded =
      attempts) :
    (∀ payment ∈ attempts.1, Charges order payment ∧ payment.paymentStatus = .failed) ∧
      (attempts.2 = true ↔ succeeded = true ∨ ∃ later, attempt < later ∧ later ≤ attempt + retries ∧
        drawSuccess config (order.orderStatus == .cancelled) draws later = true) := by
  induction retries generalizing attempt sequence succeeded attempts with
  | zero =>
    cases he
    refine ⟨fun payment hp => absurd hp List.not_mem_nil, ?_⟩
    constructor
    · exact .inl
    · rintro (h | ⟨later, hl, hh, _⟩)
      · exact h
      · omega
  | succ retries ih =>
    cases succeeded with
    | true =>
      cases he
      exact ⟨fun payment hp => absurd hp List.not_mem_nil, fun _ => .inl rfl, fun _ => rfl⟩
    | false =>
      cases he
      obtain ⟨hfailed, hsucc⟩ := ih (attempt + 1) (sequence + 1)
        (drawSuccess config (order.orderStatus == .cancelled) draws (attempt + 1)) rfl
      constructor
      · intro payment hp
        rcases List.mem_cons.1 hp with rfl | hp
        · exact ⟨charges_build (by decide), rfl⟩
        · exact hfailed payment hp
      · apply hsucc.trans
        constructor
        · rintro (h | ⟨later, hl, hh, h⟩)
          · exact .inr ⟨attempt + 1, by omega, by omega, h⟩
          · exact .inr ⟨later, by omega, by omega, h⟩
        · rintro (h | ⟨later, hl, hh, h⟩)
          · cases h
          · rcases (show attempt + 1 = later ∨ attempt + 1 < later by omega) with rfl | hlt
            · exact .inl h
            · exact .inr ⟨later, hlt, by omega, h⟩

theorem attemptsFor_succeeded (config : SeedConfig) (seed : Int) (order : Order)
    (draws : PaymentDraws) (sequence : Nat) :
    (attemptsFor config seed order draws sequence).2 = true ↔
      ∃ attempt ≤ retryCountOnFailure draws.retries,
        drawSuccess config (order.orderStatus == .cancelled) draws attempt = true := by
  rw [attemptsFor, (failedAttempts_spec order _ draws _ 0 sequence _ rfl).2]
  cases h : drawSuccess config (order.orderStatus == .cancelled) draws 0 with
  | true =>
    constructor
    · intro _
      exact ⟨0, Nat.zero_le _, h⟩
    · intro _
      exact .inl rfl
  | false =>
    rw [if_neg (by decide), Nat.zero_add]
    constructor
    · rintro (h | ⟨later, _, hh, hs⟩)
      · cases h
      · exact ⟨later, hh, hs⟩
    · rintro ⟨attempt, hh, hs⟩
      cases attempt with
      | zero =>
        rw [h] at hs
        cases hs
      | succ attempt => exact .inr ⟨attempt + 1, Nat.succ_pos _, hh, hs⟩

theorem statuses_eq {payments : List Payment}
    (h : ∀ payment ∈ payments, Charges order payment ∧ payment.paymentStatus = status) :
    payments.map Payment.paymentStatus = List.replicate payments.length status := by
  rw [List.eq_replicate_iff, List.length_map]
  refine ⟨rfl, ?_⟩
  intro s hs
  obtain ⟨payment, hp, rfl⟩ := List.mem_map.1 hs
  exact (h payment hp).2

theorem paymentsForOrder_history (config : SeedConfig) (seed : Int) (order : Order)
    (draws : PaymentDraws) (sequence : Nat) :
    History config order draws (paymentsForOrder config seed order draws sequence) := by
  by_cases hpending : order.orderStatus = .pending
  · rw [paymentsForOrder_pending hpending]
    constructor
    · intro payment hp
      rw [List.mem_singleton.1 hp]
      exact charges_build (by decide)
    · exact fun _ => rfl
    · intro h
      rw [hpending] at h
      exact absurd h (by decide)
    · intro h
      rw [hpending] at h
      cases h
  · obtain ⟨status, paidAt, he, hlast⟩ := paymentsForOrder_ended config seed draws sequence
      hpending
    have hfailed : ∀ payment ∈ (attemptsFor config seed order draws sequence).1,
        Charges order payment ∧ payment.paymentStatus = .failed :=
      (failedAttempts_spec order _ draws _ 0 sequence _ rfl).1
    have hstatuses : (paymentsForOrder config seed order draws sequence).map
        Payment.paymentStatus = List.replicate
          (attemptsFor config seed order draws sequence).1.length .failed ++ [status] := by
      rw [he, List.map_append, statuses_eq hfailed]
      rfl
    constructor
    · intro payment hp
      rw [he] at hp
      rcases List.mem_append.1 hp with hp | hp
      · exact (hfailed payment hp).1
      · rw [List.mem_singleton.1 hp]
        rcases hlast with ⟨_, rfl, rfl⟩ | ⟨_, rfl, rfl⟩
        · exact charges_build ⟨fun _ => rfl, fun _ => rfl⟩
        · exact charges_build (by decide)
    · intro h
      exact absurd h hpending
    · intro h
      rcases hlast with ⟨_, rfl, _⟩ | ⟨hn, _, _⟩
      · exact ⟨_, hstatuses⟩
      · exact absurd (.inr h) hn
    · intro h
      have hsucc := attemptsFor_succeeded config seed order draws sequence
      have hgate : ∀ attempt, drawSuccess config (order.orderStatus == .cancelled) draws attempt =
          true ↔ paymentSucceeds config (draws.succeeds attempt) = true ∧
            (draws.gate attempt).value < 0.3 := by
        intro attempt
        rw [drawSuccess, h]
        cases paymentSucceeds config (draws.succeeds attempt) <;> simp
      have hnot : ¬ order.orderStatus ∈ successfulStatuses := by
        rw [h]
        decide
      simp only [hgate] at hsucc
      refine ⟨_, status, hstatuses, ?_⟩
      rw [← hsucc]
      rcases hlast with ⟨hs, rfl, _⟩ | ⟨hn, rfl, _⟩
      · exact ⟨.inr rfl, iff_of_true rfl (hs.resolve_right hnot)⟩
      · exact ⟨.inl rfl, iff_of_false (by decide) fun hs => hn (.inl hs)⟩

theorem paymentsForOrder_paidAt
    (hp : payment ∈ paymentsForOrder config seed order draws sequence)
    (ht : payment.paidAt = some paidAt) :
    paidAt = order.orderDate + minutes (randint 1 180 draws.minutes) := by
  by_cases hpending : order.orderStatus = .pending
  · rw [paymentsForOrder_pending hpending] at hp
    rw [List.mem_singleton.1 hp] at ht
    cases ht
  · obtain ⟨status, last, he, hlast⟩ := paymentsForOrder_ended config seed draws sequence
      hpending
    rw [he] at hp
    rcases List.mem_append.1 hp with hp | hp
    · have hfailed := (failedAttempts_spec order _ draws _ 0 sequence _ rfl).1 payment hp
      have hsome := hfailed.1.paid.1 (by rw [ht]; rfl)
      rw [hfailed.2] at hsome
      cases hsome
    · rw [List.mem_singleton.1 hp] at ht
      rcases hlast with ⟨_, _, rfl⟩ | ⟨_, _, rfl⟩
      · exact (Option.some.inj ht).symm
      · cases ht

theorem paymentsForOrder_captured (config : SeedConfig) (seed : Int) (draws : PaymentDraws)
    (sequence : Nat) (h : order.orderStatus ∈ successfulStatuses) :
    ∃ payment ∈ paymentsForOrder config seed order draws sequence,
      payment.paymentStatus = .captured := by
  obtain ⟨n, hn⟩ := (paymentsForOrder_history config seed order draws sequence).successful h
  have hin : PaymentStatus.captured ∈ (paymentsForOrder config seed order draws sequence).map
      Payment.paymentStatus := by
    rw [hn]
    exact List.mem_append_right _ (List.mem_singleton_self _)
  obtain ⟨payment, hp, hs⟩ := List.mem_map.1 hin
  exact ⟨payment, hp, hs⟩

theorem mem_paymentsFor (h : payment ∈ paymentsFor config seed draws orders index sequence) :
    ∃ entry ∈ orders.zipIdx index, ∃ n,
      payment ∈ paymentsForOrder config seed entry.1 (draws entry.2) n := by
  induction orders generalizing index sequence with
  | nil => exact absurd h List.not_mem_nil
  | cons order orders ih =>
    rcases List.mem_append.1 h with h | h
    · exact ⟨(order, index), List.mem_cons_self .., sequence, h⟩
    · obtain ⟨entry, he, n, hn⟩ := ih h
      exact ⟨entry, List.mem_cons_of_mem _ he, n, hn⟩

theorem mem_generatePayments (h : payment ∈ generatePayments config seed orders draws) :
    payment.order ∈ orders ∧ Charges payment.order payment ∧
      ∀ paidAt, payment.paidAt = some paidAt →
        ∃ n, 1 ≤ n ∧ n ≤ 180 ∧ paidAt = payment.order.orderDate + minutes n := by
  obtain ⟨entry, he, n, hn⟩ := mem_paymentsFor h
  have hc := (paymentsForOrder_history config seed entry.1 (draws entry.2) n).charges payment hn
  have hb := hc.belongs
  refine ⟨?_, ?_, ?_⟩
  · rw [hb]
    exact List.fst_mem_of_mem_zipIdx he
  · rw [hb]
    exact hc
  · intro paidAt hp
    rw [hb]
    exact ⟨_, le_randint _ _ _, randint_le (by decide) _, paymentsForOrder_paidAt hn hp⟩

theorem paymentsFor_subset (config : SeedConfig) (seed : Int) (draws : Nat → PaymentDraws)
    (he : entry ∈ orders.zipIdx index) (sequence : Nat) :
    ∃ n, paymentsForOrder config seed entry.1 (draws entry.2) n ⊆
      paymentsFor config seed draws orders index sequence := by
  induction orders generalizing index sequence with
  | nil => exact absurd he List.not_mem_nil
  | cons order orders ih =>
    rcases List.mem_cons.1 he with rfl | he
    · exact ⟨sequence, List.subset_append_left _ _⟩
    · obtain ⟨n, hn⟩ := ih he (sequence +
        (paymentsForOrder config seed order (draws index) sequence).length)
      exact ⟨n, fun payment hp => List.mem_append_right _ (hn hp)⟩

theorem generatePayments_captured (config : SeedConfig) (seed : Int) (draws : Nat → PaymentDraws)
    (ho : order ∈ orders) (hs : order.orderStatus ∈ successfulStatuses) :
    ∃ payment ∈ generatePayments config seed orders draws,
      payment.order = order ∧ payment.paymentStatus = .captured := by
  obtain ⟨i, hi⟩ := List.mem_iff_getElem?.1 ho
  have he : (order, i) ∈ orders.zipIdx := List.mem_zipIdx_iff_getElem?.2 hi
  obtain ⟨n, hn⟩ := paymentsFor_subset config seed draws he 0
  obtain ⟨payment, hp, hc⟩ := paymentsForOrder_captured config seed (draws i) n hs
  have hcharges := (paymentsForOrder_history config seed order (draws i) n).charges payment hp
  exact ⟨payment, hn hp, hcharges.belongs, hc⟩

theorem paymentsFor_histories (draws : Nat → PaymentDraws) (orders : List Order)
    (index sequence : Nat) :
    ∃ histories, paymentsFor config seed draws orders index sequence = histories.flatten ∧
      List.Forall₂ (fun entry history => History config entry.1 (draws entry.2) history)
        (orders.zipIdx index) histories := by
  induction orders generalizing index sequence with
  | nil => exact ⟨[], rfl, .nil⟩
  | cons order orders ih =>
    obtain ⟨histories, he, hall⟩ := ih (index + 1)
      (sequence + (paymentsForOrder config seed order (draws index) sequence).length)
    refine ⟨paymentsForOrder config seed order (draws index) sequence :: histories, ?_, ?_⟩
    · rw [paymentsFor, List.flatten_cons, ← he]
    · exact .cons (paymentsForOrder_history config seed order (draws index) sequence) hall

/-- Every order has its own history of payments, and no two payments share a reference. -/
theorem generatePayments_histories (config : SeedConfig) (seed : Int) (orders : List Order)
    (draws : Nat → PaymentDraws) :
    (∃ histories, generatePayments config seed orders draws = histories.flatten ∧
      List.Forall₂ (fun entry history => History config entry.1 (draws entry.2) history)
        orders.zipIdx histories) ∧
      ((generatePayments config seed orders draws).map Payment.transactionReference).Nodup :=
  ⟨paymentsFor_histories draws orders 0 0, (paymentsFor_numbered draws orders 0 0).nodup⟩

/-- A draw that passes the gate, so that a cancelled order is charged. -/
def chargedDraws : PaymentDraws where
  method := oneHalf
  succeeds _ := oneHalf
  gate _ := zeroChance
  retries := 0
  minutes := 0

def cancelledOrder : Order where
  key := 1
  orderNumber := "ORD-2025-000001"
  orderDate := 63885412800
  orderStatus := .cancelled
  salesChannel := .web
  subtotalAmount := 60
  discountAmount := 0
  taxAmount := 4.35
  shippingAmount := 0
  totalAmount := 64.35
  customer := ⟨0, .standard⟩
  promotion := none

theorem cancelled_captured : cancelledOrder.orderStatus = .cancelled ∧
    (generatePayments defaultConfig 53 [cancelledOrder] fun _ => chargedDraws).map
      Payment.paymentStatus = [.captured] := by
  decide +kernel

end Histories

end QueryMind.Seeds
