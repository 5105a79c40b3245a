import QueryMind.Seeds.Shipments

namespace QueryMind.Seeds
open Lib Lib.Draws
set_option autoImplicit true

theorem days_nonneg (n : Nat) : 0 ≤ days n := by
  rw [days]
  omega

theorem Objects.eq_of_key {key : α → Nat} (objects : Objects key) {x y : α}
    (hx : x ∈ objects.items) (hy : y ∈ objects.items) (h : key x = key y) : x = y :=
  List.inj_on_of_nodup_map objects.nodup hx hy h

section Shipments
variable {seed : Int} {warehouses : List Warehouse} {hw : warehouses ≠ []} {sequence : Nat}

theorem mem_shipmentsFor
    (h : shipment ∈ shipmentsFor seed warehouses hw draws orders index sequence) :
    ∃ entry ∈ orders.zipIdx index, entry.1.orderStatus ∈ shippableStatuses ∧
      ∃ n, shipment = buildShipment seed warehouses hw entry.1 n (draws entry.2) := by
  induction orders generalizing index sequence with
  | nil => exact absurd h List.not_mem_nil
  | cons order orders ih =>
    have hrest : ∀ {n}, shipment ∈ shipmentsFor seed warehouses hw draws orders (index + 1) n →
        ∃ entry ∈ (order :: orders).zipIdx index, entry.1.orderStatus ∈ shippableStatuses ∧
          ∃ n, shipment = buildShipment seed warehouses hw entry.1 n (draws entry.2) := by
      intro n hn
      obtain ⟨entry, he, hs⟩ := ih hn
      exact ⟨entry, List.mem_cons_of_mem _ he, hs⟩
    rw [shipmentsFor] at h
    split at h
    · rename_i hs
      rcases List.mem_cons.1 h with rfl | h
      · exact ⟨(order, index), List.mem_cons_self .., List.contains_iff_mem.1 hs, sequence, rfl⟩
      · exact hrest h
    · exact hrest h

theorem shipmentsFor_mem (seed : Int) (hw : warehouses ≠ []) (draws : Nat → ShipmentDraws)
    (he : entry ∈ orders.zipIdx index)
    (hs : entry.1.orderStatus ∈ shippableStatuses) (sequence : Nat) :
    ∃ n, buildShipment seed warehouses hw entry.1 n (draws entry.2) ∈
      shipmentsFor seed warehouses hw draws orders index sequence := by
  induction orders generalizing index sequence with
  | nil => exact absurd he List.not_mem_nil
  | cons order orders ih =>
    rw [shipmentsFor]
    rcases List.mem_cons.1 he with rfl | he
    · rw [if_pos (List.contains_iff_mem.2 hs)]
      exact ⟨sequence, List.mem_cons_self ..⟩
    · split
      · obtain ⟨n, hn⟩ := ih he (sequence + 1)
        exact ⟨n, List.mem_cons_of_mem _ hn⟩
      · exact ih he sequence

theorem generateShipments_eq (h : generateShipments seed warehouses orders draws = .ok shipments) :
    ∃ hw, shipments = shipmentsFor seed warehouses hw draws orders 0 0 := by
  rw [generateShipments] at h
  split at h
  · cases h
  · rename_i hw
    exact ⟨hw, (Except.ok.inj h).symm⟩

theorem buildShipment_delivered
    (h : (buildShipment seed warehouses hw order n draws).deliveredAt = some deliveredAt) :
    (buildShipment seed warehouses hw order n draws).shipmentStatus = .delivered ∧
    ∃ shippedAt, (buildShipment seed warehouses hw order n draws).shippedAt = some shippedAt ∧
      shippedAt ≤ deliveredAt := by
  simp only [buildShipment] at h ⊢
  split at h
  · rename_i hs
    rw [hs, if_neg (by decide)] at h ⊢
    refine ⟨rfl, _, rfl, ?_⟩
    rw [← Option.some.inj h]
    exact le_add_of_nonneg_right (days_nonneg _)
  · cases h

end Shipments

section Deliveries

theorem laterDelivery_ge (key : Nat) (shipment : Shipment) (latest : Int) :
    ∃ later, laterDelivery key (some latest) shipment = some later ∧ latest ≤ later := by
  rw [laterDelivery]
  split
  · exact ⟨latest, rfl, le_refl _⟩
  · rename_i deliveredAt hd
    split
    · by_cases hlt : latest < deliveredAt
      · exact ⟨deliveredAt, if_pos hlt, hlt.le⟩
      · exact ⟨latest, if_neg hlt, le_refl _⟩
    · exact ⟨latest, rfl, le_refl _⟩

theorem laterDelivery_self (existing : Option Int) {shipment : Shipment}
    (hk : shipment.order.key = key) (hd : shipment.deliveredAt = some deliveredAt) :
    ∃ later, laterDelivery key existing shipment = some later ∧ deliveredAt ≤ later := by
  rw [laterDelivery, hd]
  simp only [if_pos hk]
  cases existing with
  | none => exact ⟨deliveredAt, rfl, le_refl _⟩
  | some latest =>
    by_cases hlt : latest < deliveredAt
    · exact ⟨deliveredAt, if_pos hlt, le_refl _⟩
    · exact ⟨latest, if_neg hlt, by omega⟩

theorem foldl_laterDelivery_ge (key : Nat) (shipments : List Shipment) (latest : Int) :
    ∃ later, shipments.foldl (laterDelivery key) (some latest) = some later ∧ latest ≤ later := by
  induction shipments generalizing latest with
  | nil => exact ⟨latest, rfl, le_refl _⟩
  | cons shipment rest ih =>
    obtain ⟨next, hn, hle⟩ := laterDelivery_ge key shipment latest
    obtain ⟨later, hl, hle'⟩ := ih next
    rw [List.foldl_cons, hn]
    exact ⟨later, hl, hle.trans hle'⟩

theorem le_deliveredAtByOrder (hs : shipment ∈ shipments) (hk : shipment.order.key = key)
    (hd : shipment.deliveredAt = some deliveredAt) :
    ∃ latest, deliveredAtByOrder shipments key = some latest ∧ deliveredAt ≤ latest := by
  obtain ⟨before, after, rfl⟩ := List.append_of_mem hs
  obtain ⟨next, hn, hle⟩ := laterDelivery_self (before.foldl (laterDelivery key) none) hk hd
  obtain ⟨latest, hl, hle'⟩ := foldl_laterDelivery_ge key after next
  rw [deliveredAtByOrder, List.foldl_append, List.foldl_cons, hn]
  exact ⟨latest, hl, hle.trans hle'⟩

theorem deliveredAtByOrder_mem (h : deliveredAtByOrder shipments key = some deliveredAt) :
    ∃ shipment ∈ shipments, shipment.order.key = key ∧
      shipment.deliveredAt = some deliveredAt := by
  suffices hfold : ∀ existing, shipments.foldl (laterDelivery key) existing = some deliveredAt →
      existing = some deliveredAt ∨ ∃ shipment ∈ shipments, shipment.order.key = key ∧
        shipment.deliveredAt = some deliveredAt by
    rcases hfold none h with hn | hs
    · cases hn
    · exact hs
  clear h
  induction shipments with
  | nil => exact fun existing h => .inl h
  | cons shipment rest ih =>
    intro existing h
    rcases ih (laterDelivery key existing shipment) h with he | ⟨other, ho, hs⟩
    · rw [laterDelivery] at he
      split at he
      · exact .inl he
      · rename_i later hd
        split at he
        · rename_i hk
          split at he
          · rw [he] at hd
            exact .inr ⟨shipment, List.mem_cons_self .., hk, hd⟩
          · split at he
            · rw [he] at hd
              exact .inr ⟨shipment, List.mem_cons_self .., hk, hd⟩
            · exact .inl he
        · exact .inl he
    · exact .inr ⟨other, List.mem_cons_of_mem _ ho, hs⟩

theorem mem_generateReviews (h : review ∈ generateReviews config shipments items draws) :
    review.orderItem ∈ items ∧ ∃ deliveredAt n, 1 ≤ n ∧
      deliveredAtByOrder shipments review.orderItem.order.key = some deliveredAt ∧
      review.reviewDate = deliveredAt + days n := by
  obtain ⟨entry, he, hr⟩ := List.mem_filterMap.1 h
  rw [reviewOf] at hr
  split at hr
  · split at hr
    · cases hr
    · rename_i deliveredAt hd
      split at hr
      · cases hr
        exact ⟨List.fst_mem_of_mem_zipIdx he, deliveredAt, _, le_randint _ _ _, hd, rfl⟩
      · cases hr
  · cases hr

end Deliveries

section Returns
variable {c : Lib.Decimal.Context} {config : SeedConfig} {shipments : List Shipment}
  {payments : List Payment}

theorem refundFor_some (h : refundFor c item status quantity = .ok (some amount)) :
    status ∈ refundableStatuses ∧ roundCurrency c (c.mul item.unitPrice quantity) = .ok amount := by
  rw [refundFor] at h
  split at h
  · rename_i hs
    refine ⟨List.contains_iff_mem.1 hs, ?_⟩
    cases hround : roundCurrency c (c.mul item.unitPrice quantity) with
    | error e =>
      rw [hround] at h
      cases h
    | ok rounded =>
      rw [hround] at h
      cases h
      rfl
  · cases h

/-- A record of a return, as it is made for an item that was delivered. -/
structure Recorded (c : Lib.Decimal.Context) (payments : List Payment) (item : OrderItem)
    (deliveredAt : Int) (record : Return) : Prop where
  belongs : record.orderItem = item
  requested : ∃ n, 1 ≤ n ∧ record.requestedAt = deliveredAt + days n
  resolved : ∀ resolvedAt, record.resolvedAt = some resolvedAt → record.requestedAt ≤ resolvedAt
  quantity : 1 ≤ record.quantityReturned ∧ record.quantityReturned ≤ item.quantity
  refund : ∀ amount, record.refundAmount = some amount →
    record.returnStatus ∈ refundableStatuses ∧ capturedByOrder payments item.order.key = true ∧
      roundCurrency c (c.mul item.unitPrice record.quantityReturned) = .ok amount

theorem buildReturn_spec (h : buildReturn c payments item deliveredAt draws = .ok record) :
    Recorded c payments item deliveredAt record := by
  rw [buildReturn] at h
  dsimp only at h
  split at h
  · cases h
  · rename_i hq
    obtain ⟨refundAmount, hr, h⟩ := bind_ok h
    cases h
    refine ⟨rfl, ⟨_, le_randint _ _ _, rfl⟩, ?_, ⟨le_randint _ _ _, randint_le (by omega) _⟩, ?_⟩
    · intro resolvedAt hs
      split at hs
      · rw [← Option.some.inj hs]
        exact le_add_of_nonneg_right (days_nonneg _)
      · cases hs
    · intro amount ha
      cases ha
      obtain ⟨hs, hround⟩ := refundFor_some hr
      refine ⟨hs, ?_, hround⟩
      by_contra hcaptured
      rw [Bool.not_eq_true] at hcaptured
      rw [assignReturnStatus, hcaptured, Bool.not_false, Bool.or_true, if_pos rfl] at hs
      exact absurd hs (by decide)

theorem mem_returnsFor (h : returnsFor c config shipments payments draws items index = .ok records)
    (hr : record ∈ records) :
    ∃ entry ∈ items.zipIdx index, ∃ deliveredAt,
      deliveredAtByOrder shipments entry.1.order.key = some deliveredAt ∧
      isEligibleForReturn config entry.1.order.orderStatus (draws entry.2).eligible = true ∧
      buildReturn c payments entry.1 deliveredAt (draws entry.2) = .ok record := by
  induction items generalizing index records with
  | nil =>
    cases h
    exact absurd hr List.not_mem_nil
  | cons item items ih =>
    have hrest : ∀ {rest}, returnsFor c config shipments payments draws items (index + 1) =
        .ok rest → record ∈ rest → ∃ entry ∈ (item :: items).zipIdx index, ∃ deliveredAt,
          deliveredAtByOrder shipments entry.1.order.key = some deliveredAt ∧
          isEligibleForReturn config entry.1.order.orderStatus (draws entry.2).eligible = true ∧
          buildReturn c payments entry.1 deliveredAt (draws entry.2) = .ok record := by
      intro rest hrest hin
      obtain ⟨entry, he, hs⟩ := ih hrest hin
      exact ⟨entry, List.mem_cons_of_mem _ he, hs⟩
    rw [returnsFor] at h
    split at h
    · exact hrest h hr
    · rename_i deliveredAt hd
      split at h
      · rename_i hel
        obtain ⟨first, hf, h⟩ := bind_ok h
        obtain ⟨rest, hre, h⟩ := bind_ok h
        cases h
        rcases List.mem_cons.1 hr with rfl | hr
        · exact ⟨(item, index), List.mem_cons_self .., deliveredAt, hd, hel, hf⟩
        · exact hrest hre hr
      · exact hrest h hr

end Returns

/-- Items of the orders of a list. -/
structure ItemsOf (orders : List Order) where
  items : List OrderItem
  belong : ∀ item ∈ items, item.order ∈ orders

/-- A parcel of the order was delivered, and all that were came before the date. -/
structure DeliveredBefore (shipments : List Shipment) (order : Order) (date : Int) : Prop where
  delivered : ∃ shipment ∈ shipments, shipment.order.key = order.key ∧
    shipment.shipmentStatus = .delivered ∧ shipment.deliveredAt.isSome = true
  before : ∀ shipment ∈ shipments, shipment.order.key = order.key →
    ∀ deliveredAt, shipment.deliveredAt = some deliveredAt → deliveredAt < date

/-- What happens to an order happens in order, and its shipments have come as far as it has. -/
structure Timeline (order : Order) (payments : List Payment) (shipments : List Shipment)
    (reviews : List ProductReview) (returns : List Return) : Prop where
  paid : ∀ payment ∈ payments, payment.order.key = order.key →
    payment.paymentStatus = .captured →
      ∃ paidAt, payment.paidAt = some paidAt ∧ order.orderDate ≤ paidAt
  shipped : ∀ payment ∈ payments, payment.order.key = order.key →
    payment.paymentStatus = .captured → ∀ paidAt, payment.paidAt = some paidAt →
      ∀ shipment ∈ shipments, shipment.order.key = order.key →
        ∀ shippedAt, shipment.shippedAt = some shippedAt → paidAt ≤ shippedAt
  delivered : ∀ shipment ∈ shipments, shipment.order.key = order.key →
    ∀ deliveredAt, shipment.deliveredAt = some deliveredAt →
      ∃ shippedAt, shipment.shippedAt = some shippedAt ∧ shippedAt ≤ deliveredAt
  reviewed : ∀ review ∈ reviews, review.orderItem.order.key = order.key →
    DeliveredBefore shipments order review.reviewDate
  returned : ∀ record ∈ returns, record.orderItem.order.key = order.key →
    DeliveredBefore shipments order record.requestedAt ∧
    ∀ resolvedAt, record.resolvedAt = some resolvedAt → record.requestedAt ≤ resolvedAt
  left : order.orderStatus = .shipped → ∀ shipment ∈ shipments, shipment.order.key = order.key →
    shipment.shipmentStatus ≠ .pending ∧ shipment.shippedAt.isSome = true
  arrived : order.orderStatus = .delivered ∨ order.orderStatus = .returned →
    ∀ shipment ∈ shipments, shipment.order.key = order.key → shipment.shipmentStatus = .delivered

/-- Whether the parcel leaves the warehouse, given what was drawn for it. -/
def leavesWarehouse : OrderStatus → ShipmentStatus → Bool
  | .delivered, _ => true
  | .returned, _ => true
  | .shipped, drawn => drawn != .pending
  | .confirmed, drawn => drawn == .failed
  | _, _ => false

/-- The parcel of a shipped order leaves, and no parcel leaves on the day of the order. -/
structure LeavesLater (order : Order) (draws : ShipmentDraws) : Prop where
  leaves : order.orderStatus = .shipped →
    shipmentStatusWeights.pick draws.shipmentStatus ≠ .pending
  later : leavesWarehouse order.orderStatus
    (shipmentStatusWeights.pick draws.shipmentStatus) = true →
      1 ≤ processingDelayDays draws.processing

theorem resolveStatus_eq_pending_iff (hs : orderStatus ∈ shippableStatuses)
    (drawn : ShipmentStatus) :
    resolveStatus orderStatus drawn = .pending ↔ leavesWarehouse orderStatus drawn = false := by
  cases orderStatus with
  | pending => exact absurd hs (by decide)
  | cancelled => exact absurd hs (by decide)
  | confirmed => cases drawn <;> decide
  | shipped => cases drawn <;> decide
  | delivered => cases drawn <;> decide
  | returned => cases drawn <;> decide

theorem shippable_of_leaves (h : leavesWarehouse orderStatus drawn = true) :
    orderStatus ∈ shippableStatuses := by
  cases orderStatus with
  | pending => cases h
  | cancelled => cases h
  | confirmed => decide
  | shipped => decide
  | delivered => decide
  | returned => decide

theorem buildShipment_shippedAt (seed : Int) (hw : warehouses ≠ []) (n : Nat)
    (draws : ShipmentDraws) (hs : order.orderStatus ∈ shippableStatuses) :
    (buildShipment seed warehouses hw order n draws).shippedAt =
      if leavesWarehouse order.orderStatus (shipmentStatusWeights.pick draws.shipmentStatus) then
        some (order.orderDate + days (processingDelayDays draws.processing))
      else none := by
  simp only [buildShipment, resolveStatus_eq_pending_iff hs]
  cases leavesWarehouse order.orderStatus (shipmentStatusWeights.pick draws.shipmentStatus) <;> rfl

section Runs
variable {c : Lib.Decimal.Context} {config : SeedConfig} {orders : Objects Order.key}
  {items : ItemsOf orders.items} {draws : Nat → PaymentDraws}
  {shipmentDraws : Nat → ShipmentDraws}

theorem timeline_of_leavesLater
    (hs : generateShipments seed warehouses orders.items shipmentDraws = .ok shipments)
    (hr : generateReturns c config shipments
      (generatePayments config paymentSeed orders.items draws) items.items returnDraws =
        .ok returns)
    (h : ∀ entry ∈ orders.items.zipIdx, LeavesLater entry.1 (shipmentDraws entry.2))
    (ho : order ∈ orders.items) :
    Timeline order (generatePayments config paymentSeed orders.items draws) shipments
      (generateReviews config shipments items.items reviewDraws) returns := by
  obtain ⟨hw, rfl⟩ := generateShipments_eq hs
  have hship : ∀ shipment ∈ shipmentsFor seed warehouses hw shipmentDraws orders.items 0 0,
      shipment.order.key = order.key → ∃ draws n, LeavesLater order draws ∧
        order.orderStatus ∈ shippableStatuses ∧
        shipment = buildShipment seed warehouses hw order n draws := by
    intro shipment hin hk
    obtain ⟨entry, he, hst, n, rfl⟩ := mem_shipmentsFor hin
    obtain rfl := orders.eq_of_key (List.fst_mem_of_mem_zipIdx he) ho hk
    exact ⟨_, n, h entry he, hst, rfl⟩
  have hbefore : ∀ {key latest date}, key = order.key →
      deliveredAtByOrder (shipmentsFor seed warehouses hw shipmentDraws orders.items 0 0) key =
        some latest → latest < date →
      DeliveredBefore (shipmentsFor seed warehouses hw shipmentDraws orders.items 0 0) order
        date := by
    intro key latest date hk hlatest hlt
    constructor
    · obtain ⟨shipment, hsh, hks, hd⟩ := deliveredAtByOrder_mem hlatest
      obtain ⟨draws, m, _, _, rfl⟩ := hship shipment hsh (hks.trans hk)
      exact ⟨_, hsh, hks.trans hk, (buildShipment_delivered hd).1, Option.isSome_of_mem hd⟩
    · intro shipment hsh hks deliveredAt hd
      obtain ⟨latest', hl, hle⟩ := le_deliveredAtByOrder hsh (hks.trans hk.symm) hd
      rw [hlatest] at hl
      cases hl
      exact hle.trans_lt hlt
  constructor
  · intro payment hp hk hc
    obtain ⟨hin, hcharges, hpaid⟩ := mem_generatePayments hp
    obtain ⟨paidAt, hat⟩ := Option.isSome_iff_exists.1 (hcharges.paid.2 hc)
    obtain ⟨n, hl, _, rfl⟩ := hpaid paidAt hat
    rw [orders.eq_of_key hin ho hk] at hat
    refine ⟨_, hat, ?_⟩
    rw [minutes]
    omega
  · intro payment hp hk _ paidAt hat shipment hsh hks shippedAt hshipped
    obtain ⟨hin, _, hpaid⟩ := mem_generatePayments hp
    obtain ⟨n, _, hh, rfl⟩ := hpaid paidAt hat
    obtain ⟨draws, m, hleaves, hst, rfl⟩ := hship shipment hsh hks
    rw [buildShipment_shippedAt seed hw m draws hst] at hshipped
    split at hshipped
    · rename_i hl
      have hd := hleaves.later hl
      rw [orders.eq_of_key hin ho hk, ← Option.some.inj hshipped, minutes, days]
      omega
    · cases hshipped
  · intro shipment hsh hks deliveredAt hd
    obtain ⟨draws, m, _, _, rfl⟩ := hship shipment hsh hks
    exact (buildShipment_delivered hd).2
  · intro review hrev hk
    obtain ⟨_, latest, n, hn, hlatest, hdate⟩ := mem_generateReviews hrev
    refine hbefore hk hlatest ?_
    rw [hdate, days]
    omega
  · intro record hrec hk
    obtain ⟨entry, _, latest, hlatest, _, hbuild⟩ := mem_returnsFor hr hrec
    have hrecorded := buildReturn_spec hbuild
    rw [hrecorded.belongs] at hk
    refine ⟨hbefore hk hlatest ?_, hrecorded.resolved⟩
    obtain ⟨n, hn, hreq⟩ := hrecorded.requested
    rw [hreq, days]
    omega
  · intro hstatus shipment hsh hks
    obtain ⟨draws, m, hleaves, hst, rfl⟩ := hship shipment hsh hks
    have hl : leavesWarehouse order.orderStatus
        (shipmentStatusWeights.pick draws.shipmentStatus) = true := by
      rw [hstatus]
      exact bne_iff_ne.2 (hleaves.leaves hstatus)
    constructor
    · intro hp
      rw [(resolveStatus_eq_pending_iff hst _).1 hp] at hl
      cases hl
    · rw [buildShipment_shippedAt seed hw m draws hst, if_pos hl]
      rfl
  · intro hstatus shipment hsh hks
    obtain ⟨draws, m, _, _, rfl⟩ := hship shipment hsh hks
    exact if_pos hstatus

theorem leavesLater_of_timeline
    (hs : generateShipments seed warehouses orders.items shipmentDraws = .ok shipments)
    (h : ∀ order ∈ orders.items, Timeline order
      (generatePayments config paymentSeed orders.items draws) shipments reviews returns)
    (he : entry ∈ orders.items.zipIdx) : LeavesLater entry.1 (shipmentDraws entry.2) := by
  obtain ⟨hw, rfl⟩ := generateShipments_eq hs
  have ht := h entry.1 (List.fst_mem_of_mem_zipIdx he)
  constructor
  · intro hstatus hdrawn
    have hst : entry.1.orderStatus ∈ shippableStatuses := by
      rw [hstatus]
      decide
    obtain ⟨n, hn⟩ := shipmentsFor_mem seed hw shipmentDraws he hst 0
    apply (ht.left hstatus _ hn rfl).1
    apply (resolveStatus_eq_pending_iff hst _).2
    rw [hstatus, hdrawn]
    rfl
  · intro hl
    have hst := shippable_of_leaves hl
    obtain ⟨n, hn⟩ := shipmentsFor_mem seed hw shipmentDraws he hst 0
    obtain ⟨payment, hp, hb, hc⟩ := generatePayments_captured config paymentSeed draws
      (List.fst_mem_of_mem_zipIdx he) hst
    obtain ⟨_, hcharges, hpaid⟩ := mem_generatePayments hp
    obtain ⟨paidAt, hat⟩ := Option.isSome_iff_exists.1 (hcharges.paid.2 hc)
    obtain ⟨k, hk, _, rfl⟩ := hpaid paidAt hat
    have hshipped := buildShipment_shippedAt seed hw n (shipmentDraws entry.2) hst
    rw [if_pos hl] at hshipped
    have hle := ht.shipped payment hp (by rw [hb]) hc _ hat _ hn rfl _ hshipped
    rw [hb, minutes, days] at hle
    omega

/-- The orders keep to the timeline where no parcel leaves on the day of its order, and every
parcel of a shipped order leaves. -/
theorem timeline_iff_leavesLater
    (hs : generateShipments seed warehouses orders.items shipmentDraws = .ok shipments)
    (hr : generateReturns c config shipments
      (generatePayments config paymentSeed orders.items draws) items.items returnDraws =
        .ok returns) :
    (∀ order ∈ orders.items, Timeline order
      (generatePayments config paymentSeed orders.items draws) shipments
      (generateReviews config shipments items.items reviewDraws) returns) ↔
        ∀ entry ∈ orders.items.zipIdx, LeavesLater entry.1 (shipmentDraws entry.2) := by
  constructor
  · intro h entry he
    exact leavesLater_of_timeline hs h he
  · intro h order ho
    exact timeline_of_leavesLater hs hr h ho

end Runs

section Delivered

def deliveredOrder : Order := { cancelledOrder with orderStatus := .delivered }

def deliveredItem : OrderItem := ⟨deliveredOrder, secondProduct, 1, 60, 0, 60⟩

def oneOrder : Objects Order.key := ⟨[deliveredOrder], by decide⟩

def oneItem : ItemsOf oneOrder.items where
  items := [deliveredItem]
  belong := by
    intro item hi
    rw [List.mem_singleton.1 hi]
    exact List.mem_cons_self ..

def delayedBy (n : Nat) : ShipmentDraws := ⟨oneHalf, oneHalf, n, 0, 0⟩

def returnedAtOnce : ReturnDraws := ⟨zeroChance, 0, oneHalf, 0, 0, oneHalf⟩

def reviewedAtOnce : ReviewDraws := ⟨zeroChance, oneHalf, 0⟩

theorem timeline_iff_leavesLater_delayed : ∃ shipments returns,
    generateShipments 54 [⟨0⟩] oneOrder.items (fun _ => delayedBy 1) = .ok shipments ∧
    generateReturns Lib.Decimal.defaultContext defaultConfig shipments
      (generatePayments defaultConfig 53 oneOrder.items fun _ => chargedDraws) oneItem.items
      (fun _ => returnedAtOnce) = .ok returns ∧
    (generateReviews defaultConfig shipments oneItem.items fun _ => reviewedAtOnce) ≠ [] ∧
    returns ≠ [] ∧
    ∀ order ∈ oneOrder.items, Timeline order
      (generatePayments defaultConfig 53 oneOrder.items fun _ => chargedDraws) shipments
      (generateReviews defaultConfig shipments oneItem.items fun _ => reviewedAtOnce) returns := by
  obtain ⟨shipments, hs⟩ := exists_of_toBool (x := generateShipments 54 [⟨0⟩] oneOrder.items
    fun _ => delayedBy 1) (by decide +kernel)
  have hreviews : (generateReviews defaultConfig
      ((generateShipments 54 [⟨0⟩] oneOrder.items fun _ => delayedBy 1).toOption.getD [])
      oneItem.items fun _ => reviewedAtOnce).length = 1 := by decide +kernel
  have hreturns : ((generateReturns Lib.Decimal.defaultContext defaultConfig
      ((generateShipments 54 [⟨0⟩] oneOrder.items fun _ => delayedBy 1).toOption.getD [])
      (generatePayments defaultConfig 53 oneOrder.items fun _ => chargedDraws) oneItem.items
      fun _ => returnedAtOnce).toOption.map List.length) = some 1 := by decide +kernel
  rw [hs] at hreviews hreturns
  obtain ⟨returns, hr, hlength⟩ := Option.map_eq_some_iff.1 hreturns
  have hr := toOption_eq_some.1 hr
  refine ⟨shipments, returns, hs, hr, List.ne_nil_of_length_eq_add_one hreviews,
    List.ne_nil_of_length_eq_add_one hlength, (timeline_iff_leavesLater hs hr).2 ?_⟩
  intro entry he
  obtain rfl := List.mem_singleton.1 he
  constructor
  · intro h
    cases h
  · intro _
    decide

theorem deliveredOrder_ships_first : ∃ shipments,
    generateShipments 54 [⟨0⟩] oneOrder.items (fun _ => delayedBy 0) = .ok shipments ∧
    generateReturns Lib.Decimal.defaultContext defaultConfig shipments
      (generatePayments defaultConfig 53 oneOrder.items fun _ => chargedDraws) []
      (fun _ => returnedAtOnce) = .ok [] ∧
    ¬ ∀ order ∈ oneOrder.items, Timeline order
      (generatePayments defaultConfig 53 oneOrder.items fun _ => chargedDraws) shipments
      (generateReviews defaultConfig shipments [] fun _ => ⟨oneHalf, oneHalf, 0⟩) [] := by
  obtain ⟨shipments, hs⟩ := exists_of_toBool (x := generateShipments 54 [⟨0⟩] oneOrder.items
    fun _ => delayedBy 0) (by decide +kernel)
  refine ⟨shipments, hs, rfl, ?_⟩
  intro h
  have hl := leavesLater_of_timeline hs h (List.mem_cons_self ..)
  exact absurd (hl.later (by decide +kernel)) (by decide)

end Delivered

end QueryMind.Seeds
