import QueryMind.Seeds.Timeline

namespace QueryMind.Seeds
open Lib Lib.Draws Lib.Decimal Lib.Decimal.Context
set_option autoImplicit true

/-- What the generators of orders, payments and shipments are given and draw. -/
structure Inputs where
  customers : List Customer
  products : Objects Product.key
  promotions : List Promotion
  count : Nat
  orderDraws : Nat → OrderDraws
  paymentSeed : Int
  paymentDraws : Nat → PaymentDraws
  shipmentSeed : Int
  warehouses : List Warehouse
  shipmentDraws : Nat → ShipmentDraws

/-- What they make of it. -/
structure Dataset (c : Decimal.Context) (config : SeedConfig) (inputs : Inputs) where
  planned : List (Order × List PlannedItem)
  items : List OrderItem
  shipments : List Shipment
  planned_eq : generateOrders c config inputs.products.items inputs.customers inputs.promotions
    inputs.count inputs.orderDraws = .ok planned
  items_eq : generateItems c inputs.products.items planned (planned.map Prod.fst) = .ok items
  shipments_eq : generateShipments inputs.shipmentSeed inputs.warehouses (planned.map Prod.fst)
    inputs.shipmentDraws = .ok shipments

def refundsOf (returns : List Return) (key : Nat) : Rat :=
  ((returns.filter fun record => record.orderItem.order.key == key).map fun record =>
    record.refundAmount.getD 0).sum

section Items
variable {c : Decimal.Context}

/-- An item whose total is exact. -/
structure Settled (c : Decimal.Context) (item : OrderItem) : Prop where
  quantity : 1 ≤ item.quantity
  cents : ∃ n : Nat, item.unitPrice = n / 10 ^ 2 ∧ n * item.quantity < 10 ^ c.precision
  total : item.lineTotal = item.unitPrice * item.quantity

theorem Planned.settled (h : Planned c products order lines) (hl : line ∈ lines) :
    Settled c (line.item order) := by
  obtain ⟨hq, n, _, hn⟩ := h.priced line hl
  obtain ⟨_, _, _, _, hs, _, _, _, _, _, hle⟩ := h.resolved.cents
  obtain ⟨m, hm, ha⟩ := hle line hl
  refine ⟨hq, ⟨n, hn, ?_⟩, rfl⟩
  have he : ((n * line.quantity : Nat) : Rat) = m := by
    rw [PlannedItem.amount, hn, div_mul_eq_mul_div, div_left_inj' (by norm_num)] at ha
    rw [Nat.cast_mul]
    exact ha
  rw [Nat.cast_inj] at he
  show n * line.quantity < 10 ^ c.precision
  omega

theorem Settled.refund_eq (h : Settled c item) {pieces : Nat} (hq : pieces ≤ item.quantity) :
    roundCurrency c (c.mul item.unitPrice pieces) = .ok (item.unitPrice * pieces) := by
  obtain ⟨n, hn, hlt⟩ := h.cents
  have hle := Nat.mul_le_mul_left n hq
  have he : item.unitPrice * pieces = ((n * pieces : Nat) : Rat) / 10 ^ 2 := by
    rw [hn, Nat.cast_mul]
    ring
  rw [mul, he, fix_units (by omega)]
  exact roundCurrency_cents c (by omega)

theorem Settled.unitPrice_nonneg (h : Settled c item) : 0 ≤ item.unitPrice := by
  obtain ⟨n, hn, _⟩ := h.cents
  rw [hn]
  positivity

theorem Settled.lineTotal_nonneg (h : Settled c item) : 0 ≤ item.lineTotal := by
  rw [h.total]
  exact mul_nonneg h.unitPrice_nonneg (Nat.cast_nonneg _)

end Items

section Returns
variable {c : Decimal.Context} {config : SeedConfig} {shipments : List Shipment}
  {payments : List Payment}

theorem Recorded.refund_le (h : Recorded c payments item deliveredAt record)
    (hs : Settled c item) : record.refundAmount.getD 0 ≤ item.lineTotal := by
  cases hr : record.refundAmount with
  | none => exact hs.lineTotal_nonneg
  | some amount =>
    obtain ⟨_, _, hround⟩ := h.refund amount hr
    rw [hs.refund_eq h.quantity.2] at hround
    cases hround
    rw [Option.getD_some, hs.total]
    exact mul_le_mul_of_nonneg_left (Nat.cast_le.2 h.quantity.2) hs.unitPrice_nonneg

theorem mem_returnEligibleStatuses :
    status ∈ returnEligibleStatuses ↔ status = .delivered ∨ status = .returned := by
  simp only [returnEligibleStatuses, List.mem_cons, List.not_mem_nil, or_false]

theorem mem_refundableStatuses :
    status ∈ refundableStatuses ↔ status = .refunded ∨ status = .completed := by
  simp only [refundableStatuses, List.mem_cons, List.not_mem_nil, or_false]

theorem sum_filter_cons (p : α → Bool) (f : α → Rat) (x : α) (xs : List α) :
    (((x :: xs).filter p).map f).sum = (if p x = true then f x else 0) +
      ((xs.filter p).map f).sum := by
  rw [List.filter_cons]
  split
  · rw [List.map_cons, List.sum_cons]
  · rw [zero_add]

theorem refundsOf_cons (record : Return) (records : List Return) (key : Nat) :
    refundsOf (record :: records) key =
      (if record.orderItem.order.key = key then record.refundAmount.getD 0 else 0) +
        refundsOf records key := by
  rw [refundsOf, sum_filter_cons]
  simp only [beq_iff_eq]
  rfl

def chargesOf (items : List OrderItem) (key : Nat) : Rat :=
  ((items.filter fun item => item.order.key == key).map OrderItem.lineTotal).sum

theorem chargesOf_cons (item : OrderItem) (items : List OrderItem) (key : Nat) :
    chargesOf (item :: items) key =
      (if item.order.key = key then item.lineTotal else 0) + chargesOf items key := by
  rw [chargesOf, sum_filter_cons]
  simp only [beq_iff_eq]
  rfl

theorem refundsOf_le (h : returnsFor c config shipments payments draws items index = .ok records)
    (hs : ∀ item ∈ items, Settled c item) (key : Nat) :
    refundsOf records key ≤ chargesOf items key := by
  induction items generalizing index records with
  | nil =>
    cases h
    exact le_refl _
  | cons item items ih =>
    have hitem := hs item (List.mem_cons_self ..)
    have hrest := fun other ho => hs other (List.mem_cons_of_mem item ho)
    have hpos : 0 ≤ if item.order.key = key then item.lineTotal else 0 := by
      split
      · exact hitem.lineTotal_nonneg
      · exact le_refl 0
    rw [returnsFor] at h
    rw [chargesOf_cons]
    split at h
    · exact (ih h hrest).trans (le_add_of_nonneg_left hpos)
    · split at h
      · obtain ⟨record, hb, h⟩ := bind_ok h
        obtain ⟨rest, hr, h⟩ := bind_ok h
        cases h
        have hrec := buildReturn_spec hb
        rw [refundsOf_cons, hrec.belongs]
        apply add_le_add _ (ih hr hrest)
        split
        · exact hrec.refund_le hitem
        · exact le_refl 0
      · exact (ih h hrest).trans (le_add_of_nonneg_left hpos)

/-- Draws that return every item whole, a day after it was delivered. -/
def wholeReturn (items : List OrderItem) (index : Nat) : ReturnDraws where
  eligible := zeroChance
  requested := 0
  returnStatus := oneHalf
  quantity := match items[index]? with
    | some item => item.quantity - 1
    | none => 0
  resolved := 0
  returnReason := oneHalf

theorem assignReturnStatus_refunded (deliveredAt : Int) :
    assignReturnStatus (isReturnWindowOpen
      ((deliveredAt + days (randint 1 (returnWindowDays + 10) 0) - deliveredAt) / 86400)) true
        oneHalf = .refunded := by
  rw [add_sub_cancel_left]
  decide +kernel

theorem buildReturn_whole (payments : List Payment) (h : Settled c item)
    (hi : items[index]? = some item) (deliveredAt : Int) :
    ∃ record, buildReturn c payments item deliveredAt (wholeReturn items index) = .ok record ∧
      (capturedByOrder payments item.order.key = true →
        record.refundAmount = some item.lineTotal) := by
  have hq : randint 1 item.quantity (wholeReturn items index).quantity = item.quantity := by
    rw [wholeReturn, hi]
    exact randint_sub h.quantity (le_refl _)
  have hne : ¬ item.quantity = 0 := by
    have hpos := h.quantity
    omega
  rw [buildReturn]
  dsimp only
  rw [if_neg hne, hq, refundFor, h.refund_eq (le_refl _), ← h.total]
  split
  · exact ⟨_, rfl, fun _ => rfl⟩
  · rename_i hs
    refine ⟨_, rfl, ?_⟩
    intro hc
    rw [hc] at hs
    exact absurd (congrArg refundableStatuses.contains (assignReturnStatus_refunded deliveredAt)) hs

theorem returnsFor_whole (shipments : List Shipment) (all : List OrderItem) (index key : Nat)
    (hrate : 0 < config.returnRate.value)
    (hs : ∀ item ∈ items, Settled c item) (hi : ∀ i, items[i]? = all[index + i]?)
    (hk : ∀ item ∈ items, item.order.key = key →
      (∃ deliveredAt, deliveredAtByOrder shipments item.order.key = some deliveredAt) ∧
        item.order.orderStatus ∈ returnEligibleStatuses ∧
        capturedByOrder payments item.order.key = true) :
    ∃ records, returnsFor c config shipments payments (wholeReturn all) items index = .ok records ∧
      chargesOf items key ≤ refundsOf records key := by
  induction items generalizing index with
  | nil => exact ⟨[], rfl, le_refl _⟩
  | cons item items ih =>
    have hitem := hs item (List.mem_cons_self ..)
    obtain ⟨rest, hrest, hle⟩ := ih (index + 1)
      (fun other ho => hs other (List.mem_cons_of_mem item ho))
      (fun i => by
        have hnext := hi (i + 1)
        rw [List.getElem?_cons_succ] at hnext
        rw [hnext, Nat.add_assoc, Nat.add_comm 1 i])
      (fun other ho => hk other (List.mem_cons_of_mem item ho))
    have hat := (hi 0).symm
    rw [Nat.add_zero, List.getElem?_cons_zero] at hat
    rw [returnsFor, chargesOf_cons]
    by_cases hkey : item.order.key = key
    · obtain ⟨⟨deliveredAt, hd⟩, hst, hc⟩ := hk item (List.mem_cons_self ..) hkey
      obtain ⟨record, hb, hr⟩ := buildReturn_whole payments hitem hat deliveredAt
      have hel : isEligibleForReturn config item.order.orderStatus
          (wholeReturn all index).eligible = true := by
        rw [isEligibleForReturn, List.contains_iff_mem.2 hst, Bool.true_and, decide_eq_true_eq]
        exact hrate
      refine ⟨record :: rest, ?_, ?_⟩
      · rw [hd]
        dsimp only
        rw [if_pos hel, hb, ok_bind, hrest]
        rfl
      · rw [if_pos hkey, refundsOf_cons, (buildReturn_spec hb).belongs, if_pos hkey, hr hc,
          Option.getD_some]
        exact add_le_add (le_refl _) hle
    · rw [if_neg hkey, zero_add]
      split
      · exact ⟨rest, hrest, hle⟩
      · rename_i deliveredAt hd
        split
        · obtain ⟨record, hb, _⟩ := buildReturn_whole payments hitem hat deliveredAt
          refine ⟨record :: rest, ?_, ?_⟩
          · rw [hb, ok_bind, hrest]
            rfl
          · rw [refundsOf_cons, (buildReturn_spec hb).belongs, if_neg hkey, zero_add]
            exact hle
        · exact ⟨rest, hrest, hle⟩

end Returns

section Datasets
variable {c : Decimal.Context} {config : SeedConfig} {inputs : Inputs}

def Dataset.orders (data : Dataset c config inputs) : List Order := data.planned.map Prod.fst

def Dataset.payments (data : Dataset c config inputs) : List Payment :=
  generatePayments config inputs.paymentSeed data.orders inputs.paymentDraws

variable (data : Dataset c config inputs)

theorem Dataset.nodup : (data.orders.map Order.key).Nodup := by
  rw [orders, List.map_map]
  exact (generateOrders_spec data.planned_eq).2.1

theorem Dataset.items_flatMap :
    data.items = data.planned.flatMap fun entry => entry.2.map (PlannedItem.item entry.1) := by
  obtain ⟨_, hk, hp⟩ := generateOrders_spec data.planned_eq
  exact Except.ok.inj (data.items_eq.symm.trans (generateItems_eq hk hp fun entry he => he))

theorem Dataset.balanced (ho : order ∈ data.orders) :
    Balanced order (itemsOf data.items order) := by
  obtain ⟨_, hk, hp⟩ := generateOrders_spec data.planned_eq
  obtain ⟨entry, he, rfl⟩ := List.mem_map.1 ho
  rw [data.items_flatMap, itemsOf_eq hk he]
  exact (hp entry he).balanced

theorem Dataset.settled (hi : item ∈ data.items) :
    item.order ∈ data.orders ∧ Settled c item := by
  obtain ⟨_, _, hp⟩ := generateOrders_spec data.planned_eq
  rw [data.items_flatMap] at hi
  obtain ⟨entry, he, hi⟩ := List.mem_flatMap.1 hi
  obtain ⟨line, hl, rfl⟩ := List.mem_map.1 hi
  exact ⟨List.mem_map_of_mem he, (hp entry he).settled hl⟩

theorem Dataset.eq_of_key {x y : Order} (hx : x ∈ data.orders) (hy : y ∈ data.orders)
    (h : x.key = y.key) : x = y :=
  Objects.eq_of_key ⟨data.orders, data.nodup⟩ hx hy h

theorem Dataset.amount (hp : payment ∈ data.payments) (ho : order ∈ data.orders)
    (hk : payment.order.key = order.key) : payment.amount = order.totalAmount := by
  obtain ⟨hin, hcharges, _⟩ := mem_generatePayments hp
  rw [hcharges.amount, data.eq_of_key hin ho hk]

theorem Dataset.delivered (ho : order ∈ data.orders)
    (hs : order.orderStatus ∈ returnEligibleStatuses) :
    (∃ deliveredAt, deliveredAtByOrder data.shipments order.key = some deliveredAt) ∧
      ∃ payment ∈ data.payments, payment.order.key = order.key ∧
        payment.paymentStatus = .captured := by
  obtain ⟨hw, hshipments⟩ := generateShipments_eq data.shipments_eq
  have hst := mem_returnEligibleStatuses.1 hs
  have hship : order.orderStatus ∈ shippableStatuses := by
    rcases hst with h | h <;> rw [h] <;> decide
  obtain ⟨i, hi⟩ := List.mem_iff_getElem?.1 ho
  have he : (order, i) ∈ data.orders.zipIdx := List.mem_zipIdx_iff_getElem?.2 hi
  constructor
  · obtain ⟨n, hn⟩ := shipmentsFor_mem inputs.shipmentSeed hw inputs.shipmentDraws he hship 0
    have hd : ∃ deliveredAt, (buildShipment inputs.shipmentSeed inputs.warehouses hw order n
        (inputs.shipmentDraws i)).deliveredAt = some deliveredAt := by
      simp only [buildShipment, resolveStatus, if_pos hst]
      exact ⟨_, rfl⟩
    obtain ⟨deliveredAt, hd⟩ := hd
    rw [hshipments]
    obtain ⟨latest, hl, _⟩ := le_deliveredAtByOrder hn rfl hd
    exact ⟨latest, hl⟩
  · obtain ⟨payment, hp, hb, hc⟩ := generatePayments_captured config inputs.paymentSeed
      inputs.paymentDraws ho hship
    exact ⟨payment, hp, by rw [hb], hc⟩

theorem capturedByOrder_iff : capturedByOrder payments key = true ↔
    ∃ payment ∈ payments, payment.order.key = key ∧ payment.paymentStatus = .captured := by
  rw [capturedByOrder, List.any_eq_true]
  simp only [Bool.and_eq_true, beq_iff_eq]

/-- The returns are of what was delivered, and refund what was paid. -/
structure Refunded (data : Dataset c config inputs) (returns : List Return) : Prop where
  eligible : ∀ record ∈ returns, record.orderItem ∈ data.items ∧
    (record.orderItem.order.orderStatus = .delivered ∨
      record.orderItem.order.orderStatus = .returned) ∧
    ∃ shipment ∈ data.shipments, shipment.order.key = record.orderItem.order.key ∧
      shipment.deliveredAt.isSome = true
  quantity : ∀ record ∈ returns,
    1 ≤ record.quantityReturned ∧ record.quantityReturned ≤ record.orderItem.quantity
  refunded : ∀ record ∈ returns, record.refundAmount.isSome = true →
    (record.returnStatus = .refunded ∨ record.returnStatus = .completed) ∧
      ∃ payment ∈ data.payments, payment.order.key = record.orderItem.order.key ∧
        payment.paymentStatus = .captured
  covered : ∀ order ∈ data.orders, ∀ payment ∈ data.payments, payment.order.key = order.key →
    payment.paymentStatus = .captured → refundsOf returns order.key ≤ payment.amount

/-- No discount of a delivered order is more than its tax and shipping. -/
def Covered (data : Dataset c config inputs) : Prop :=
  ∀ order ∈ data.orders, order.orderStatus = .delivered ∨ order.orderStatus = .returned →
    order.discountAmount ≤ order.taxAmount + order.shippingAmount

theorem mem_generateReturns
    (h : generateReturns c config data.shipments data.payments data.items draws = .ok returns)
    (hr : record ∈ returns) :
    ∃ item ∈ data.items, item.order.orderStatus ∈ returnEligibleStatuses ∧
      0 < config.returnRate.value ∧ ∃ deliveredAt,
      deliveredAtByOrder data.shipments item.order.key = some deliveredAt ∧
      Recorded c data.payments item deliveredAt record := by
  obtain ⟨entry, he, deliveredAt, hd, hel, hb⟩ := mem_returnsFor h hr
  rw [isEligibleForReturn, Bool.and_eq_true, List.contains_iff_mem, decide_eq_true_eq] at hel
  exact ⟨entry.1, List.fst_mem_of_mem_zipIdx he, hel.1,
    lt_of_le_of_lt (draws entry.2).eligible.nonneg hel.2, deliveredAt, hd, buildReturn_spec hb⟩

theorem refundsOf_eq_zero
    (h : ∀ record ∈ returns, ¬ record.orderItem.order.key = key) : refundsOf returns key = 0 := by
  rw [refundsOf, List.filter_eq_nil_iff.2]
  · rfl
  · intro record hr
    rw [beq_iff_eq]
    exact h record hr

theorem refunded_of_covered
    (h : generateReturns c config data.shipments data.payments data.items draws = .ok returns)
    (hc : config.returnRate.value = 0 ∨ Covered data) : Refunded data returns := by
  constructor
  · intro record hr
    obtain ⟨item, hi, hst, _, deliveredAt, hd, hrec⟩ := mem_generateReturns data h hr
    obtain ⟨shipment, hs, hk, hat⟩ := deliveredAtByOrder_mem hd
    rw [hrec.belongs]
    exact ⟨hi, mem_returnEligibleStatuses.1 hst, shipment, hs, hk, by rw [hat]; rfl⟩
  · intro record hr
    obtain ⟨item, _, _, _, _, _, hrec⟩ := mem_generateReturns data h hr
    rw [hrec.belongs]
    exact hrec.quantity
  · intro record hr hsome
    obtain ⟨item, _, _, _, _, _, hrec⟩ := mem_generateReturns data h hr
    obtain ⟨amount, ha⟩ := Option.isSome_iff_exists.1 hsome
    obtain ⟨hst, hcaptured, _⟩ := hrec.refund amount ha
    rw [hrec.belongs]
    exact ⟨mem_refundableStatuses.1 hst, capturedByOrder_iff.1 hcaptured⟩
  · intro order ho payment hp hk _
    have hb := data.balanced ho
    rw [data.amount hp ho hk]
    by_cases hany : ∃ record ∈ returns, record.orderItem.order.key = order.key
    · obtain ⟨record, hr, hkey⟩ := hany
      obtain ⟨item, hi, hst, hrate, _, _, hrec⟩ := mem_generateReturns data h hr
      rw [hrec.belongs] at hkey
      rw [data.eq_of_key (data.settled hi).1 ho hkey] at hst
      have hle : refundsOf returns order.key ≤ chargesOf data.items order.key :=
        refundsOf_le h (fun item hi => (data.settled hi).2) order.key
      have hsub : chargesOf data.items order.key = order.subtotalAmount := hb.subtotal.symm
      have hcov := (hc.resolve_left hrate.ne') order ho (mem_returnEligibleStatuses.1 hst)
      have htotal := hb.total
      linarith
    · rw [refundsOf_eq_zero fun record hr hkey => hany ⟨record, hr, hkey⟩]
      exact hb.total_nonneg

theorem returnsFor_total (config : SeedConfig) (shipments : List Shipment)
    (payments : List Payment) (draws : Nat → ReturnDraws)
    (hs : ∀ item ∈ items, Settled c item) (index : Nat) :
    ∃ records, returnsFor c config shipments payments draws items index = .ok records := by
  induction items generalizing index with
  | nil => exact ⟨[], rfl⟩
  | cons item items ih =>
    have hitem := hs item (List.mem_cons_self ..)
    obtain ⟨rest, hrest⟩ := ih (fun other ho => hs other (List.mem_cons_of_mem item ho)) (index + 1)
    rw [returnsFor]
    split
    · exact ⟨rest, hrest⟩
    · rename_i deliveredAt hd
      split
      · have hq := hitem.quantity
        have hle := randint_le hq (draws index).quantity
        have hb : ∃ record, buildReturn c payments item deliveredAt (draws index) = .ok record := by
          rw [buildReturn]
          dsimp only
          rw [if_neg (by omega), refundFor, hitem.refund_eq hle]
          split
          · exact ⟨_, rfl⟩
          · exact ⟨_, rfl⟩
        obtain ⟨record, hb⟩ := hb
        refine ⟨record :: rest, ?_⟩
        rw [hb, ok_bind, hrest]
        rfl
      · exact ⟨rest, hrest⟩

/-- Where every item is returned whole, the refunds of an order are all that it was charged. -/
theorem covered_of_refunded (hrate : 0 < config.returnRate.value)
    (h : generateReturns c config data.shipments data.payments data.items
      (wholeReturn data.items) = .ok returns) (hr : Refunded data returns) : Covered data := by
  intro order ho hst
  have hel := mem_returnEligibleStatuses.2 hst
  obtain ⟨hdelivered, payment, hp, hk, hcaptured⟩ := data.delivered ho hel
  obtain ⟨records, hrecords, hle⟩ := returnsFor_whole data.shipments data.items 0 order.key hrate
    (fun item hi => (data.settled hi).2) (fun i => by rw [Nat.zero_add]) (by
      intro item hi hkey
      rw [data.eq_of_key (data.settled hi).1 ho hkey]
      exact ⟨hdelivered, hel, capturedByOrder_iff.2 ⟨payment, hp, hk, hcaptured⟩⟩)
  obtain rfl := Except.ok.inj (h.symm.trans hrecords)
  have hcov := hr.covered order ho payment hp hk hcaptured
  have hb := data.balanced ho
  have hsub : chargesOf data.items order.key = order.subtotalAmount := hb.subtotal.symm
  have htotal := hb.total
  rw [data.amount hp ho hk] at hcov
  linarith

/-- Refunds stay within what was paid, whatever is drawn, where nothing is returned at all or no
discount outweighs the tax and shipping of a delivered order. -/
theorem refunded_iff_covered :
    (∀ draws, ∃ returns, generateReturns c config data.shipments data.payments data.items draws =
        .ok returns ∧ Refunded data returns) ↔
      config.returnRate.value = 0 ∨ Covered data := by
  constructor
  · intro h
    rcases config.returnRate.nonneg.eq_or_lt with hzero | hrate
    · exact .inl hzero.symm
    · obtain ⟨returns, hreturns, hr⟩ := h (wholeReturn data.items)
      exact .inr (covered_of_refunded data hrate hreturns hr)
  · intro hc draws
    obtain ⟨returns, hreturns⟩ := returnsFor_total config data.shipments data.payments draws
      (fun item hi => (data.settled hi).2) 0
    exact ⟨returns, hreturns, refunded_of_covered data hreturns hc⟩

end Datasets

section Sale

def saleInputs : Inputs where
  customers := [⟨0, .standard⟩]
  products := twoProducts
  promotions := [autumnSale]
  count := 1
  orderDraws _ := middleDraws
  paymentSeed := 53
  paymentDraws _ := chargedDraws
  shipmentSeed := 54
  warehouses := [⟨0⟩]
  shipmentDraws _ := delayedBy 1

def discountOutweighs (order : Order) : Bool :=
  order.orderStatus == .delivered &&
    order.taxAmount + order.shippingAmount < order.discountAmount

theorem saleInputs_refunds : ∃ (data : Dataset defaultContext defaultConfig saleInputs)
    (returns : List Return),
    generateReturns defaultContext defaultConfig data.shipments data.payments data.items
      (wholeReturn data.items) = .ok returns ∧ ¬ Refunded data returns := by
  obtain ⟨planned, hp⟩ := exists_of_toBool (x := generateOrders defaultContext defaultConfig
    twoProducts.items [⟨0, .standard⟩] [autumnSale] 1 fun _ => middleDraws) (by decide +kernel)
  have hany : ((generateOrders defaultContext defaultConfig twoProducts.items [⟨0, .standard⟩]
      [autumnSale] 1 fun _ => middleDraws).toOption.getD []).any
        (fun entry => discountOutweighs entry.1) = true := by decide +kernel
  rw [hp] at hany
  obtain ⟨_, hk, hplanned⟩ := generateOrders_spec hp
  let data : Dataset defaultContext defaultConfig saleInputs :=
    ⟨planned, _, _, hp, generateItems_eq hk hplanned fun entry he => he, rfl⟩
  obtain ⟨returns, hr⟩ := returnsFor_total defaultConfig data.shipments data.payments
    (wholeReturn data.items) (fun item hi => (data.settled hi).2) 0
  refine ⟨data, returns, hr, ?_⟩
  intro hrefunded
  obtain ⟨entry, he, hover⟩ := List.any_eq_true.1 hany
  rw [discountOutweighs, Bool.and_eq_true, beq_iff_eq, decide_eq_true_eq] at hover
  have hcov := covered_of_refunded data (by decide +kernel) hr hrefunded entry.1
    (List.mem_map_of_mem he) (.inl hover.1)
  exact absurd hover.2 (not_lt.2 hcov)

end Sale

end QueryMind.Seeds
