import QueryMind.Seeds.Payments

namespace QueryMind.Seeds
open Lib Lib.Draws
set_option autoImplicit true

/-- What is drawn for the shipment of one order. -/
structure ShipmentDraws where
  shipmentStatus : Chance
  carrier : Chance
  processing : Nat
  transit : Nat
  warehouse : Nat

def shippableStatuses : List OrderStatus := [.confirmed, .shipped, .delivered, .returned]

/-- The drawn status, as far as the order has come. -/
def resolveStatus (orderStatus : OrderStatus) (drawn : ShipmentStatus) : ShipmentStatus :=
  if orderStatus = .delivered ∨ orderStatus = .returned then .delivered
  else if orderStatus = .confirmed then
    if drawn = .pending ∨ drawn = .failed then drawn else .pending
  else if drawn = .delivered then .inTransit else drawn

section ShipmentGenerator
variable (seed : Int) (warehouses : List Warehouse) (hw : warehouses ≠ [])

def buildShipment (order : Order) (sequence : Nat) (draws : ShipmentDraws) : Shipment :=
  let status := resolveStatus order.orderStatus (shipmentStatusWeights.pick draws.shipmentStatus)
  let carrier := carrierWeights.pick draws.carrier
  let shippedAt :=
    if status = .pending then none
    else some (order.orderDate + days (processingDelayDays draws.processing))
  { order := order
    warehouse := choice warehouses hw draws.warehouse
    carrier := carrier
    trackingNumber := "1Z" ++ Text.zeroPadded 4 seed ++ Text.zeroPadded 10 (sequence + 1 : Nat)
    shipmentStatus := status
    shippedAt := shippedAt
    deliveredAt :=
      if status = .delivered then
        some (shippedAt.getD order.orderDate + days (transitDelayDays carrier draws.transit))
      else none }

def shipmentsFor (draws : Nat → ShipmentDraws) : List Order → Nat → Nat → List Shipment
  | [], _, _ => []
  | order :: orders, index, sequence =>
    if shippableStatuses.contains order.orderStatus then
      buildShipment seed warehouses hw order sequence (draws index) ::
        shipmentsFor draws orders (index + 1) (sequence + 1)
    else shipmentsFor draws orders (index + 1) sequence

def generateShipments (orders : List Order) (draws : Nat → ShipmentDraws) :
    Except SeedError (List Shipment) :=
  if h : warehouses = [] then
    .error (.valueError "ShipmentGenerator requires at least one warehouse")
  else .ok (shipmentsFor seed warehouses h draws orders 0 0)

end ShipmentGenerator

def laterDelivery (key : Nat) (existing : Option Int) (shipment : Shipment) : Option Int :=
  match shipment.deliveredAt with
  | none => existing
  | some deliveredAt =>
    if shipment.order.key = key then
      match existing with
      | none => some deliveredAt
      | some latest => if latest < deliveredAt then some deliveredAt else some latest
    else existing

/-- `delivered_at.get(id(order))`: the latest delivery of the order. -/
def deliveredAtByOrder (shipments : List Shipment) (key : Nat) : Option Int :=
  shipments.foldl (laterDelivery key) none

def capturedByOrder (payments : List Payment) (key : Nat) : Bool :=
  payments.any fun payment => payment.order.key == key && payment.paymentStatus == .captured

section ProductReviewGenerator

structure ReviewDraws where
  eligible : Chance
  rating : Chance
  delay : Nat

variable (config : SeedConfig) (shipments : List Shipment)

def reviewOf (item : OrderItem) (draws : ReviewDraws) : Option ProductReview :=
  if item.order.orderStatus = .delivered then
    match deliveredAtByOrder shipments item.order.key with
    | none => none
    | some deliveredAt =>
      if isEligibleForReview config true draws.eligible then
        some {
          orderItem := item
          rating := ratingWeights.pick draws.rating
          isVerifiedPurchase := true
          reviewDate := deliveredAt + days (reviewDelayDays draws.delay) }
      else none
  else none

def generateReviews (items : List OrderItem) (draws : Nat → ReviewDraws) : List ProductReview :=
  items.zipIdx.filterMap fun entry => reviewOf config shipments entry.1 (draws entry.2)

end ProductReviewGenerator

section ReturnGenerator

structure ReturnDraws where
  eligible : Chance
  requested : Nat
  returnStatus : Chance
  quantity : Nat
  resolved : Nat
  returnReason : Chance

def terminalStatuses : List ReturnStatus := [.approved, .rejected, .refunded, .completed]

def refundableStatuses : List ReturnStatus := [.refunded, .completed]

variable (c : Lib.Decimal.Context) (config : SeedConfig) (shipments : List Shipment)
  (payments : List Payment)

/-- Money moves back for the statuses that say so, at the price of the item. -/
def refundFor (item : OrderItem) (status : ReturnStatus) (quantityReturned : Nat) :
    Except SeedError (Option Rat) :=
  if refundableStatuses.contains status then
    (roundCurrency c (c.mul item.unitPrice quantityReturned)).map some
  else .ok none

def buildReturn (item : OrderItem) (deliveredAt : Int) (draws : ReturnDraws) :
    Except SeedError Return := do
  let requestedAt := deliveredAt + days (randint 1 (returnWindowDays + 10) draws.requested)
  let windowOpen := isReturnWindowOpen ((requestedAt - deliveredAt) / 86400)
  let paymentCaptured := capturedByOrder payments item.order.key
  let status := assignReturnStatus windowOpen paymentCaptured draws.returnStatus
  if item.quantity = 0 then .error (.valueError "empty range in randrange(1, 1)")
  else
    let quantityReturned := randint 1 item.quantity draws.quantity
    let refundAmount ← refundFor c item status quantityReturned
    return {
      orderItem := item
      returnReason := returnReasonWeights.pick draws.returnReason
      returnStatus := status
      quantityReturned := quantityReturned
      refundAmount := refundAmount
      requestedAt := requestedAt
      resolvedAt :=
        if terminalStatuses.contains status then
          some (requestedAt + days (randint 1 10 draws.resolved))
        else none }

def returnsFor (draws : Nat → ReturnDraws) : List OrderItem → Nat → Except SeedError (List Return)
  | [], _ => .ok []
  | item :: items, index =>
    match deliveredAtByOrder shipments item.order.key with
    | none => returnsFor draws items (index + 1)
    | some deliveredAt =>
      if isEligibleForReturn config item.order.orderStatus (draws index).eligible then do
        let record ← buildReturn c payments item deliveredAt (draws index)
        let records ← returnsFor draws items (index + 1)
        return record :: records
      else returnsFor draws items (index + 1)

def generateReturns (items : List OrderItem) (draws : Nat → ReturnDraws) :
    Except SeedError (List Return) := returnsFor c config shipments payments draws items 0

end ReturnGenerator

end QueryMind.Seeds
