import QueryMind.Lib.Decimal
import QueryMind.Lib.Draws
import QueryMind.Seeds.Models

namespace QueryMind.Seeds
open Lib Lib.Draws Lib.Decimal
set_option autoImplicit true

variable (c : Decimal.Context)

/-- `ROUND_HALF_UP` to cents, which raises where the digits do not fit. -/
def roundCurrency (amount : Rat) : Except SeedError Rat :=
  match c.quantize 2 halfUp amount with
  | some rounded => .ok rounded
  | none => .error .invalidOperation

def percentageOf (amount percent : Rat) : Except SeedError Rat :=
  roundCurrency c (c.div (c.mul amount percent) 100)

/-- `round` of a float, to the even number where it is halfway. -/
def roundToEven (x : Rat) : Nat := (halfEven.round x).toNat

def weightedChoice (entries : List (α × Rat)) (draw : Chance) : Except SeedError α :=
  if entries.isEmpty then .error (.valueError "choices must not be empty")
  else match Draws.weightedChoice entries draw with
    | some x => .ok x
    | none => .error (.valueError "Total of weights must be greater than zero")

def randomDateBetween (start stop : Date) (draw : Nat) : Except SeedError Date :=
  if start ≤ stop then .ok (Date.later (randint 0 (stop.ordinal - start.ordinal) draw) start)
  else .error (.valueError "start must not be after end")

def randomDatetimeBetween (start stop : Int) (draw : Nat) : Except SeedError Int :=
  if start ≤ stop then .ok (start + randint 0 (stop - start).toNat draw)
  else .error (.valueError "start must not be after end")

theorem roundCurrency_eq_ok :
    roundCurrency c x = .ok y ↔ c.quantize 2 halfUp x = some y := by
  rw [roundCurrency]
  split
  · rename_i rounded hq
    rw [hq, Except.ok.injEq, Option.some.injEq]
  · rename_i hq
    rw [hq]
    constructor
    · intro h
      cases h
    · intro h
      cases h

theorem roundCurrency_cents {n : Nat} (h : n < 10 ^ c.precision) :
    roundCurrency c (n / 10 ^ 2) = .ok ((n : Rat) / 10 ^ 2) :=
  (roundCurrency_eq_ok c).2 (Decimal.Context.quantize_eq 2 halfUp h)

theorem weightedChoice_mem (h : weightedChoice entries draw = .ok x) :
    ∃ weight, (x, weight) ∈ entries := by
  rw [weightedChoice] at h
  split at h
  · cases h
  · split at h
    · rename_i hc
      cases h
      exact Draws.weightedChoice_mem hc
    · cases h

section Customers

def orderFrequencyMultiplier : CustomerSegment → Rat
  | .standard => 1
  | .vip => 2.5
  | .wholesale => 0.6

end Customers

section Orders

def orderStatusWeights : Distribution OrderStatus where
  entries := [(.delivered, 0.70), (.shipped, 0.15), (.confirmed, 0.04), (.pending, 0.04),
    (.cancelled, 0.05), (.returned, 0.02)]
  positive := by decide +kernel

def salesChannelWeights : Distribution SalesChannel where
  entries := [(.web, 0.45), (.mobileApp, 0.35), (.marketplace, 0.15), (.phone, 0.05)]
  positive := by decide +kernel

def orderValueMultiplier : CustomerSegment → Rat
  | .standard => 1
  | .vip => 1.4
  | .wholesale => 4

def seasonalMultiplier (config : SeedConfig) (day : Date) : Rat :=
  (config.seasonalMultipliers day.month).getD 1

def firstOfMonth (month : Nat) : Date := ⟨month / 12, month % 12 + 1, 1⟩

def monthOf (d : Date) : Nat := 12 * d.year + (d.month - 1)

/-- The calendar months from start to stop, clipped at both ends. -/
def monthWindows (start stop : Date) : List (Date × Date) :=
  (List.range (monthOf stop + 1 - monthOf start)).map fun i =>
    let cursor := firstOfMonth (monthOf start + i)
    let last := (firstOfMonth (monthOf start + i + 1)).prev
    (if start ≤ cursor then cursor else start, if last ≤ stop then last else stop)

def sampleOrderDate (config : SeedConfig) (window : Chance) (day : Nat) :
    Except SeedError Date := do
  let windows := monthWindows config.businessStartDate config.businessEndDate
  let chosen ← weightedChoice (windows.map fun w => (w, seasonalMultiplier config w.1)) window
  randomDateBetween chosen.1 chosen.2 day

def sampleItemCount (config : SeedConfig) (draw : Nat) : Nat :=
  let low := max 1 (roundToEven (config.orderItemsPerOrderAvg * 0.4))
  let high := max low (roundToEven (config.orderItemsPerOrderAvg * 1.8))
  randint low high draw

def taxRate : Rat := 0.0725

def freeShippingThreshold : Rat := 50

def standardShippingFee : Rat := 5.99

def shippingFee (subtotalAmount : Rat) : Except SeedError Rat :=
  if freeShippingThreshold ≤ subtotalAmount then roundCurrency c 0
  else roundCurrency c standardShippingFee

end Orders

section Promotions

def appliesPromotion (config : SeedConfig) (draw : Chance) : Bool :=
  draw.value < config.promotionFrequency.value

def isPromotionActive (startsAt endsAt orderDate : Date) : Bool :=
  startsAt ≤ orderDate && orderDate ≤ endsAt

end Promotions

section Payments

def paymentMethodWeights : Distribution PaymentMethod where
  entries := [(.creditCard, 0.55), (.debitCard, 0.20), (.paypal, 0.18), (.giftCard, 0.04),
    (.bankTransfer, 0.03)]
  positive := by decide +kernel

def paymentSucceeds (config : SeedConfig) (draw : Chance) : Bool :=
  config.paymentFailureRate.value ≤ draw.value

def retryCountOnFailure (draw : Nat) : Nat := randint 0 2 draw

end Payments

section Shipments

def carrierWeights : Distribution String where
  entries := [("UPS", 0.40), ("FedEx", 0.35), ("DHL", 0.15), ("USPS", 0.10)]
  positive := by decide +kernel

def shipmentStatusWeights : Distribution ShipmentStatus where
  entries := [(.delivered, 0.80), (.inTransit, 0.12), (.pending, 0.05), (.failed, 0.02),
    (.returnedToSender, 0.01)]
  positive := by decide +kernel

def fastCarriers : List String := ["FedEx", "UPS"]

def processingDelayDays (draw : Nat) : Nat := randint 0 2 draw

def transitDelayDays (carrier : String) (draw : Nat) : Nat :=
  if fastCarriers.contains carrier then randint 1 3 draw else randint 3 7 draw

end Shipments

section Reviews

def ratingWeights : Distribution Nat where
  entries := [(1, 0.03), (2, 0.05), (3, 0.12), (4, 0.30), (5, 0.50)]
  positive := by decide +kernel

def isEligibleForReview (config : SeedConfig) (isVerifiedPurchase : Bool) (draw : Chance) : Bool :=
  draw.value < min (config.reviewRate.value * if isVerifiedPurchase then 1.2 else 0.6) 1

def reviewDelayDays (draw : Nat) : Nat := randint 1 30 draw

end Reviews

section Returns

def returnWindowDays : Nat := 30

def returnEligibleStatuses : List OrderStatus := [.delivered, .returned]

def returnReasonWeights : Distribution ReturnReason where
  entries := [(.noLongerNeeded, 0.35), (.defective, 0.25), (.notAsDescribed, 0.20),
    (.wrongItem, 0.12), (.damagedInShipping, 0.06), (.other, 0.02)]
  positive := by decide +kernel

def isReturnWindowOpen (deliveredDaysAgo : Int) : Bool :=
  0 ≤ deliveredDaysAgo && deliveredDaysAgo ≤ returnWindowDays

def isEligibleForReturn (config : SeedConfig) (orderStatus : OrderStatus) (draw : Chance) : Bool :=
  returnEligibleStatuses.contains orderStatus && draw.value < config.returnRate.value

def returnStatusWeights : Distribution ReturnStatus where
  entries := [(.requested, 0.05), (.approved, 0.10), (.rejected, 0.10), (.refunded, 0.50),
    (.completed, 0.25)]
  positive := by decide +kernel

def assignReturnStatus (windowOpen paymentCaptured : Bool) (draw : Chance) : ReturnStatus :=
  if !windowOpen || !paymentCaptured then .rejected else returnStatusWeights.pick draw

end Returns

section Inventory

def reorderLevelRatio : Rat := 0.2

def warehouseCoverageRatio (config : SeedConfig) (productCount warehouseCount : Nat) : Rat :=
  let totalPossible := productCount * warehouseCount
  if totalPossible = 0 then 0 else min (config.inventorySize / totalPossible) 1

def shouldStock (coverageRatio : Rat) (draw : Chance) : Bool := draw.value < coverageRatio

def quantityOnHandMultiplier (isHighDemand : Bool) : Rat := if isHighDemand then 2.5 else 1

end Inventory

end QueryMind.Seeds
