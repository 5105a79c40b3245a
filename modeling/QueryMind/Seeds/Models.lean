import QueryMind.Lib.Calendar
import Mathlib.Algebra.Order.Ring.Unbundled.Rat
import Mathlib.Data.List.Nodup

namespace QueryMind.Seeds
open Lib
set_option autoImplicit true

inductive CustomerSegment where
  | standard | vip | wholesale
  deriving DecidableEq, Repr

inductive AddressType where
  | billing | shipping
  deriving DecidableEq, Repr

inductive OrderStatus where
  | pending | confirmed | shipped | delivered | cancelled | returned
  deriving DecidableEq, Repr

inductive SalesChannel where
  | web | mobileApp | marketplace | phone
  deriving DecidableEq, Repr

inductive DiscountType where
  | percentage | fixedAmount
  deriving DecidableEq, Repr

inductive PaymentMethod where
  | creditCard | debitCard | paypal | giftCard | bankTransfer
  deriving DecidableEq, Repr

inductive PaymentStatus where
  | pending | authorized | captured | failed | refunded | partiallyRefunded
  deriving DecidableEq, Repr

inductive ShipmentStatus where
  | pending | inTransit | delivered | failed | returnedToSender
  deriving DecidableEq, Repr

inductive ReturnReason where
  | defective | wrongItem | noLongerNeeded | damagedInShipping | notAsDescribed | other
  deriving DecidableEq, Repr

inductive ReturnStatus where
  | requested | approved | rejected | refunded | completed
  deriving DecidableEq, Repr

/-- Objects that were each built on their own. The key stands for `id`. -/
structure Objects (key : α → Nat) where
  items : List α
  nodup : (items.map key).Nodup

structure Customer where
  key : Nat
  customerSegment : CustomerSegment

structure Product where
  key : Nat
  unitPrice : Rat
  positive : 0 < unitPrice

structure Warehouse where
  key : Nat

def DiscountType.range : DiscountType → Rat × Rat
  | .percentage => (10, 40)
  | .fixedAmount => (5, 50)

structure Promotion where
  discountType : DiscountType
  discountValue : Rat
  startsAt : Date
  endsAt : Date
  low : discountType.range.1 ≤ discountValue
  high : discountValue ≤ discountType.range.2

def minutes (n : Nat) : Int := 60 * n

def hours (n : Nat) : Int := 3600 * n

def days (n : Nat) : Int := 86400 * n

structure Order where
  key : Nat
  orderNumber : String
  orderDate : Int
  orderStatus : OrderStatus
  salesChannel : SalesChannel
  subtotalAmount : Rat
  discountAmount : Rat
  taxAmount : Rat
  shippingAmount : Rat
  totalAmount : Rat
  customer : Customer
  promotion : Option Promotion

structure OrderItem where
  order : Order
  product : Product
  quantity : Nat
  unitPrice : Rat
  discountAmount : Rat
  lineTotal : Rat

structure Payment where
  order : Order
  paymentMethod : PaymentMethod
  paymentStatus : PaymentStatus
  amount : Rat
  transactionReference : String
  paidAt : Option Int

structure Shipment where
  order : Order
  warehouse : Warehouse
  carrier : String
  trackingNumber : String
  shipmentStatus : ShipmentStatus
  shippedAt : Option Int
  deliveredAt : Option Int

structure ProductReview where
  orderItem : OrderItem
  rating : Nat
  isVerifiedPurchase : Bool
  reviewDate : Int

structure Return where
  orderItem : OrderItem
  returnReason : ReturnReason
  returnStatus : ReturnStatus
  quantityReturned : Nat
  refundAmount : Option Rat
  requestedAt : Int
  resolvedAt : Option Int

structure Inventory where
  product : Product
  warehouse : Warehouse
  quantityOnHand : Int
  reorderLevel : Int
  lastRestockedAt : Int

structure CustomerAddress where
  customer : Customer
  addressType : AddressType
  isDefault : Bool

inductive SeedError where
  | valueError (message : String)
  | invalidOperation
  deriving DecidableEq, Repr

/-- `ge=0, le=1`. -/
structure Rate where
  value : Rat
  nonneg : 0 ≤ value
  le_one : value ≤ 1

/-- The part of `SeedConfig` that the generators read. -/
structure SeedConfig where
  inventorySize : Nat
  orderItemsPerOrderAvg : Rat
  businessStartDate : Date
  businessEndDate : Date
  promotionFrequency : Rate
  returnRate : Rate
  reviewRate : Rate
  paymentFailureRate : Rate
  seasonalMultipliers : Nat → Option Rat
  start_proper : businessStartDate.Proper
  end_proper : businessEndDate.Proper
  window : ¬ businessEndDate ≤ businessStartDate

def defaultConfig : SeedConfig where
  inventorySize := 16000
  orderItemsPerOrderAvg := 2.6
  businessStartDate := ⟨2024, 8, 1⟩
  businessEndDate := ⟨2026, 8, 1⟩
  promotionFrequency := ⟨0.15, by decide +kernel, by decide +kernel⟩
  returnRate := ⟨0.05, by decide +kernel, by decide +kernel⟩
  reviewRate := ⟨0.15, by decide +kernel, by decide +kernel⟩
  paymentFailureRate := ⟨0.03, by decide +kernel, by decide +kernel⟩
  seasonalMultipliers month :=
    if month = 8 then some 1.3 else if month = 11 then some 1.8
    else if month = 12 then some 2.2 else if 1 ≤ month ∧ month ≤ 12 then some 1 else none
  start_proper := by decide
  end_proper := by decide
  window := by decide

end QueryMind.Seeds
