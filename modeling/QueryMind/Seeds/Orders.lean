import QueryMind.Lib.Hoare
import QueryMind.Lib.Text
import QueryMind.Seeds.Rules

namespace QueryMind.Seeds
open Lib Lib.Draws Lib.Decimal
set_option autoImplicit true

/-- An order line as it was decided on. -/
structure PlannedItem where
  product : Product
  quantity : Nat
  unitPrice : Rat

/-- What is drawn for one line of an order. -/
structure LineDraws where
  quantity : Chance
  drift : Nat

/-- What is drawn for one order. -/
structure OrderDraws where
  customer : Chance
  window : Chance
  day : Nat
  orderStatus : Chance
  itemCount : Nat
  products : Nat → Chance
  lines : Nat → LineDraws
  appliesPromotion : Chance
  promotion : Nat
  hour : Nat
  salesChannel : Chance

def quantityWeights : Distribution Nat where
  entries := [(1, 0.55), (2, 0.22), (3, 0.12), (4, 0.07), (5, 0.04)]
  positive := by decide +kernel

def productWeights (products : List Product) : List (Product × Rat) :=
  products.zipIdx.map fun entry => (entry.1, 1 / ((entry.2 : Rat) + 1))

/-- Picks of distinct products, the earlier ones of the list more often. -/
def pickProducts : Nat → List (Product × Rat) → (Nat → Chance) → Except SeedError (List Product)
  | 0, _, _ => .ok []
  | n + 1, pool, draws => do
    let product ← weightedChoice pool (draws 0)
    let position := pool.findIdx fun entry => entry.1.key == product.key
    let chosen ← pickProducts n (pool.eraseIdx position) fun i => draws (i + 1)
    return product :: chosen

section OrderGenerator
variable (c : Decimal.Context) (config : SeedConfig) (products : List Product)

/-- A line at today's price, which has drifted a little. -/
def planItem (segment : CustomerSegment) (product : Product) (draws : LineDraws) :
    Except SeedError PlannedItem := do
  let baseQuantity := quantityWeights.pick draws.quantity
  let quantity := max 1 (roundToEven (baseQuantity * orderValueMultiplier segment))
  let drift : Rat := randint 9200 10500 draws.drift / 10000
  let unitPrice ← roundCurrency c (c.mul product.unitPrice drift)
  return ⟨product, quantity, unitPrice⟩

def planLines (segment : CustomerSegment) :
    List Product → (Nat → LineDraws) → Except SeedError (List PlannedItem)
  | [], _ => .ok []
  | product :: rest, draws => do
    let planned ← planItem c segment product (draws 0)
    let lines ← planLines segment rest fun i => draws (i + 1)
    return planned :: lines

def planItems (customer : Customer) (draws : OrderDraws) : Except SeedError (List PlannedItem) := do
  let itemCount := min (sampleItemCount config draws.itemCount) products.length
  let chosen ← pickProducts (min itemCount products.length) (productWeights products) draws.products
  planLines c customer.customerSegment chosen draws.lines

def selectPromotion (promotions : List Promotion) (orderDate : Date) (draws : OrderDraws) :
    Option Promotion :=
  if promotions.isEmpty || !appliesPromotion config draws.appliesPromotion then none
  else
    let active := promotions.filter fun p => isPromotionActive p.startsAt p.endsAt orderDate
    if h : active = [] then none else some (choice active h draws.promotion)

def computeDiscount (promotion : Option Promotion) (subtotalAmount : Rat) :
    Except SeedError Rat :=
  match promotion with
  | none => roundCurrency c 0
  | some p =>
    match p.discountType with
    | .percentage => percentageOf c subtotalAmount p.discountValue
    | .fixedAmount => roundCurrency c (min p.discountValue subtotalAmount)

def sumLines (planned : List PlannedItem) : Rat :=
  planned.foldl (fun sum line => c.add sum (c.mul line.unitPrice line.quantity)) 0

/-- The amounts of an order: subtotal, discount, tax, shipping and total. -/
structure Amounts where
  subtotal : Rat
  discount : Rat
  tax : Rat
  shipping : Rat
  total : Rat

def resolveAmounts (planned : List PlannedItem) (promotion : Option Promotion) :
    Except SeedError Amounts := do
  let subtotal ← roundCurrency c (sumLines c planned)
  let discount ← computeDiscount c promotion subtotal
  let tax ← roundCurrency c (c.mul (c.sub subtotal discount) taxRate)
  let shipping ← shippingFee c subtotal
  let total ← roundCurrency c (c.add (c.add (c.sub subtotal discount) tax) shipping)
  return ⟨subtotal, discount, tax, shipping, total⟩

def combine (date : Date) (hour : Nat) : Int := days date.ordinal + hours hour

def buildOrder (customers : List Customer) (promotions : List Promotion) (index : Nat)
    (draws : OrderDraws) : Except SeedError (Order × List PlannedItem) := do
  let customer ← weightedChoice
    (customers.map fun customer => (customer, orderFrequencyMultiplier customer.customerSegment))
    draws.customer
  let orderDate ← sampleOrderDate config draws.window draws.day
  let planned ← planItems c config products customer draws
  let promotion := selectPromotion config promotions orderDate draws
  let amounts ← resolveAmounts c planned promotion
  return ({
    key := index
    orderNumber := s!"ORD-{orderDate.year}-" ++ Text.zeroPadded 6 index
    orderDate := combine orderDate (randint 6 22 draws.hour)
    orderStatus := orderStatusWeights.pick draws.orderStatus
    salesChannel := salesChannelWeights.pick draws.salesChannel
    subtotalAmount := amounts.subtotal
    discountAmount := amounts.discount
    taxAmount := amounts.tax
    shippingAmount := amounts.shipping
    totalAmount := amounts.total
    customer := customer
    promotion := promotion }, planned)

def buildOrders (customers : List Customer) (promotions : List Promotion)
    (draws : Nat → OrderDraws) : Nat → Nat → Except SeedError (List (Order × List PlannedItem))
  | 0, _ => .ok []
  | count + 1, index => do
    let order ← buildOrder c config products customers promotions index (draws index)
    let orders ← buildOrders customers promotions draws count (index + 1)
    return order :: orders

def generateOrders (customers : List Customer) (promotions : List Promotion) (count : Nat)
    (draws : Nat → OrderDraws) : Except SeedError (List (Order × List PlannedItem)) :=
  if customers.isEmpty then
    .error (.valueError "OrderGenerator requires at least one customer")
  else if products.isEmpty then
    .error (.valueError "OrderGenerator requires at least one product")
  else buildOrders c config products customers promotions draws count 1

end OrderGenerator

section OrderItemGenerator
variable (c : Decimal.Context) (products : List Product)

def plannedItemsFor (planned : List (Order × List PlannedItem)) (order : Order) :
    List PlannedItem :=
  match planned.find? fun entry => entry.1.key == order.key with
  | some entry => entry.2
  | none => []

def buildItem (order : Order) (line : PlannedItem) : Except SeedError OrderItem :=
  if products.any fun product => product.key == line.product.key then do
    let discountAmount ← roundCurrency c 0
    let lineTotal ← roundCurrency c (c.mul line.unitPrice line.quantity)
    return ⟨order, line.product, line.quantity, line.unitPrice, discountAmount, lineTotal⟩
  else .error (.valueError
    "OrderGenerator planned a product that is not in the injected products list")

def buildItems (order : Order) : List PlannedItem → Except SeedError (List OrderItem)
  | [] => .ok []
  | line :: lines => do
    let item ← buildItem c products order line
    let items ← buildItems order lines
    return item :: items

def generateItems (planned : List (Order × List PlannedItem)) :
    List Order → Except SeedError (List OrderItem)
  | [] => .ok []
  | order :: orders => do
    let items ← buildItems c products order (plannedItemsFor planned order)
    let rest ← generateItems planned orders
    return items ++ rest

end OrderItemGenerator

end QueryMind.Seeds
