import QueryMind.Seeds.Totals

namespace QueryMind.Seeds
open Lib Lib.Draws Lib.Decimal
set_option autoImplicit true

/-- What is drawn for one row of the inventory. -/
structure StockDraws where
  baseQuantity : Nat
  belowReorder : Chance
  quantityOnHand : Nat
  lastRestockedAt : Nat

structure InventoryDraws where
  shuffle : Nat → Nat
  shouldStock : Nat → Chance
  stock : Nat → StockDraws

def belowReorderFraction : Rat := 0.15

def highDemandFraction : Rat := 0.2

/-- The candidates that are accepted, and those that are not. -/
def sortCandidates (accepts : Nat → Bool) : List α → Nat → List α × List α
  | [], _ => ([], [])
  | pair :: rest, i =>
    let later := sortCandidates accepts rest (i + 1)
    if accepts i then (pair :: later.1, later.2) else (later.1, pair :: later.2)

/-- Too few are topped up from the rejected ones, too many are trimmed. -/
def selectPairs (count : Nat) (accepted rejected : List α) : List α :=
  let filled :=
    if accepted.length < count then accepted ++ rejected.take (count - accepted.length)
    else accepted
  filled.take count

section InventoryGenerator
variable (config : SeedConfig) (products : List Product) (warehouses : List Warehouse)

def candidates : List (Product × Warehouse) :=
  products.flatMap fun product => warehouses.map fun warehouse => (product, warehouse)

def productRank (product : Product) : Nat :=
  products.findIdx fun other => other.key == product.key

def buildInventory (pair : Product × Warehouse) (draws : StockDraws) :
    Except SeedError Inventory := do
  let highDemandCutoff := max 1 (roundToEven (products.length * highDemandFraction))
  let windowEnd := combine config.businessStartDate 0
  let windowStart := windowEnd - days 30
  let multiplier := quantityOnHandMultiplier (productRank products pair.1 < highDemandCutoff)
  let baseQuantity := randint 10 100 draws.baseQuantity
  let reorderLevel := max 1 (halfEven.round (baseQuantity * multiplier * reorderLevelRatio))
  let quantityOnHand : Int :=
    if draws.belowReorder.value < belowReorderFraction then
      randint 0 (max (reorderLevel - 1) 0).toNat draws.quantityOnHand
    else halfEven.round (baseQuantity * multiplier) + reorderLevel
  let lastRestockedAt ← randomDatetimeBetween windowStart windowEnd draws.lastRestockedAt
  return ⟨pair.1, pair.2, quantityOnHand, reorderLevel, lastRestockedAt⟩

def inventoryFor (draws : Nat → StockDraws) :
    List (Product × Warehouse) → Nat → Except SeedError (List Inventory)
  | [], _ => .ok []
  | pair :: rest, i => do
    let record ← buildInventory config products pair (draws i)
    let records ← inventoryFor draws rest (i + 1)
    return record :: records

def generateInventory (count : Nat) (draws : InventoryDraws) :
    Except SeedError (List Inventory) :=
  if products.isEmpty || warehouses.isEmpty then
    .error (.valueError "InventoryGenerator requires at least one product and one warehouse")
  else
    let totalPossible := products.length * warehouses.length
    if totalPossible < count then
      .error (.valueError (s!"count={count} exceeds the {totalPossible} possible " ++
        "(product, warehouse) combinations"))
    else
      let coverageRatio := warehouseCoverageRatio config products.length warehouses.length
      let sorted := sortCandidates (fun i => shouldStock coverageRatio (draws.shouldStock i))
        (shuffle draws.shuffle (candidates products warehouses)) 0
      inventoryFor config products draws.stock (selectPairs count sorted.1 sorted.2) 0

end InventoryGenerator

section Selection

theorem sortCandidates_perm (accepts : Nat → Bool) (xs : List α) (i : Nat) :
    ((sortCandidates accepts xs i).1 ++ (sortCandidates accepts xs i).2).Perm xs := by
  induction xs generalizing i with
  | nil => exact List.Perm.refl _
  | cons x xs ih =>
    rw [sortCandidates]
    split
    · exact (ih (i + 1)).cons x
    · exact List.perm_middle.trans ((ih (i + 1)).cons x)

theorem selectPairs_sublist (count : Nat) (accepted rejected : List α) :
    (selectPairs count accepted rejected).Sublist (accepted ++ rejected) := by
  rw [selectPairs]
  split
  · exact (List.take_sublist _ _).trans ((List.take_sublist _ _).append_left accepted)
  · exact (List.take_sublist _ _).trans (List.sublist_append_left _ _)

theorem length_selectPairs (h : count ≤ (accepted ++ rejected : List α).length) :
    (selectPairs count accepted rejected).length = count := by
  rw [List.length_append] at h
  rw [selectPairs, List.length_take]
  split
  · rw [List.length_append, List.length_take]
    omega
  · omega

end Selection

section Rows
variable {config : SeedConfig} {products : Objects Product.key} {warehouses : Objects Warehouse.key}

def pairKey (pair : Product × Warehouse) : Nat × Nat := (pair.1.key, pair.2.key)

theorem length_candidates (products : List Product) (warehouses : List Warehouse) :
    (candidates products warehouses).length = products.length * warehouses.length := by
  rw [candidates, List.length_flatMap]
  simp only [List.length_map, List.map_const', List.sum_replicate_nat]

theorem candidates_nodup :
    ((candidates products.items warehouses.items).map pairKey).Nodup := by
  have h : (candidates products.items warehouses.items).map pairKey =
      (products.items.map Product.key).product (warehouses.items.map Warehouse.key) := by
    rw [candidates, List.map_flatMap, List.product, List.flatMap_map]
    simp only [List.map_map]
    rfl
  rw [h]
  exact products.nodup.product warehouses.nodup

theorem round_nonneg {x : Rat} (h : 0 ≤ x) : 0 ≤ halfEven.round x := by
  have hr := halfEven.mono 0 x h
  rw [← Int.cast_zero, halfEven.intCast] at hr
  exact hr

theorem buildInventory_spec (config : SeedConfig) (products : List Product)
    (pair : Product × Warehouse) (draws : StockDraws) :
    ∃ record, buildInventory config products pair draws = .ok record ∧
      record.product = pair.1 ∧ record.warehouse = pair.2 ∧ 1 ≤ record.reorderLevel ∧
      0 ≤ record.quantityOnHand := by
  rw [buildInventory, randomDatetimeBetween, if_pos (by rw [days]; omega)]
  refine ⟨_, rfl, rfl, rfl, le_max_left _ _, ?_⟩
  dsimp only
  split
  · exact Int.natCast_nonneg _
  · apply add_nonneg
    · apply round_nonneg
      apply mul_nonneg (Nat.cast_nonneg _)
      rw [quantityOnHandMultiplier]
      split <;> decide +kernel
    · exact le_trans (by decide) (le_max_left _ _)

theorem inventoryFor_spec (config : SeedConfig) (products : List Product)
    (pairs : List (Product × Warehouse)) (draws : Nat → StockDraws) (i : Nat) :
    ∃ records, inventoryFor config products draws pairs i = .ok records ∧
      records.map (fun record => (record.product, record.warehouse)) = pairs ∧
      ∀ record ∈ records, 1 ≤ record.reorderLevel ∧ 0 ≤ record.quantityOnHand := by
  induction pairs generalizing i with
  | nil => exact ⟨[], rfl, rfl, fun record hr => absurd hr List.not_mem_nil⟩
  | cons pair rest ih =>
    obtain ⟨record, hb, hp, hw, hlevels⟩ := buildInventory_spec config products pair (draws i)
    obtain ⟨records, hr, hpairs, hall⟩ := ih (i + 1)
    refine ⟨record :: records, ?_, ?_, ?_⟩
    · rw [inventoryFor, hb, ok_bind, hr]
      rfl
    · rw [List.map_cons, hpairs, hp, hw]
    · intro other ho
      rcases List.mem_cons.1 ho with rfl | ho
      · exact hlevels
      · exact hall other ho

/-- The rows of the inventory: so many, each of a pair of its own. -/
structure Stocked (count : Nat) (records : List Inventory) : Prop where
  length : records.length = count
  distinct : (records.map fun record => (record.product.key, record.warehouse.key)).Nodup
  reorderLevel : ∀ record ∈ records, 1 ≤ record.reorderLevel
  quantityOnHand : ∀ record ∈ records, 0 ≤ record.quantityOnHand

theorem generateInventory_stocked (hp : products.items ≠ []) (hw : warehouses.items ≠ [])
    (hc : count ≤ products.items.length * warehouses.items.length) (draws : InventoryDraws) :
    ∃ records, generateInventory config products.items warehouses.items count draws = .ok records ∧
      Stocked count records := by
  have hempty : ¬ (products.items.isEmpty || warehouses.items.isEmpty) = true := by
    rw [Bool.or_eq_true, List.isEmpty_iff, List.isEmpty_iff]
    rintro (h | h)
    · exact hp h
    · exact hw h
  have hperm := (sortCandidates_perm (fun i => shouldStock (warehouseCoverageRatio config
    products.items.length warehouses.items.length) (draws.shouldStock i))
      (shuffle draws.shuffle (candidates products.items warehouses.items)) 0).trans
        (shuffle_perm draws.shuffle _)
  rw [generateInventory, if_neg hempty]
  dsimp only
  rw [if_neg (by omega)]
  generalize sortCandidates _ (shuffle draws.shuffle _) 0 = sorted at hperm ⊢
  obtain ⟨records, hr, hpairs, hall⟩ := inventoryFor_spec config products.items
    (selectPairs count sorted.1 sorted.2) draws.stock 0
  refine ⟨records, hr, ?_, ?_, fun record h => (hall record h).1, fun record h => (hall record h).2⟩
  · rw [← List.length_map (fun record : Inventory => (record.product, record.warehouse)), hpairs]
    apply length_selectPairs
    rw [hperm.length_eq, length_candidates]
    exact hc
  · have hkeys : records.map (fun record => (record.product.key, record.warehouse.key)) =
        (selectPairs count sorted.1 sorted.2).map pairKey := by
      rw [← hpairs, List.map_map]
      rfl
    rw [hkeys]
    apply ((selectPairs_sublist count sorted.1 sorted.2).map pairKey).nodup
    exact (hperm.map pairKey).nodup_iff.2 candidates_nodup

end Rows

end QueryMind.Seeds
