import QueryMind.Seeds.Inventory

namespace QueryMind.Seeds
open Lib Lib.Draws
set_option autoImplicit true

/-- What is drawn for one more address. -/
structure AddressDraws where
  customer : Nat
  addressType : Nat

def addressTypes : List AddressType := [.billing, .shipping]

theorem addressTypes_ne_nil : addressTypes ≠ [] := by decide

/-- What a default address is the only one of. -/
abbrev DefaultKey := Nat × AddressType

def CustomerAddress.key (address : CustomerAddress) : DefaultKey :=
  (address.customer.key, address.addressType)

def buildAddress (customer : Customer) (addressType : AddressType) (isDefault : Bool) :
    CustomerAddress := ⟨customer, addressType, isDefault⟩

theorem key_buildAddress (customer : Customer) (addressType : AddressType) (isDefault : Bool) :
    (buildAddress customer addressType isDefault).key = (customer.key, addressType) := rfl

section CustomerAddressGenerator
variable (customers : List Customer) (hc : customers ≠ [])

/-- The loop over the addresses that remain, with the defaults that were seen. -/
def moreAddresses (draws : Nat → AddressDraws) :
    Nat → Nat → List DefaultKey → List CustomerAddress
  | 0, _, _ => []
  | remaining + 1, i, defaultSeen =>
    let customer := choice customers hc (draws i).customer
    let addressType := choice addressTypes addressTypes_ne_nil (draws i).addressType
    let key := (customer.key, addressType)
    let isDefault := !defaultSeen.contains key
    buildAddress customer addressType isDefault ::
      moreAddresses draws remaining (i + 1) (if isDefault then key :: defaultSeen else defaultSeen)

def generateAddresses (count : Nat) (draws : Nat → AddressDraws) :
    Except SeedError (List CustomerAddress) :=
  if h : customers = [] then
    .error (.valueError "CustomerAddressGenerator requires at least one customer")
  else
    let baseCount := min count customers.length
    let addresses := (customers.take baseCount).map fun customer =>
      buildAddress customer .shipping true
    let defaultSeen := (customers.take baseCount).map fun customer =>
      (customer.key, AddressType.shipping)
    .ok (addresses ++ moreAddresses customers h draws (count - baseCount) 0 defaultSeen)

end CustomerAddressGenerator

def defaultsOf (addresses : List CustomerAddress) (key : DefaultKey) : Nat :=
  addresses.countP fun address => address.isDefault && decide (address.key = key)

theorem defaultsOf_other (h : address.isDefault = false) (addresses : List CustomerAddress)
    (key : DefaultKey) : defaultsOf (address :: addresses) key = defaultsOf addresses key := by
  rw [defaultsOf, List.countP_cons_of_neg]
  · rfl
  · rw [h, Bool.false_and]
    exact Bool.false_ne_true

theorem defaultsOf_default (h : address.isDefault = true) (addresses : List CustomerAddress)
    (key : DefaultKey) : defaultsOf (address :: addresses) key =
      defaultsOf addresses key + if address.key = key then 1 else 0 := by
  rw [defaultsOf, defaultsOf, List.countP_cons, h]
  simp only [Bool.true_and, decide_eq_true_eq]

theorem moreAddresses_spec (hc : customers ≠ []) (draws : Nat → AddressDraws) (remaining i : Nat)
    (defaultSeen : List DefaultKey) {addresses : List CustomerAddress}
    (h : moreAddresses customers hc draws remaining i defaultSeen = addresses) :
    addresses.length = remaining ∧ ∀ key, (key ∈ defaultSeen → defaultsOf addresses key = 0) ∧
      (¬ key ∈ defaultSeen → key ∈ addresses.map CustomerAddress.key →
        defaultsOf addresses key = 1) := by
  induction remaining generalizing i defaultSeen addresses with
  | zero =>
    cases h
    exact ⟨rfl, fun key => ⟨fun _ => rfl, fun _ hin => absurd hin List.not_mem_nil⟩⟩
  | succ remaining ih =>
    rw [moreAddresses] at h
    generalize choice customers hc (draws i).customer = customer at h
    generalize choice addressTypes addressTypes_ne_nil (draws i).addressType = addressType at h
    by_cases hseen : (customer.key, addressType) ∈ defaultSeen
    · rw [List.contains_iff_mem.2 hseen, Bool.not_true, if_neg Bool.false_ne_true] at h
      obtain ⟨hlen, hkeys⟩ := ih (i + 1) defaultSeen rfl
      subst h
      refine ⟨congrArg Nat.succ hlen, ?_⟩
      intro key
      rw [defaultsOf_other rfl]
      constructor
      · exact (hkeys key).1
      · intro hk hin
        rcases List.mem_cons.1 hin with rfl | hin
        · exact absurd hseen hk
        · exact (hkeys key).2 hk hin
    · have hnot : defaultSeen.contains (customer.key, addressType) = false := by
        rw [← Bool.not_eq_true, List.contains_iff_mem]
        exact hseen
      rw [hnot, Bool.not_false, if_pos rfl] at h
      obtain ⟨hlen, hkeys⟩ := ih (i + 1) ((customer.key, addressType) :: defaultSeen) rfl
      subst h
      refine ⟨congrArg Nat.succ hlen, ?_⟩
      intro key
      rw [defaultsOf_default rfl]
      by_cases he : (customer.key, addressType) = key
      · subst he
        have hzero := (hkeys (customer.key, addressType)).1 (List.mem_cons_self ..)
        constructor
        · intro hk
          exact absurd hk hseen
        · intro _ _
          rw [hzero, key_buildAddress, if_pos rfl]
      · rw [key_buildAddress, if_neg he, Nat.add_zero]
        constructor
        · intro hk
          exact (hkeys key).1 (List.mem_cons_of_mem _ hk)
        · intro hk hin
          rcases List.mem_cons.1 hin with rfl | hin
          · exact absurd rfl he
          · apply (hkeys key).2 _ hin
            rw [List.mem_cons]
            rintro (h | h)
            · exact he h.symm
            · exact hk h

theorem defaultsOf_first (customers : List Customer) (h : (customers.map Customer.key).Nodup)
    (key : DefaultKey) :
    defaultsOf (customers.map fun customer => buildAddress customer .shipping true) key =
      if key ∈ customers.map (fun customer => (customer.key, AddressType.shipping)) then 1
      else 0 := by
  induction customers with
  | nil => rfl
  | cons customer rest ih =>
    rw [List.map_cons, List.nodup_cons] at h
    rw [List.map_cons, defaultsOf_default rfl, ih h.2, List.map_cons]
    by_cases he : (customer.key, AddressType.shipping) = key
    · have hrest : ¬ key ∈ rest.map fun customer => (customer.key, AddressType.shipping) := by
        intro hin
        obtain ⟨other, ho, hk⟩ := List.mem_map.1 hin
        rw [← he] at hk
        have hkey : other.key = customer.key := congrArg Prod.fst hk
        rw [← hkey] at h
        exact h.1 (List.mem_map_of_mem ho)
      subst he
      rw [if_neg hrest, if_pos (List.mem_cons_self ..), key_buildAddress, if_pos rfl]
    · rw [key_buildAddress, if_neg he, Nat.add_zero]
      apply if_congr _ rfl rfl
      rw [List.mem_cons]
      exact ⟨.inr, fun h => h.resolve_left fun hk => he hk.symm⟩

/-- The addresses that are made: so many, with one default for each kind that a customer has. -/
structure Addressed (count : Nat) (customers : List Customer) (addresses : List CustomerAddress) :
    Prop where
  length : addresses.length = count
  default : ∀ address ∈ addresses, defaultsOf addresses address.key = 1
  shipping : ∀ customer ∈ customers.take (min count customers.length),
    buildAddress customer .shipping true ∈ addresses

theorem generateAddresses_addressed {customers : Objects Customer.key}
    (hc : customers.items ≠ []) (count : Nat) (draws : Nat → AddressDraws) :
    ∃ addresses, generateAddresses customers.items count draws = .ok addresses ∧
      Addressed count customers.items addresses := by
  rw [generateAddresses, dif_neg hc]
  dsimp only
  have hnodup : ((customers.items.take (min count customers.items.length)).map
      Customer.key).Nodup :=
    ((List.take_sublist _ _).map Customer.key).nodup customers.nodup
  have hlen : (customers.items.take (min count customers.items.length)).length =
      min count customers.items.length := by
    rw [List.length_take]
    omega
  generalize hfirst : customers.items.take (min count customers.items.length) = first
    at hnodup hlen ⊢
  obtain ⟨hmore, hkeys⟩ := moreAddresses_spec hc draws
    (count - min count customers.items.length) 0
    (first.map fun customer => (customer.key, AddressType.shipping)) rfl
  refine ⟨_, rfl, ?_, ?_, ?_⟩
  · rw [List.length_append, List.length_map, hmore, hlen]
    omega
  · intro address ha
    rw [defaultsOf, List.countP_append, ← defaultsOf, ← defaultsOf,
      defaultsOf_first first hnodup address.key]
    by_cases hin : address.key ∈ first.map fun customer => (customer.key, AddressType.shipping)
    · rw [if_pos hin, (hkeys address.key).1 hin]
    · rw [if_neg hin, Nat.zero_add]
      apply (hkeys address.key).2 hin
      rcases List.mem_append.1 ha with ha | ha
      · obtain ⟨customer, hm, rfl⟩ := List.mem_map.1 ha
        exact absurd (List.mem_map_of_mem hm) hin
      · exact List.mem_map_of_mem ha
  · intro customer hm
    rw [hfirst] at hm
    exact List.mem_append_left _ (List.mem_map_of_mem hm)

/-- Both generators make exactly as many rows as they are asked for, whatever is drawn, and keep
what has to be unique unique. -/
theorem generated_counts (config : SeedConfig) (products : Objects Product.key)
    (warehouses : Objects Warehouse.key) (customers : Objects Customer.key)
    (hp : products.items ≠ []) (hw : warehouses.items ≠ []) (hc : customers.items ≠ [])
    (inventoryDraws : InventoryDraws) (addressDraws : Nat → AddressDraws) :
    (∀ count ≤ products.items.length * warehouses.items.length,
      ∃ records, generateInventory config products.items warehouses.items count inventoryDraws =
        .ok records ∧ Stocked count records) ∧
    ∀ count, ∃ addresses, generateAddresses customers.items count addressDraws = .ok addresses ∧
      Addressed count customers.items addresses :=
  ⟨fun _ h => generateInventory_stocked hp hw h inventoryDraws,
    fun count => generateAddresses_addressed hc count addressDraws⟩

def oneWarehouse : Objects Warehouse.key := ⟨[⟨0⟩], by decide⟩

def oneCustomer : Objects Customer.key := ⟨[⟨0, .standard⟩], by decide⟩

def middleStock : InventoryDraws := ⟨id, fun _ => oneHalf, fun _ => ⟨0, oneHalf, 0, 0⟩⟩

theorem generated_counts_one :
    (∃ records, generateInventory defaultConfig twoProducts.items oneWarehouse.items 2 middleStock =
      .ok records ∧ Stocked 2 records) ∧
    ∃ addresses, generateAddresses oneCustomer.items 3 (fun i => ⟨i, i⟩) = .ok addresses ∧
      Addressed 3 oneCustomer.items addresses := by
  obtain ⟨hinventory, haddresses⟩ := generated_counts defaultConfig twoProducts oneWarehouse
    oneCustomer (List.cons_ne_nil _ _) (List.cons_ne_nil _ _) (List.cons_ne_nil _ _) middleStock
    fun i => ⟨i, i⟩
  exact ⟨hinventory 2 (by decide), haddresses 3⟩

/-- Empty lists are refused, even where no row is asked for. -/
theorem empty_refused :
    generateInventory defaultConfig [] oneWarehouse.items 0 middleStock = .error (.valueError
      "InventoryGenerator requires at least one product and one warehouse") ∧
    generateAddresses [] 0 (fun i => ⟨i, i⟩) = .error (.valueError
      "CustomerAddressGenerator requires at least one customer") :=
  ⟨rfl, rfl⟩

end QueryMind.Seeds
