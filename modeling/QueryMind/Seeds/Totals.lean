import QueryMind.Seeds.Orders

namespace QueryMind.Seeds
open Lib Lib.Draws Lib.Decimal Lib.Decimal.Context
set_option autoImplicit true

section Picks

theorem eraseIdx_keys (pool : List (Product × Rat)) (k : Nat) :
    (pool.eraseIdx (pool.findIdx fun entry => entry.1.key == k)).map (fun entry => entry.1.key) =
      (pool.map fun entry => entry.1.key).erase k := by
  rw [← List.eraseIdx_map, ← List.eraseIdx_idxOf_eq_erase, List.idxOf, List.findIdx_map]
  rfl

theorem pickProducts_spec (h : pickProducts n pool draws = .ok chosen)
    (hpool : (pool.map fun entry => entry.1.key).Nodup) :
    (chosen.map Product.key).Nodup ∧ ∀ product ∈ chosen, ∃ weight, (product, weight) ∈ pool := by
  induction n generalizing pool draws chosen with
  | zero =>
    cases h
    exact ⟨List.nodup_nil, fun product hp => absurd hp List.not_mem_nil⟩
  | succ n ih =>
    rw [pickProducts] at h
    obtain ⟨product, hp, h⟩ := bind_ok h
    obtain ⟨rest, hr, h⟩ := bind_ok h
    cases h
    have herase := eraseIdx_keys pool product.key
    obtain ⟨hnodup, hmem⟩ := ih hr (by rw [herase]; exact hpool.erase _)
    constructor
    · rw [List.map_cons, List.nodup_cons]
      refine ⟨?_, hnodup⟩
      intro hk
      obtain ⟨other, ho, he⟩ := List.mem_map.1 hk
      obtain ⟨weight, hw⟩ := hmem other ho
      have hin := List.mem_map_of_mem (f := fun entry : Product × Rat => entry.1.key) hw
      rw [herase, he] at hin
      exact hpool.not_mem_erase hin
    · intro other ho
      rcases List.mem_cons.1 ho with rfl | ho
      · exact weightedChoice_mem hp
      · obtain ⟨weight, hw⟩ := hmem other ho
        exact ⟨weight, List.mem_of_mem_eraseIdx hw⟩

theorem productWeights_keys (products : List Product) :
    (productWeights products).map (fun entry => entry.1.key) = products.map Product.key := by
  rw [productWeights, List.map_map]
  have h : (fun entry : Product × Rat => entry.1.key) ∘
      (fun entry : Product × Nat => (entry.1, 1 / ((entry.2 : Rat) + 1))) =
        Product.key ∘ Prod.fst := rfl
  rw [h, ← List.map_map, List.zipIdx_map_fst]

theorem mem_of_productWeights (h : (product, weight) ∈ productWeights products) :
    product ∈ products := by
  obtain ⟨entry, he, heq⟩ := List.mem_map.1 h
  cases heq
  exact List.fst_mem_of_mem_zipIdx he

end Picks

def PlannedItem.amount (line : PlannedItem) : Rat := line.unitPrice * line.quantity

section Amounts
variable {c : Decimal.Context} {segment : CustomerSegment}

/-- A line of at least one piece, at a price in cents. -/
def Priced (c : Decimal.Context) (line : PlannedItem) : Prop :=
  1 ≤ line.quantity ∧ ∃ n : Nat, n < 10 ^ c.precision ∧ line.unitPrice = n / 10 ^ 2

theorem planItem_spec (h : planItem c segment product draws = .ok line) :
    line.product = product ∧ Priced c line := by
  rw [planItem] at h
  obtain ⟨unitPrice, hu, h⟩ := bind_ok h
  cases h
  have hpos := product.positive
  have hx : 0 ≤ c.mul product.unitPrice ((randint 9200 10500 draws.drift : Rat) / 10000) :=
    fix_nonneg (by positivity)
  obtain ⟨n, hn, hy, _⟩ := quantize_some ((roundCurrency_eq_ok c).1 hu) hx
  exact ⟨rfl, Nat.le_max_left _ _, n, hn, hy⟩

theorem planLines_spec (h : planLines c segment products draws = .ok lines) :
    lines.map PlannedItem.product = products ∧ ∀ line ∈ lines, Priced c line := by
  induction products generalizing draws lines with
  | nil =>
    cases h
    exact ⟨rfl, fun line hl => absurd hl List.not_mem_nil⟩
  | cons product rest ih =>
    rw [planLines] at h
    obtain ⟨line, hl, h⟩ := bind_ok h
    obtain ⟨lines, hr, h⟩ := bind_ok h
    cases h
    obtain ⟨hp, hline⟩ := planItem_spec hl
    obtain ⟨hps, hlines⟩ := ih hr
    constructor
    · rw [List.map_cons, hp, hps]
    · intro other ho
      rcases List.mem_cons.1 ho with rfl | ho
      · exact hline
      · exact hlines other ho

theorem Priced.tracks (h : Priced c line) :
    ∃ n, c.Tracks 2 n (c.mul line.unitPrice line.quantity) ∧ line.amount = n / 10 ^ 2 := by
  obtain ⟨_, n, hn, hu⟩ := h
  have he : line.amount = ((n * line.quantity : Nat) : Rat) / 10 ^ 2 := by
    rw [PlannedItem.amount, hu, Nat.cast_mul]
    ring
  refine ⟨n * line.quantity, ?_, he⟩
  rw [mul, ← PlannedItem.amount, he]
  exact (tracks_units 2 _).fix

theorem foldl_tracks {lines : List PlannedItem} (hl : ∀ line ∈ lines, Priced c line)
    (h : c.Tracks 2 m x) :
    ∃ n, c.Tracks 2 (m + n)
        (lines.foldl (fun sum line => c.add sum (c.mul line.unitPrice line.quantity)) x) ∧
      (lines.map PlannedItem.amount).sum = n / 10 ^ 2 ∧
      ∀ line ∈ lines, ∃ k : Nat, k ≤ n ∧ line.amount = k / 10 ^ 2 := by
  induction lines generalizing m x with
  | nil => exact ⟨0, h, by norm_num, fun line hm => absurd hm List.not_mem_nil⟩
  | cons line rest ih =>
    obtain ⟨k, hk, ha⟩ := (hl line (List.mem_cons_self ..)).tracks
    have hrest := fun other ho => hl other (List.mem_cons_of_mem line ho)
    obtain ⟨n, hn, hs, hle⟩ := ih hrest (h.add hk)
    refine ⟨k + n, ?_, ?_, ?_⟩
    · rw [← Nat.add_assoc]
      exact hn
    · rw [List.map_cons, List.sum_cons, hs, ha, Nat.cast_add]
      ring
    · intro other ho
      rcases List.mem_cons.1 ho with rfl | ho
      · exact ⟨k, Nat.le_add_right _ _, ha⟩
      · obtain ⟨j, hj, he⟩ := hle other ho
        exact ⟨j, by omega, he⟩

theorem subtotal_spec {lines : List PlannedItem} (hl : ∀ line ∈ lines, Priced c line)
    (h : roundCurrency c (sumLines c lines) = .ok subtotal) :
    ∃ n : Nat, n < 10 ^ c.precision ∧ subtotal = n / 10 ^ 2 ∧
      (lines.map PlannedItem.amount).sum = n / 10 ^ 2 ∧
      ∀ line ∈ lines, ∃ k : Nat, k ≤ n ∧ line.amount = k / 10 ^ 2 := by
  have hzero := tracks_units (c := c) 2 0
  rw [Nat.cast_zero, zero_div] at hzero
  obtain ⟨n, hn, hs, hle⟩ := foldl_tracks hl hzero
  rw [Nat.zero_add] at hn
  obtain ⟨hlt, he⟩ := hn.quantize ((roundCurrency_eq_ok c).1 h)
  exact ⟨n, hlt, he, hs, hle⟩

theorem percent_le {n : Nat} (hn : n < 10 ^ c.precision) (hl : 0 ≤ percent) (hh : percent ≤ 100) :
    c.div (c.mul (n / 10 ^ 2) percent) 100 ≤ n / 10 ^ 2 := by
  have hfix := fix_eq hn 0
  rw [zpow_zero, mul_one] at hfix
  have hmul : c.mul (n / 10 ^ 2) percent ≤ n := by
    apply le_of_le_of_eq _ hfix
    apply fix_mono (by positivity)
    calc (n : Rat) / 10 ^ 2 * percent ≤ n / 10 ^ 2 * 100 :=
          mul_le_mul_of_nonneg_left hh (by positivity)
      _ = n := by ring
  have hnonneg : 0 ≤ c.mul (n / 10 ^ 2) percent := fix_nonneg (by positivity)
  apply le_of_le_of_eq _ (fix_units hn 2)
  apply fix_mono (by positivity)
  calc c.mul (n / 10 ^ 2) percent / 100 ≤ n / 100 := div_le_div_of_nonneg_right hmul (by norm_num)
    _ = n / 10 ^ 2 := by norm_num

theorem Promotion.nonneg (p : Promotion) : 0 ≤ p.discountValue := by
  have hl := p.low
  cases hd : p.discountType <;> rw [hd] at hl <;> exact le_trans (by decide +kernel) hl

theorem computeDiscount_spec {n : Nat} (hn : n < 10 ^ c.precision)
    (h : computeDiscount c promotion (n / 10 ^ 2) = .ok discount) :
    ∃ m, m ≤ n ∧ discount = m / 10 ^ 2 := by
  suffices hx : ∃ x, roundCurrency c x = .ok discount ∧ 0 ≤ x ∧ x ≤ n / 10 ^ 2 by
    obtain ⟨x, hr, hl, hh⟩ := hx
    obtain ⟨m, hm, _, he⟩ := quantize_le ((roundCurrency_eq_ok c).1 hr) hl hh
    exact ⟨m, hm, he⟩
  cases promotion with
  | none => exact ⟨0, h, le_refl 0, by positivity⟩
  | some p =>
    have hp := p.nonneg
    simp only [computeDiscount] at h
    split at h
    · rename_i hd
      have hh := p.high
      rw [hd] at hh
      exact ⟨_, h, fix_nonneg (div_nonneg (fix_nonneg (by positivity)) (by norm_num)),
        percent_le hn hp (hh.trans (by decide +kernel))⟩
    · exact ⟨_, h, le_min hp (by positivity), min_le_right _ _⟩

theorem shippingFee_spec (h : shippingFee c subtotal = .ok shipping) :
    ∃ n : Nat, n < 10 ^ c.precision ∧ shipping = n / 10 ^ 2 := by
  rw [shippingFee] at h
  split at h
  · obtain ⟨n, hn, he, _⟩ := quantize_some ((roundCurrency_eq_ok c).1 h) (le_refl 0)
    exact ⟨n, hn, he⟩
  · obtain ⟨n, hn, he, _⟩ := quantize_some ((roundCurrency_eq_ok c).1 h)
      (show 0 ≤ standardShippingFee by decide +kernel)
    exact ⟨n, hn, he⟩

/-- The amounts of an order in cents. -/
structure Resolved (c : Decimal.Context) (lines : List PlannedItem) (amounts : Amounts) : Prop where
  cents : ∃ subtotal discount tax shipping : Nat, subtotal < 10 ^ c.precision ∧
    discount ≤ subtotal ∧ amounts.subtotal = subtotal / 10 ^ 2 ∧
    amounts.discount = discount / 10 ^ 2 ∧ amounts.tax = tax / 10 ^ 2 ∧
    amounts.shipping = shipping / 10 ^ 2 ∧
    ∀ line ∈ lines, ∃ n : Nat, n ≤ subtotal ∧ line.amount = n / 10 ^ 2
  subtotal : amounts.subtotal = (lines.map PlannedItem.amount).sum
  total : amounts.total = amounts.subtotal - amounts.discount + amounts.tax + amounts.shipping

theorem resolveAmounts_spec {lines : List PlannedItem} (hl : ∀ line ∈ lines, Priced c line)
    (h : resolveAmounts c lines promotion = .ok amounts) : Resolved c lines amounts := by
  rw [resolveAmounts] at h
  obtain ⟨subtotal, hs, h⟩ := bind_ok h
  obtain ⟨discount, hd, h⟩ := bind_ok h
  obtain ⟨tax, ht, h⟩ := bind_ok h
  obtain ⟨shipping, hf, h⟩ := bind_ok h
  obtain ⟨total, ho, h⟩ := bind_ok h
  cases h
  obtain ⟨n, hn, rfl, hsum, hle⟩ := subtotal_spec hl hs
  obtain ⟨m, hm, rfl⟩ := computeDiscount_spec hn hd
  have hsub : c.sub (n / 10 ^ 2) (m / 10 ^ 2) = ((n - m : Nat) : Rat) / 10 ^ 2 := by
    rw [sub, ← sub_div, ← Nat.cast_sub hm]
    exact fix_units (by omega) 2
  rw [hsub] at ht ho
  have hrate : 0 ≤ taxRate := by decide +kernel
  obtain ⟨t, htl, rfl, _⟩ := quantize_some ((roundCurrency_eq_ok c).1 ht)
    (fix_nonneg (mul_nonneg (by positivity) hrate))
  obtain ⟨f, hfl, rfl⟩ := shippingFee_spec hf
  have htracks := ((tracks_units (c := c) 2 (n - m)).add (tracks_units 2 t)).add (tracks_units 2 f)
  obtain ⟨_, rfl⟩ := htracks.quantize ((roundCurrency_eq_ok c).1 ho)
  refine ⟨⟨n, m, t, f, hn, hm, rfl, rfl, rfl, rfl, hle⟩, hsum.symm, ?_⟩
  rw [Nat.cast_add, Nat.cast_add, Nat.cast_sub hm]
  ring

end Amounts

section Plans
variable {c : Decimal.Context}

/-- An order that is made of its planned lines. -/
structure Planned (c : Decimal.Context) (products : List Product) (order : Order)
    (lines : List PlannedItem) : Prop where
  distinct : (lines.map fun line => line.product.key).Nodup
  known : ∀ line ∈ lines, line.product ∈ products
  priced : ∀ line ∈ lines, Priced c line
  resolved : Resolved c lines ⟨order.subtotalAmount, order.discountAmount, order.taxAmount,
    order.shippingAmount, order.totalAmount⟩

theorem planItems_spec {products : Objects Product.key}
    (h : planItems c config products.items customer draws = .ok lines) :
    (lines.map fun line => line.product.key).Nodup ∧
      (∀ line ∈ lines, line.product ∈ products.items) ∧ ∀ line ∈ lines, Priced c line := by
  rw [planItems] at h
  obtain ⟨chosen, hc, h⟩ := bind_ok h
  have hpool : ((productWeights products.items).map fun entry => entry.1.key).Nodup := by
    rw [productWeights_keys]
    exact products.nodup
  obtain ⟨hnodup, hmem⟩ := pickProducts_spec hc hpool
  obtain ⟨hp, hpriced⟩ := planLines_spec h
  refine ⟨?_, ?_, hpriced⟩
  · rw [← hp, List.map_map] at hnodup
    exact hnodup
  · intro line hl
    obtain ⟨weight, hw⟩ := hmem line.product (by rw [← hp]; exact List.mem_map_of_mem hl)
    exact mem_of_productWeights hw

theorem buildOrder_spec {products : Objects Product.key}
    (h : buildOrder c config products.items customers promotions index draws = .ok entry) :
    entry.1.key = index ∧ Planned c products.items entry.1 entry.2 := by
  rw [buildOrder] at h
  obtain ⟨customer, _, h⟩ := bind_ok h
  obtain ⟨orderDate, _, h⟩ := bind_ok h
  obtain ⟨lines, hl, h⟩ := bind_ok h
  obtain ⟨amounts, ha, h⟩ := bind_ok h
  cases h
  obtain ⟨hdistinct, hknown, hpriced⟩ := planItems_spec hl
  exact ⟨rfl, hdistinct, hknown, hpriced, resolveAmounts_spec hpriced ha⟩

theorem buildOrders_spec {products : Objects Product.key}
    (h : buildOrders c config products.items customers promotions draws count index = .ok planned) :
    planned.map (fun entry => entry.1.key) = List.range' index count ∧
      ∀ entry ∈ planned, Planned c products.items entry.1 entry.2 := by
  induction count generalizing index planned with
  | zero =>
    cases h
    exact ⟨rfl, fun entry he => absurd he List.not_mem_nil⟩
  | succ count ih =>
    rw [buildOrders] at h
    obtain ⟨entry, he, h⟩ := bind_ok h
    obtain ⟨rest, hr, h⟩ := bind_ok h
    cases h
    obtain ⟨hk, hentry⟩ := buildOrder_spec he
    obtain ⟨hks, hrest⟩ := ih hr
    constructor
    · rw [List.map_cons, hk, hks, List.range'_succ]
    · intro other ho
      rcases List.mem_cons.1 ho with rfl | ho
      · exact hentry
      · exact hrest other ho

/-- Every order is made as an object of its own, from its own lines. -/
theorem generateOrders_spec {products : Objects Product.key}
    (h : generateOrders c config products.items customers promotions count draws = .ok planned) :
    planned.length = count ∧ (planned.map fun entry => entry.1.key).Nodup ∧
      ∀ entry ∈ planned, Planned c products.items entry.1 entry.2 := by
  rw [generateOrders] at h
  split at h
  · cases h
  · split at h
    · cases h
    · obtain ⟨hk, hall⟩ := buildOrders_spec h
      refine ⟨?_, ?_, hall⟩
      · rw [← List.length_map (fun entry : Order × List PlannedItem => entry.1.key), hk,
          List.length_range']
      · rw [hk]
        exact List.nodup_range'

def PlannedItem.item (order : Order) (line : PlannedItem) : OrderItem :=
  ⟨order, line.product, line.quantity, line.unitPrice, 0, line.amount⟩

theorem buildItem_eq {products : List Product} (hp : Planned c products order lines)
    (hl : line ∈ lines) : buildItem c products order line = .ok (line.item order) := by
  obtain ⟨_, _, _, _, hs, _, _, _, _, _, hle⟩ := hp.resolved.cents
  obtain ⟨m, hm, ha⟩ := hle line hl
  obtain ⟨n, hn, he⟩ := (hp.priced line hl).tracks
  have hzero := roundCurrency_cents c (n := 0) (Nat.pow_pos (by decide))
  rw [Nat.cast_zero, zero_div] at hzero
  have hmn : n = m := by
    have h : (n : Rat) / 10 ^ 2 = m / 10 ^ 2 := he.symm.trans ha
    rw [div_left_inj' (by norm_num)] at h
    exact_mod_cast h
  have hmul : roundCurrency c (c.mul line.unitPrice line.quantity) = .ok line.amount := by
    have hlt : n < 10 ^ c.precision := by omega
    rcases hn with ⟨_, hx⟩ | ⟨hge, _⟩
    · rw [hx, he]
      exact roundCurrency_cents c hlt
    · omega
  have hany : (products.any fun product => product.key == line.product.key) = true :=
    List.any_eq_true.2 ⟨line.product, hp.known line hl, beq_self_eq_true _⟩
  rw [buildItem, if_pos hany, hzero, hmul]
  rfl

theorem buildItems_eq {products : List Product} (hp : Planned c products order lines)
    (hsub : ∀ line ∈ rest, line ∈ lines) :
    buildItems c products order rest = .ok (rest.map (PlannedItem.item order)) := by
  induction rest with
  | nil => rfl
  | cons line rest ih =>
    have hl := buildItem_eq hp (hsub line (List.mem_cons_self ..))
    have hr := ih fun other ho => hsub other (List.mem_cons_of_mem line ho)
    rw [buildItems, hl, ok_bind, hr]
    rfl

theorem plannedItemsFor_eq {planned : List (Order × List PlannedItem)}
    (hk : (planned.map fun entry => entry.1.key).Nodup) (he : entry ∈ planned) :
    plannedItemsFor planned entry.1 = entry.2 := by
  induction planned with
  | nil => exact absurd he List.not_mem_nil
  | cons first rest ih =>
    rw [List.map_cons, List.nodup_cons] at hk
    rcases List.mem_cons.1 he with rfl | he
    · simp only [plannedItemsFor, List.find?_cons, beq_self_eq_true]
    · have hne : (first.1.key == entry.1.key) = false := by
        rw [beq_eq_false_iff_ne]
        intro h
        rw [h] at hk
        exact hk.1 (List.mem_map_of_mem (f := fun e : Order × List PlannedItem => e.1.key) he)
      have hr := ih hk.2 he
      rw [plannedItemsFor] at hr
      simp only [plannedItemsFor, List.find?_cons, hne]
      exact hr

theorem generateItems_eq {products : List Product} {planned part : List (Order × List PlannedItem)}
    (hk : (planned.map fun entry => entry.1.key).Nodup)
    (hp : ∀ entry ∈ planned, Planned c products entry.1 entry.2)
    (hsub : ∀ entry ∈ part, entry ∈ planned) :
    generateItems c products planned (part.map Prod.fst) =
      .ok (part.flatMap fun entry => entry.2.map (PlannedItem.item entry.1)) := by
  induction part with
  | nil => rfl
  | cons entry rest ih =>
    have he := hsub entry (List.mem_cons_self ..)
    have hr := ih fun other ho => hsub other (List.mem_cons_of_mem entry ho)
    have hi := buildItems_eq (hp entry he) fun line hl => hl
    rw [List.map_cons, generateItems, plannedItemsFor_eq hk he, hi, ok_bind, hr]
    rfl

end Plans

/-- `SELECT … FROM order_items oi WHERE oi.order_id = o.order_id`. -/
def itemsOf (items : List OrderItem) (order : Order) : List OrderItem :=
  items.filter fun item => item.order.key == order.key

theorem itemsOf_eq {planned : List (Order × List PlannedItem)}
    (hk : (planned.map fun entry => entry.1.key).Nodup) (he : entry ∈ planned) :
    itemsOf (planned.flatMap fun entry => entry.2.map (PlannedItem.item entry.1)) entry.1 =
      entry.2.map (PlannedItem.item entry.1) := by
  induction planned with
  | nil => exact absurd he List.not_mem_nil
  | cons first rest ih =>
    rw [List.map_cons, List.nodup_cons] at hk
    have hfirst (k : Nat) : (first.2.map (PlannedItem.item first.1)).filter
        (fun item => item.order.key == k) =
          if first.1.key = k then first.2.map (PlannedItem.item first.1) else [] := by
      split
      · rename_i h
        rw [List.filter_eq_self]
        intro item hi
        obtain ⟨line, _, rfl⟩ := List.mem_map.1 hi
        exact beq_iff_eq.2 h
      · rename_i h
        rw [List.filter_eq_nil_iff]
        intro item hi
        obtain ⟨line, _, rfl⟩ := List.mem_map.1 hi
        rw [beq_iff_eq]
        exact h
    have hmem {e : Order × List PlannedItem} (h : e ∈ rest) :=
      List.mem_map_of_mem (f := fun e : Order × List PlannedItem => e.1.key) h
    rw [itemsOf, List.flatMap_cons, List.filter_append, hfirst]
    rcases List.mem_cons.1 he with rfl | he
    · rw [if_pos rfl, List.append_right_eq_self, List.filter_eq_nil_iff]
      intro item hi
      obtain ⟨other, ho, hi⟩ := List.mem_flatMap.1 hi
      obtain ⟨line, _, rfl⟩ := List.mem_map.1 hi
      rw [beq_iff_eq]
      intro h
      have hin := hmem ho
      rw [PlannedItem.item] at h
      rw [h] at hin
      exact hk.1 hin
    · have hne : ¬ first.1.key = entry.1.key := by
        intro h
        rw [h] at hk
        exact hk.1 (hmem he)
      rw [if_neg hne, List.nil_append]
      exact ih hk.2 he

def IsCents (amount : Rat) : Prop := ∃ n : Nat, amount = n / 10 ^ 2

/-- The amounts of an order agree with each other and with its items. -/
structure Balanced (order : Order) (items : List OrderItem) : Prop where
  cents : ∀ amount ∈ [order.subtotalAmount, order.discountAmount, order.taxAmount,
    order.shippingAmount, order.totalAmount], IsCents amount
  subtotal : order.subtotalAmount = (items.map OrderItem.lineTotal).sum
  discount_nonneg : 0 ≤ order.discountAmount
  discount_le : order.discountAmount ≤ order.subtotalAmount
  total : order.totalAmount =
    order.subtotalAmount - order.discountAmount + order.taxAmount + order.shippingAmount
  total_nonneg : 0 ≤ order.totalAmount
  distinct : (items.map fun item => item.product.key).Nodup
  quantity : ∀ item ∈ items, 1 ≤ item.quantity

theorem Planned.balanced (h : Planned c products order lines) :
    Balanced order (lines.map (PlannedItem.item order)) := by
  obtain ⟨n, m, t, f, _, hm, hn, hd, ht, hf, _⟩ := h.resolved.cents
  have htotal := h.resolved.total
  simp only at hn hd ht hf htotal
  have hcents : order.totalAmount = ((n - m + t + f : Nat) : Rat) / 10 ^ 2 := by
    rw [htotal, hn, hd, ht, hf, Nat.cast_add, Nat.cast_add, Nat.cast_sub hm]
    ring
  refine ⟨?_, ?_, ?_, ?_, htotal, ?_, ?_, ?_⟩
  · intro amount ha
    simp only [List.mem_cons, List.not_mem_nil, or_false] at ha
    rcases ha with rfl | rfl | rfl | rfl | rfl
    · exact ⟨n, hn⟩
    · exact ⟨m, hd⟩
    · exact ⟨t, ht⟩
    · exact ⟨f, hf⟩
    · exact ⟨_, hcents⟩
  · rw [List.map_map]
    exact h.resolved.subtotal
  · rw [hd]
    positivity
  · rw [hn, hd]
    exact div_le_div_of_nonneg_right (Nat.cast_le.2 hm) (by positivity)
  · rw [hcents]
    positivity
  · rw [List.map_map]
    exact h.distinct
  · intro item hi
    obtain ⟨line, hl, rfl⟩ := List.mem_map.1 hi
    exact (h.priced line hl).1

/-- Whatever is drawn, as many orders are made as are asked for, and the amounts of each agree with
the items that are made for it. -/
theorem generateOrders_balanced (c : Decimal.Context) (config : SeedConfig)
    (customers : List Customer) (products : Objects Product.key) (promotions : List Promotion)
    (count : Nat) (draws : Nat → OrderDraws)
    (h : generateOrders c config products.items customers promotions count draws = .ok planned) :
    planned.length = count ∧
    ∃ items, generateItems c products.items planned (planned.map Prod.fst) = .ok items ∧
      ∀ order ∈ planned.map Prod.fst, Balanced order (itemsOf items order) := by
  obtain ⟨hlength, hk, hp⟩ := generateOrders_spec h
  refine ⟨hlength, _, generateItems_eq hk hp fun entry he => he, ?_⟩
  intro order ho
  obtain ⟨entry, he, rfl⟩ := List.mem_map.1 ho
  rw [itemsOf_eq hk he]
  exact (hp entry he).balanced

def oneHalf : Chance := ⟨1 / 2, by decide +kernel, by decide +kernel⟩

def zeroChance : Chance := ⟨0, by decide +kernel, by decide +kernel⟩

/-- Draws in the middle of every range, of an order with a promotion. -/
def middleDraws : OrderDraws where
  customer := oneHalf
  window := oneHalf
  day := 15
  orderStatus := oneHalf
  itemCount := 2
  products _ := oneHalf
  lines _ := ⟨oneHalf, 650⟩
  appliesPromotion := zeroChance
  promotion := 0
  hour := 8
  salesChannel := oneHalf

def secondProduct : Product := ⟨1, 60, by decide +kernel⟩

def twoProducts : Objects Product.key where
  items := [⟨0, 19.99, by decide +kernel⟩, secondProduct]
  nodup := by decide

def autumnSale : Promotion where
  discountType := .percentage
  discountValue := 15
  startsAt := ⟨2024, 8, 1⟩
  endsAt := ⟨2026, 8, 1⟩
  low := by decide +kernel
  high := by decide +kernel

theorem exists_of_toBool {x : Except ε α} (h : x.toBool = true) : ∃ a, x = .ok a := by
  cases x with
  | error e => cases h
  | ok a => exact ⟨a, rfl⟩

theorem generateOrders_balanced_two : ∃ planned,
    generateOrders defaultContext defaultConfig twoProducts.items [⟨0, .standard⟩] [autumnSale] 2
      (fun _ => middleDraws) = .ok planned ∧
    planned.length = 2 ∧
    ∃ items, generateItems defaultContext twoProducts.items planned (planned.map Prod.fst) =
        .ok items ∧
      ∀ order ∈ planned.map Prod.fst, Balanced order (itemsOf items order) := by
  obtain ⟨planned, h⟩ := exists_of_toBool (x := generateOrders defaultContext defaultConfig
    twoProducts.items [⟨0, .standard⟩] [autumnSale] 2 fun _ => middleDraws) (by decide +kernel)
  exact ⟨planned, h, generateOrders_balanced _ _ _ _ _ _ _ h⟩

end QueryMind.Seeds
