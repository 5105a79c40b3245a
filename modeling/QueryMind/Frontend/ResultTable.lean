import Mathlib.Algebra.Order.Ring.Rat
import Mathlib.Data.String.Basic
import QueryMind.Lib.Comparator
import QueryMind.ResultFormatter.ValueFormatter

namespace QueryMind.Frontend.ResultTable
open Lib ResultFormatter
set_option autoImplicit true

inductive QueryValue
  | string (s : String)
  | number (x : Rat)
  | boolean (b : Bool)
  | null
  deriving DecidableEq, Repr

structure FormattedValue where
  originalValue : QueryValue
  formattedValue : String
  detectedType : String
  deriving DecidableEq, Repr

structure FormattedRow where
  values : List FormattedValue
  deriving DecidableEq, Repr

/-- The double that a JSON integer is read as: 53 bits, rounded half to even. -/
def toDouble (n : Int) : Int :=
  let shift := n.natAbs.log2 - 52
  if shift = 0 then n
  else
    let quotient := n.natAbs / 2 ^ shift
    let rest := n.natAbs % 2 ^ shift
    let up := 2 ^ (shift - 1) < rest ∨ (rest = 2 ^ (shift - 1) ∧ quotient % 2 = 1)
    n.sign * ((if up then quotient + 1 else quotient) * 2 ^ shift : Nat)

/-- A value as the browser reads it from JSON; a `Decimal` is a string there. -/
def deliver : RawValue → QueryValue
  | .none => .null
  | .bool b => .boolean b
  | .number (.int n) => .number (toDouble n)
  | .number (.float q _) => .number q
  | .number (.decimal unscaled scale) => .string (decimalText unscaled scale)
  | .datetime text | .date text | .str text | .other _ text => .string text

def deliverRow (row : List RawValue) : FormattedRow where
  values := row.map fun value => ⟨deliver value, (render value).1, (render value).2⟩

inductive SortDirection
  | asc
  | desc
  deriving DecidableEq, Repr

structure SortState where
  columnIndex : Nat
  direction : SortDirection
  deriving DecidableEq, Repr

/-- `localeCompare` is the collation of the reader's locale. -/
def compareRows (localeCompare : String → String → Int) (a b : FormattedRow) (sort : SortState) :
    Rat :=
  match a.values[sort.columnIndex]?, b.values[sort.columnIndex]? with
  | some left, some right =>
    let result : Rat := match left.originalValue, right.originalValue with
      | .number x, .number y => x - y
      | _, _ => localeCompare left.formattedValue right.formattedValue
    match sort.direction with
    | .asc => result
    | .desc => -result
  | _, _ => 0

/-- The positions of the table's rows in the order that the rows may be shown in. -/
def SortedRows {n : Nat} (localeCompare : String → String → Int) (rows : Fin n → FormattedRow)
    (sort : SortState) (order : List (Fin n)) : Prop :=
  IsSort (fun i j => compareRows localeCompare (rows i) (rows j) sort) order

def numerically (direction : SortDirection) (a b : DbNumber) : Rat :=
  match direction with
  | .asc => a.value - b.value
  | .desc => b.value - a.value

/-- The double that a number is delivered as, unless it is a `Decimal`. -/
def double : DbNumber → Option Rat
  | .int n => some (toDouble n)
  | .float q _ => some q
  | .decimal _ _ => none

/-- Two numbers as the browser can tell them apart: by their doubles, else by their texts. -/
def apparently (localeCompare : String → String → Int) (a b : DbNumber) : Rat :=
  match double a, double b with
  | some x, some y => x - y
  | _, _ => localeCompare a.text b.text

theorem compareRows_numbers {row row' : List RawValue} (hr : row[c]? = some (.number a))
    (hr' : row'[c]? = some (.number b)) (localeCompare : String → String → Int)
    (direction : SortDirection) :
    compareRows localeCompare (deliverRow row) (deliverRow row') ⟨c, direction⟩ =
      match direction with
      | .asc => apparently localeCompare a b
      | .desc => -apparently localeCompare a b := by
  rw [compareRows, deliverRow, deliverRow, List.getElem?_map, List.getElem?_map, hr, hr']
  cases a <;> cases b <;> rfl

theorem numerically_consistent (direction : SortDirection) (values : Fin n → DbNumber) :
    ConsistentComparator fun i j => numerically direction (values i) (values j) := by
  have hasc : ConsistentComparator fun a b : DbNumber => a.value - b.value := by
    constructor
    · intro a
      exact sub_self _
    · intro a b
      rw [sub_neg, sub_pos]
    · intro a b c hab hbc
      rw [sub_nonpos] at hab hbc ⊢
      exact hab.trans hbc
  cases direction with
  | asc => exact hasc.comp values
  | desc => exact hasc.swap.comp values

theorem consistent_neg {cmp : α → α → Rat} (h : ConsistentComparator cmp) :
    ConsistentComparator fun a b => -cmp a b where
  self := by
    intro a
    rw [h.self a, neg_zero]
  antisymm := by
    intro a b
    rw [neg_lt_zero, ← h.antisymm b a, neg_pos]
  trans := by
    intro a b c hab hbc
    rw [neg_nonpos, ← not_lt, ← h.le_zero_iff] at hab hbc ⊢
    exact h.trans c b a hbc hab

theorem consistent_neg_iff {cmp : α → α → Rat} :
    (ConsistentComparator fun a b => -cmp a b) ↔ ConsistentComparator cmp := by
  constructor
  · intro h
    have hneg := consistent_neg h
    simp only [neg_neg] at hneg
    exact hneg
  · exact consistent_neg

/-- What the browser can tell of the numbers is enough: it orders them consistently, and of two
rows it lets the earlier stay before the later one exactly where their values do. -/
def Tells (localeCompare : String → String → Int) (direction : SortDirection)
    (values : Fin n → DbNumber) : Prop :=
  (ConsistentComparator fun i j => apparently localeCompare (values i) (values j)) ∧
    ∀ i j, i < j → match direction with
      | .asc => apparently localeCompare (values i) (values j) ≤ 0 ↔
        (values i).value ≤ (values j).value
      | .desc => 0 ≤ apparently localeCompare (values i) (values j) ↔
        (values j).value ≤ (values i).value

theorem apparently_self (hc : ConsistentComparator localeCompare) (a : DbNumber) :
    apparently localeCompare a a = 0 := by
  cases a with
  | int n => exact sub_self _
  | float q repr => exact sub_self _
  | decimal unscaled scale =>
    have hz := hc.self (DbNumber.decimal unscaled scale).text
    exact (congrArg (fun z : Int => (z : Rat)) hz).trans Int.cast_zero

theorem apparently_consistent (hc : ConsistentComparator localeCompare) {values : Fin n → DbNumber}
    (h : (∀ i, (double (values i)).isSome) ∨ ∀ i, double (values i) = none) :
    ConsistentComparator fun i j => apparently localeCompare (values i) (values j) := by
  rcases h with h | h
  · have hd : ∀ i, ∃ x, double (values i) = some x := fun i => Option.isSome_iff_exists.1 (h i)
    obtain ⟨x, hx⟩ := Classical.skolem.1 hd
    have he : (fun i j => apparently localeCompare (values i) (values j)) =
        fun i j => x i - x j := by
      funext i j
      rw [apparently, hx, hx]
    rw [he]
    constructor
    · intro i
      exact sub_self _
    · intro i j
      rw [sub_neg, sub_pos]
    · intro i j k hij hjk
      rw [sub_nonpos] at hij hjk ⊢
      exact hij.trans hjk
  · have he : (fun i j => apparently localeCompare (values i) (values j)) =
        fun i j => ((localeCompare (values i).text (values j).text : Int) : Rat) := by
      funext i j
      rw [apparently, h i]
    rw [he]
    constructor
    · intro i
      exact_mod_cast hc.self _
    · intro i j
      exact_mod_cast hc.antisymm _ _
    · intro i j k hij hjk
      exact_mod_cast hc.trans _ _ _ (by exact_mod_cast hij) (by exact_mod_cast hjk)

theorem tells_exact (hc : ConsistentComparator localeCompare) {values : Fin n → DbNumber}
    (h : ∀ i, double (values i) = some (values i).value) (direction : SortDirection) :
    Tells localeCompare direction values := by
  constructor
  · exact apparently_consistent hc (.inl fun i => h i ▸ rfl)
  · intro i j _
    cases direction <;> simp only [apparently, h, sub_nonpos, sub_nonneg]

theorem toDouble_small (h : n.natAbs < 2 ^ 53) : toDouble n = n := by
  have hl : n.natAbs.log2 - 52 = 0 := by
    by_cases h0 : n.natAbs = 0
    · rw [h0]
      rfl
    · exact Nat.sub_eq_zero_of_le (Nat.le_of_lt_succ ((Nat.log2_lt h0).2 h))
  exact if_pos hl

theorem double_small {n : Int} (h : n.natAbs < 2 ^ 53) :
    double (.int n) = some (DbNumber.int n).value := by
  rw [double, toDouble_small h]
  rfl

/-- However the browser sorts, the rows are in the order of their values, equal ones as they were,
exactly where what it can tell of the numbers is enough. -/
theorem sortedRows_iff (hc : ConsistentComparator localeCompare) (table : Fin n → List RawValue)
    (column : Nat) (values : Fin n → DbNumber)
    (hcol : ∀ i, (table i)[column]? = some (.number (values i))) (direction : SortDirection) :
    (∀ order, SortedRows localeCompare (fun i => deliverRow (table i)) ⟨column, direction⟩ order →
      order.Perm (List.finRange n) ∧
        order.Pairwise (Before fun i j => numerically direction (values i) (values j))) ↔
      Tells localeCompare direction values := by
  have hcmp : (fun i j => compareRows localeCompare (deliverRow (table i)) (deliverRow (table j))
      ⟨column, direction⟩) = fun i j => match direction with
        | .asc => apparently localeCompare (values i) (values j)
        | .desc => -apparently localeCompare (values i) (values j) := by
    funext i j
    exact compareRows_numbers (hcol i) (hcol j) localeCompare direction
  have hself : ∀ i, compareRows localeCompare (deliverRow (table i)) (deliverRow (table i))
      ⟨column, direction⟩ = 0 := by
    intro i
    rw [compareRows_numbers (hcol i) (hcol i)]
    cases direction with
    | asc => exact apparently_self hc _
    | desc => exact neg_eq_zero.2 (apparently_self hc _)
  have hsort : (∀ order, IsSort (fun i j => compareRows localeCompare (deliverRow (table i))
      (deliverRow (table j)) ⟨column, direction⟩) order →
        order.Pairwise (Before fun i j => numerically direction (values i) (values j))) ↔ _ :=
    isSort_before_iff hself (numerically_consistent direction values)
  have hshown : (∀ order, SortedRows localeCompare (fun i => deliverRow (table i))
      ⟨column, direction⟩ order → order.Perm (List.finRange n) ∧
        order.Pairwise (Before fun i j => numerically direction (values i) (values j))) ↔
      ∀ order, IsSort (fun i j => compareRows localeCompare (deliverRow (table i))
        (deliverRow (table j)) ⟨column, direction⟩) order →
          order.Pairwise (Before fun i j => numerically direction (values i) (values j)) := by
    apply forall_congr'
    intro order
    apply forall_congr'
    intro h
    exact and_iff_right h.1
  rw [hshown, hsort, hcmp, Tells]
  simp only [compareRows_numbers (hcol _) (hcol _)]
  cases direction with
  | asc => simp only [numerically, sub_nonpos]
  | desc => simp only [numerically, sub_nonpos, neg_nonpos, consistent_neg_iff]

/-- A collation letter by letter, as locales order texts of digits and points. -/
def byLetters (s t : String) : Int := if s = t then 0 else if s < t then -1 else 1

theorem byLetters_neg (s t : String) : byLetters s t < 0 ↔ s < t := by
  rw [byLetters]
  rcases lt_trichotomy s t with h | h | h
  · rw [if_neg h.ne, if_pos h]
    exact iff_of_true (by decide) h
  · rw [if_pos h]
    exact iff_of_false (by decide) h.not_lt
  · rw [if_neg h.ne', if_neg (lt_asymm h)]
    exact iff_of_false (by decide) (lt_asymm h)

theorem byLetters_nonpos (s t : String) : byLetters s t ≤ 0 ↔ s ≤ t := by
  rw [byLetters]
  rcases lt_trichotomy s t with h | h | h
  · rw [if_neg h.ne, if_pos h]
    exact iff_of_true (by decide) h.le
  · rw [if_pos h]
    exact iff_of_true (by decide) h.le
  · rw [if_neg h.ne', if_neg (lt_asymm h)]
    exact iff_of_false (by decide) (not_le_of_gt h)

theorem byLetters_consistent : ConsistentComparator byLetters where
  self := fun s => if_pos rfl
  antisymm := by
    intro s t
    rw [byLetters_neg, ← not_le, ← not_le, byLetters_nonpos]
  trans := by
    intro s t u hst htu
    rw [byLetters_nonpos] at hst htu ⊢
    exact hst.trans htu

def amounts : Fin 2 → DbNumber
  | 0 => .decimal 950 2
  | 1 => .decimal 1000 2

def counts : Fin 2 → DbNumber
  | 0 => .int 12
  | 1 => .int 7

theorem sortedRows_counts : SortedRows byLetters
    (fun i => deliverRow [.str "north", .number (counts i)]) ⟨1, .asc⟩ [1, 0] ∧
      ([1, 0] : List (Fin 2)).Perm (List.finRange 2) ∧
        ([1, 0] : List (Fin 2)).Pairwise
          (Before fun i j => numerically .asc (counts i) (counts j)) := by
  have hs : SortedRows byLetters
      (fun i => deliverRow [.str "north", .number (counts i)]) ⟨1, .asc⟩ [1, 0] := by
    refine ⟨by decide, ?_⟩
    intro _
    rw [List.pairwise_pair]
    left
    decide +kernel
  refine ⟨hs, (sortedRows_iff byLetters_consistent _ 1 counts (fun _ => rfl) .asc).2 ?_ [1, 0] hs⟩
  apply tells_exact byLetters_consistent
  intro i
  match i with
  | 0 => exact double_small (by decide)
  | 1 => exact double_small (by decide)

theorem sortedRows_amounts : SortedRows byLetters
    (fun i => deliverRow [.number (amounts i)]) ⟨0, .asc⟩ [1, 0] ∧
      ¬([1, 0] : List (Fin 2)).Pairwise
        (Before fun i j => numerically .asc (amounts i) (amounts j)) := by
  constructor
  · refine ⟨by decide, ?_⟩
    intro _
    rw [List.pairwise_pair]
    left
    decide
  · rw [List.pairwise_pair]
    rintro (h | h)
    · revert h
      decide +kernel
    · revert h
      decide +kernel

end QueryMind.Frontend.ResultTable
