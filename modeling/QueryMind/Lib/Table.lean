import Mathlib.Data.List.Nodup

namespace QueryMind.Lib.Table
set_option autoImplicit true

variable {κ : Type} [DecidableEq κ]

def lookup (col : α → κ) (k : κ) (rows : List α) : Option α := rows.find? (fun r => col r = k)

def update (col : α → κ) (k : κ) (f : α → α) (rows : List α) : List α :=
  rows.map (fun r => if col r = k then f r else r)

theorem lookup_some {col : α → κ} (h : lookup col k rows = some r) : r ∈ rows ∧ col r = k :=
  ⟨List.mem_of_find?_eq_some h, by simpa using List.find?_some h⟩

theorem lookup_none {col : α → κ} : lookup col k rows = none ↔ ∀ r ∈ rows, col r ≠ k := by
  simp [lookup]

theorem lookup_unique {col : α → κ} (hn : (rows.map col).Nodup) (hr : r ∈ rows) :
    lookup col (col r) rows = some r := by
  cases hl : lookup col (col r) rows with
  | none => exact absurd rfl (lookup_none.1 hl r hr)
  | some r' =>
    obtain ⟨hr', he⟩ := lookup_some hl
    rw [List.inj_on_of_nodup_map hn hr' hr he]

theorem map_update {col : α → κ} {g : α → β} (hg : ∀ r, g (f r) = g r) :
    (update col k f rows).map g = rows.map g := by
  rw [update, List.map_map]
  apply List.map_congr_left
  intro r _
  simp only [Function.comp_apply]
  split
  · exact hg r
  · rfl

theorem nodup_update {col : α → κ} {g : α → β} (hg : ∀ r, g (f r) = g r)
    (hn : (rows.map g).Nodup) : ((update col k f rows).map g).Nodup := by
  rw [map_update hg]
  exact hn

theorem mem_update {col : α → κ} (h : r ∈ update col k f rows) :
    ∃ r' ∈ rows, r = if col r' = k then f r' else r' := by
  obtain ⟨r', hr', he⟩ := List.mem_map.1 h
  exact ⟨r', hr', he.symm⟩

theorem mem_update_of_mem (col : α → κ) (k : κ) (f : α → α) (h : r ∈ rows) :
    (if col r = k then f r else r) ∈ update col k f rows :=
  List.mem_map.2 ⟨r, h, rfl⟩

theorem lookup_update {col : α → κ} {g : α → κ'} [DecidableEq κ'] (hg : ∀ r, g (f r) = g r) :
    lookup g k' (update col k f rows) =
      (lookup g k' rows).map (fun r => if col r = k then f r else r) := by
  induction rows with
  | nil => rfl
  | cons r rows ih =>
    have he : g (if col r = k then f r else r) = g r := by
      split
      · exact hg r
      · rfl
    simp only [lookup, update, List.map_cons, List.find?_cons, he] at ih ⊢
    split
    · rfl
    · exact ih

theorem nodup_append {g : α → β} (hn : (rows.map g).Nodup) (hr : ∀ r' ∈ rows, g r' ≠ g r) :
    ((rows ++ [r]).map g).Nodup := by
  rw [List.map_append, List.map_singleton, ← List.concat_eq_append]
  apply hn.concat
  intro hm
  obtain ⟨r', hr', he⟩ := List.mem_map.1 hm
  exact hr r' hr' he

end QueryMind.Lib.Table
