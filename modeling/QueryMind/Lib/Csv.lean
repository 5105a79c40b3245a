import Mathlib.Data.List.Infix
import Mathlib.Data.List.Basic

namespace QueryMind.Lib
set_option autoImplicit true

section
variable {α : Type u} {β : Type v}

/-- A text of one or more items with a separator between them. -/
inductive Separated (sep : List α) (item : List α → β → Prop) : List α → List β → Prop
  | one (h : item text v) : Separated sep item text [v]
  | more (h : item text v) (hs : Separated sep item rest vs) :
      Separated sep item (text ++ (sep ++ rest)) (v :: vs)

/-- Items are read one way only, whatever text that may follow one comes after them. -/
def ReadOneWay (item : List α → β → Prop) (follow : List α → Prop) : Prop :=
  ∀ text v text' v' u u', item text v → item text' v' → follow u → follow u' →
    text ++ u = text' ++ u' → text = text' ∧ v = v'

variable {sep : List α} {item : List α → β → Prop}

theorem Separated.ne_nil (h : Separated sep item text vs) : vs ≠ [] := by
  cases h with
  | one => exact List.cons_ne_nil _ _
  | more => exact List.cons_ne_nil _ _

theorem Separated.forall (h : Separated sep item text vs) {good : β → Prop}
    (hi : ∀ text v, item text v → good v) : ∀ v ∈ vs, good v := by
  induction h with
  | one h => exact List.forall_mem_singleton.2 (hi _ _ h)
  | more h hs ih => exact List.forall_mem_cons.2 ⟨hi _ _ h, ih⟩

theorem ReadOneWay.separated {follow followItem : List α → Prop}
    (hi : ReadOneWay item followItem) (hsep : ∀ u, followItem (sep ++ u))
    (hf : ∀ u, follow u → followItem u) (hn : ∀ u, ¬follow (sep ++ u)) :
    ReadOneWay (Separated sep item) follow := by
  intro text vs text' vs' u u' h h' hu hu' he
  induction h generalizing text' vs' with
  | one h =>
    cases h' with
    | one h' =>
      obtain ⟨ht, hv⟩ := hi _ _ _ _ _ _ h h' (hf _ hu) (hf _ hu') he
      rw [ht, hv]
      exact ⟨rfl, rfl⟩
    | more h' hs' =>
      rw [List.append_assoc, List.append_assoc] at he
      obtain ⟨ht, -⟩ := hi _ _ _ _ _ _ h h' (hf _ hu) (hsep _) he
      rw [ht, List.append_cancel_left_eq] at he
      rw [he] at hu
      exact absurd hu (hn _)
  | more h hs ih =>
    rw [List.append_assoc, List.append_assoc] at he
    cases h' with
    | one h' =>
      obtain ⟨ht, -⟩ := hi _ _ _ _ _ _ h h' (hsep _) (hf _ hu') he
      rw [ht, List.append_cancel_left_eq] at he
      rw [← he] at hu'
      exact absurd hu' (hn _)
    | more h' hs' =>
      rw [List.append_assoc, List.append_assoc] at he
      obtain ⟨ht, hv⟩ := hi _ _ _ _ _ _ h h' (hsep _) (hsep _) he
      rw [ht, List.append_cancel_left_eq, List.append_cancel_left_eq] at he
      obtain ⟨hr, hvs⟩ := ih _ _ hs' he
      rw [ht, hv, hr, hvs]
      exact ⟨rfl, rfl⟩

theorem separated_intercalate {write : β → List α} {vs : List β} (hn : vs ≠ [])
    (h : ∀ v ∈ vs, item (write v) v) :
    Separated sep item (sep.intercalate (vs.map write)) vs := by
  induction vs with
  | nil => exact absurd rfl hn
  | cons v vs ih =>
    rw [List.forall_mem_cons] at h
    cases vs with
    | nil =>
      rw [List.map_singleton, List.intercalate_singleton]
      exact .one h.1
    | cons v' vs =>
      rw [List.map_cons, List.map_cons, List.intercalate_cons_cons, List.append_assoc]
      exact .more h.1 (ih (List.cons_ne_nil _ _) h.2)

theorem intercalate_concat {xs : List (List α)} (hn : xs ≠ []) (x : List α) :
    sep.intercalate (xs ++ [x]) = sep.intercalate xs ++ (sep ++ x) := by
  induction xs with
  | nil => exact absurd rfl hn
  | cons y xs ih =>
    cases xs with
    | nil => rw [List.singleton_append, List.intercalate_cons_cons, List.intercalate_singleton,
        List.intercalate_singleton, List.append_assoc]
    | cons z xs =>
      rw [List.cons_append, List.cons_append, List.intercalate_cons_cons, ← List.cons_append,
        ih (List.cons_ne_nil z xs), List.intercalate_cons_cons, List.append_assoc,
        List.append_assoc, List.append_assoc]

/-- Items that no writing of them is shorter than `write`'s; those that have one as short as that
are good. -/
structure Shortest (item : List α → β → Prop) (write : β → List α) (good : β → Prop) : Prop where
  le : ∀ text v, item text v → (write v).length ≤ text.length
  good : ∀ text v, item text v → text.length ≤ (write v).length → good v

theorem Shortest.separated {write : β → List α} {good : β → Prop}
    (h : Shortest item write good) :
    Shortest (Separated sep item) (fun vs => sep.intercalate (vs.map write))
      (fun vs => ∀ v ∈ vs, good v) := by
  have hcons (v : β) (rest : List α) (vs : List β)
      (hs : Separated sep item rest vs) :
      (sep.intercalate ((v :: vs).map write)).length =
        (write v).length + (sep.length + (sep.intercalate (vs.map write)).length) := by
    have hne : vs.map write ≠ [] := fun hm => hs.ne_nil (List.map_eq_nil_iff.1 hm)
    rw [List.map_cons, List.intercalate_cons_of_ne_nil hne, List.length_append,
      List.length_append, Nat.add_assoc]
  have hle (text : List α) (vs : List β) (hs : Separated sep item text vs) :
      (sep.intercalate (vs.map write)).length ≤ text.length := by
    induction hs with
    | one hi =>
      rw [List.map_singleton, List.intercalate_singleton]
      exact h.le _ _ hi
    | more hi hs ih =>
      have hv := h.le _ _ hi
      rw [hcons _ _ _ hs, List.length_append, List.length_append]
      omega
  apply Shortest.mk hle
  intro text vs hs hlen
  induction hs with
  | one hi =>
    rw [List.map_singleton, List.intercalate_singleton] at hlen
    exact List.forall_mem_singleton.2 (h.good _ _ hi hlen)
  | more hi hs ih =>
    have hv := h.le _ _ hi
    have hvs := hle _ _ hs
    rw [hcons _ _ _ hs, List.length_append, List.length_append] at hlen
    exact List.forall_mem_cons.2 ⟨h.good _ _ hi (by omega), ih (by omega)⟩

end

namespace Csv

/-- The characters that a field holds as they are, the others being structure. -/
def IsText (c : Char) : Prop := c ≠ '"' ∧ c ≠ ',' ∧ c ≠ '\r' ∧ c ≠ '\n'

def doubled (value : List Char) : List Char :=
  value.flatMap fun c => if c = '"' then ['"', '"'] else [c]

def quoted (value : List Char) : List Char := '"' :: (doubled value ++ ['"'])

inductive Field : List Char → List Char → Prop
  | bare (h : ∀ c ∈ value, IsText c) : Field value value
  | quoted (value : List Char) : Field (quoted value) value

def Record : List Char → List (List Char) → Prop := Separated [','] Field

def Records : List Char → List (List (List Char)) → Prop := Separated ['\r', '\n'] Record

/-- What a text holds: its records, of which the last one may have a line break, too. -/
def File (text : List Char) (records : List (List (List Char))) : Prop :=
  Records text records ∨ ∃ body, text = body ++ ['\r', '\n'] ∧ Records body records

/-- A reader takes the texts that hold records, each for some that it holds. -/
structure Reader where
  read : List Char → Option (List (List (List Char)))
  sound : ∀ text records, read text = some records → File text records
  complete : ∀ text records, File text records → (read text).isSome

/-- A reader that prefers given records for a given text. -/
noncomputable def readerOf (text : List Char) (records : List (List (List Char)))
    (h : File text records) : Reader := by
  classical
  exact
    { read := fun text' => if text' = text then some records
        else if h : ∃ records', File text' records' then some h.choose else none
      sound := by
        intro text' records' hr
        by_cases ht : text' = text
        · rw [if_pos ht, Option.some.injEq] at hr
          rw [ht, ← hr]
          exact h
        · rw [if_neg ht] at hr
          by_cases he : ∃ records', File text' records'
          · rw [dif_pos he, Option.some.injEq] at hr
            rw [← hr]
            exact he.choose_spec
          · rw [dif_neg he] at hr
            cases hr
      complete := by
        intro text' records' hf
        by_cases ht : text' = text
        · rw [if_pos ht]
          rfl
        · rw [if_neg ht, dif_pos ⟨records', hf⟩]
          rfl }

theorem readerOf_read (h : File text records) :
    (readerOf text records h).read text = some records := if_pos rfl

theorem read_eq_iff {text : List Char} {records : List (List (List Char))} :
    (∀ reader : Reader, reader.read text = some records) ↔
      File text records ∧ ∀ records', File text records' → records' = records := by
  constructor
  · intro h
    have hempty : File [] [[[]]] := .inl (.one (.one (.bare (List.forall_mem_nil _))))
    apply And.intro ((readerOf [] [[[]]] hempty).sound _ _ (h _))
    intro records' hf
    have hr := h (readerOf text records' hf)
    rw [readerOf_read, Option.some.injEq] at hr
    exact hr
  · rintro ⟨hf, hu⟩ reader
    obtain ⟨records', hr⟩ := Option.isSome_iff_exists.1 (reader.complete _ _ hf)
    rw [hr, hu _ (reader.sound _ _ hr)]

def FieldEnd (u : List Char) : Prop := ∀ c, u.head? = some c → c = ',' ∨ c = '\r'

def RecordEnd (u : List Char) : Prop := u = [] ∨ ∃ x, u = '\r' :: '\n' :: x

theorem FieldEnd.not_cons (h : FieldEnd (c :: u)) (hc : c ≠ ',' ∧ c ≠ '\r') : False := by
  rcases h c rfl with he | he
  · exact hc.1 he
  · exact hc.2 he

theorem bare_unique (h : ∀ c ∈ v, IsText c) (h' : ∀ c ∈ v', IsText c) (hu : FieldEnd u)
    (hu' : FieldEnd u') (he : v ++ u = v' ++ u') : v = v' := by
  induction v generalizing v' with
  | nil =>
    cases v' with
    | nil => rfl
    | cons c v' =>
      rw [List.nil_append, List.cons_append] at he
      rw [he] at hu
      obtain ⟨-, hc, hr, -⟩ := h' c List.mem_cons_self
      exact (hu.not_cons ⟨hc, hr⟩).elim
  | cons c v ih =>
    rw [List.forall_mem_cons] at h
    cases v' with
    | nil =>
      rw [List.nil_append, List.cons_append] at he
      rw [← he] at hu'
      obtain ⟨-, hc, hr, -⟩ := h.1
      exact (hu'.not_cons ⟨hc, hr⟩).elim
    | cons c' v' =>
      rw [List.forall_mem_cons] at h'
      rw [List.cons_append, List.cons_append, List.cons.injEq] at he
      rw [he.1, ih h.2 h'.2 he.2]

theorem doubled_cons_quote (v : List Char) : doubled ('"' :: v) = '"' :: '"' :: doubled v := rfl

theorem doubled_cons (h : c ≠ '"') (v : List Char) : doubled (c :: v) = c :: doubled v := by
  rw [doubled, List.flatMap_cons, if_neg h]
  rfl

theorem doubled_end (hu : FieldEnd u) (he : '"' :: u = doubled v ++ '"' :: u') : v = [] := by
  cases v with
  | nil => rfl
  | cons c v =>
    by_cases hc : c = '"'
    · rw [hc, doubled_cons_quote, List.cons_append, List.cons_append, List.cons.injEq] at he
      rw [he.2] at hu
      exact (hu.not_cons (by decide)).elim
    · rw [doubled_cons hc, List.cons_append, List.cons.injEq] at he
      exact absurd he.1.symm hc

theorem doubled_unique (hu : FieldEnd u) (hu' : FieldEnd u')
    (he : doubled v ++ '"' :: u = doubled v' ++ '"' :: u') : v = v' := by
  induction v generalizing v' with
  | nil => exact (doubled_end hu he).symm
  | cons c v ih =>
    cases v' with
    | nil => exact doubled_end hu' he.symm
    | cons c' v' =>
      by_cases hc : c = '"'
      · by_cases hc' : c' = '"'
        · rw [hc, hc', doubled_cons_quote, doubled_cons_quote] at he
          rw [hc, hc', ih (List.cons.inj (List.cons.inj he).2).2]
        · rw [hc, doubled_cons_quote, doubled_cons hc'] at he
          exact absurd (List.cons.inj he).1.symm hc'
      · by_cases hc' : c' = '"'
        · rw [hc', doubled_cons_quote, doubled_cons hc] at he
          exact absurd (List.cons.inj he).1 hc
        · rw [doubled_cons hc, doubled_cons hc'] at he
          rw [(List.cons.inj he).1, ih (List.cons.inj he).2]

theorem bare_ne_quoted (h : ∀ c ∈ v, IsText c) (hu : FieldEnd u) :
    v ++ u ≠ quoted v' ++ u' := by
  intro he
  cases v with
  | nil =>
    rw [List.nil_append] at he
    rw [he] at hu
    exact hu.not_cons (by decide)
  | cons c v => exact (h c List.mem_cons_self).1 (List.cons.inj he).1

theorem field_readOneWay : ReadOneWay Field FieldEnd := by
  intro text v text' v' u u' h h' hu hu' he
  cases h with
  | bare h =>
    cases h' with
    | bare h' =>
      have hv := bare_unique h h' hu hu' he
      exact ⟨hv, hv⟩
    | quoted => exact (bare_ne_quoted h hu he).elim
  | quoted =>
    cases h' with
    | bare h' => exact (bare_ne_quoted h' hu' he.symm).elim
    | quoted =>
      rw [quoted, quoted, List.cons_append, List.cons_append, List.cons.injEq, List.append_assoc,
        List.append_assoc] at he
      have hv := doubled_unique hu hu' he.2
      rw [hv]
      exact ⟨rfl, rfl⟩

theorem record_readOneWay : ReadOneWay Record RecordEnd := by
  apply field_readOneWay.separated
  · intro u c hc
    exact .inl (Option.some.inj hc).symm
  · intro u hu c hc
    rcases hu with rfl | ⟨x, rfl⟩
    · cases hc
    · exact .inr (Option.some.inj hc).symm
  · intro u hu
    rcases hu with hu | ⟨x, hu⟩
    · cases hu
    · exact absurd (List.cons.inj hu).1 (by decide)

theorem records_unique (h : Records text records) (h' : Records text records') :
    records = records' := by
  have hone : ReadOneWay Records fun u => u = [] := by
    apply record_readOneWay.separated
    · intro u
      exact .inr ⟨u, rfl⟩
    · intro u hu
      exact .inl hu
    · intro u hu
      cases hu
  exact (hone _ _ _ _ _ _ h h' rfl rfl rfl).2

theorem Records.line_break (h : Records text records) :
    Records (text ++ ['\r', '\n']) (records ++ [[[]]]) := by
  have hlast : Records [] [[[]]] := .one (.one (.bare (List.forall_mem_nil _)))
  induction h with
  | one h => exact .more h hlast
  | more h hs ih =>
    rw [List.append_assoc, List.append_assoc]
    exact .more h ih

/-- The records of a text are all that it holds unless the last one is an empty field alone. -/
theorem file_unique (h : Records text records)
    (hl : ∀ before, before ≠ [] → records ≠ before ++ [[[]]]) (hf : File text records') :
    records' = records := by
  rcases hf with hf | ⟨body, rfl, hf⟩
  · exact records_unique hf h
  · exact absurd (records_unique h hf.line_break) (hl _ hf.ne_nil)

end Csv

end QueryMind.Lib
