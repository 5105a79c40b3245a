import QueryMind.Nlu.Filters
import QueryMind.Nlu.Mentions

namespace QueryMind.Nlu
open Lib Lib.Pattern
set_option autoImplicit true

/-- The entry of a match whose field and value can be read. -/
def claimedBy (operator : ComparisonOperator) (m : Match (List Char × List Char)) :
    Option Claimed := (filterOf operator m).map fun e => (m.span, e)

def Claimed.Disjoint (found : List Claimed) : Prop :=
  found.Pairwise fun f g => overlaps f.1 g.1 = false

theorem addFilter_taken (h : f ∈ found) (ho : overlaps m.span f.1 = true) :
    addFilter operator found m = found := by
  rw [addFilter, if_pos (List.any_eq_true.2 ⟨f, h, ho⟩)]

theorem addFilter_free (h : ∀ f ∈ found, overlaps m.span f.1 = false) :
    addFilter operator found m = found ++ (claimedBy operator m).toList := by
  have hfree : ¬ (found.any fun f => overlaps m.span f.1) = true := by
    rw [List.any_eq_true]
    rintro ⟨f, hf, ho⟩
    rw [h f hf] at ho
    cases ho
  rw [addFilter, if_neg hfree, claimedBy]
  cases filterOf operator m with
  | none => exact (List.append_nil found).symm
  | some e => rfl

theorem addFilter_cases (operator : ComparisonOperator) (found : List Claimed)
    (m : Match (List Char × List Char)) :
    (∃ f ∈ found, overlaps m.span f.1 = true ∧ addFilter operator found m = found) ∨
      (∀ f ∈ found, overlaps m.span f.1 = false) ∧
        addFilter operator found m = found ++ (claimedBy operator m).toList := by
  by_cases h : ∃ f ∈ found, overlaps m.span f.1 = true
  · obtain ⟨f, hf, ho⟩ := h
    exact .inl ⟨f, hf, ho, addFilter_taken hf ho⟩
  · have hfree : ∀ f ∈ found, overlaps m.span f.1 = false := fun f hf =>
      Bool.eq_false_iff.2 fun ho => h ⟨f, hf, ho⟩
    exact .inr ⟨hfree, addFilter_free hfree⟩

theorem mem_claimedBy (h : f ∈ (claimedBy operator m).toList) :
    f.1 = m.span ∧ filterOf operator m = some f.2 := by
  rw [Option.mem_toList, claimedBy] at h
  obtain ⟨e, he, rfl⟩ := Option.map_eq_some_iff.1 h
  exact ⟨rfl, he⟩

/-- What holds of the filters found from some matches, each with its operator. -/
structure Read (seen : List (ComparisonOperator × Match (List Char × List Char)))
    (found : List Claimed) : Prop where
  disjoint : Claimed.Disjoint found
  occurs : ∀ f ∈ found, ∃ p ∈ seen, claimedBy p.1 p.2 = some f
  complete : ∀ p ∈ seen, ∀ f, claimedBy p.1 p.2 = some f →
    f ∈ found ∨ ∃ g ∈ found, overlaps f.1 g.1 = true

theorem Read.add (h : Read seen found) (operator : ComparisonOperator)
    (m : Match (List Char × List Char)) :
    Read (seen ++ [(operator, m)]) (addFilter operator found m) := by
  rcases addFilter_cases operator found m with ⟨g, hg, ho, he⟩ | ⟨hfree, he⟩
  · rw [he]
    refine ⟨h.disjoint, ?_, ?_⟩
    · intro f hf
      obtain ⟨p, hp, hpf⟩ := h.occurs f hf
      exact ⟨p, List.mem_append_left _ hp, hpf⟩
    · intro p hp f hf
      rcases List.mem_append.1 hp with hp | hp
      · exact h.complete p hp f hf
      · rw [List.mem_singleton.1 hp] at hf
        right
        refine ⟨g, hg, ?_⟩
        rw [(mem_claimedBy (Option.mem_toList.2 hf)).1]
        exact ho
  · rw [he]
    refine ⟨?_, ?_, ?_⟩
    · refine List.pairwise_append.2 ⟨h.disjoint, ?_, ?_⟩
      · cases claimedBy operator m with
        | none => exact .nil
        | some f => exact List.pairwise_singleton _ f
      · intro f hf g hg
        rw [(mem_claimedBy hg).1, overlaps_comm]
        exact hfree f hf
    · intro f hf
      rcases List.mem_append.1 hf with hf | hf
      · obtain ⟨p, hp, hpf⟩ := h.occurs f hf
        exact ⟨p, List.mem_append_left _ hp, hpf⟩
      · exact ⟨(operator, m), List.mem_append_right _ List.mem_cons_self, Option.mem_toList.1 hf⟩
    · intro p hp f hf
      rcases List.mem_append.1 hp with hp | hp
      · rcases h.complete p hp f hf with hf | ⟨g, hg, ho⟩
        · exact .inl (List.mem_append_left _ hf)
        · exact .inr ⟨g, List.mem_append_left _ hg, ho⟩
      · rw [List.mem_singleton.1 hp] at hf
        exact .inl (List.mem_append_right _ (Option.mem_toList.2 hf))

/-- The matches of all comparators in a text, in the order in which they are tried. -/
def allMatches (w : DigitClass) (text : List Char) (table : List Comparator) :
    List (ComparisonOperator × Match (List Char × List Char)) :=
  table.flatMap fun x => (finditer (x.pattern w) text).map fun m => (x.operator, m)

theorem foldl_addComparator (w : DigitClass) (text : List Char) (table : List Comparator)
    (found : List Claimed) :
    table.foldl (addComparator w text) found =
      (allMatches w text table).foldl (fun found p => addFilter p.1 found p.2) found := by
  rw [allMatches, List.foldl_flatMap]
  simp only [List.foldl_map]
  rfl

theorem Read.run (h : Read seen found)
    (more : List (ComparisonOperator × Match (List Char × List Char))) :
    Read (seen ++ more) (more.foldl (fun found p => addFilter p.1 found p.2) found) := by
  induction more generalizing seen found with
  | nil => rwa [List.append_nil]
  | cons p more ih =>
    have hnext := ih (h.add p.1 p.2)
    rwa [List.append_assoc] at hnext

theorem findFilters_read (w : DigitClass) (text : List Char) :
    Read (allMatches w text comparatorPatterns) (findFilters w text) := by
  have hnil : Read [] [] := ⟨.nil, List.forall_mem_nil _, List.forall_mem_nil _⟩
  have hrun := hnil.run (allMatches w text comparatorPatterns)
  rwa [List.nil_append, ← foldl_addComparator, ← findFilters] at hrun

def inOrder (found : List Claimed) : List Claimed :=
  found.insertionSort fun f g => f.1.1 ≤ g.1.1

theorem inOrder_perm (found : List Claimed) : (inOrder found).Perm found :=
  List.perm_insertionSort _ _

theorem inOrder_sorted (found : List Claimed) :
    (inOrder found).Pairwise fun f g => f.1.1 ≤ g.1.1 := by
  have htotal : Std.Total fun f g : Claimed => f.1.1 ≤ g.1.1 := ⟨fun f g => le_total f.1.1 g.1.1⟩
  have htrans : IsTrans Claimed fun f g => f.1.1 ≤ g.1.1 := ⟨fun f g k => le_trans⟩
  exact List.pairwise_insertionSort _ _

theorem inOrder_disjoint (h : Claimed.Disjoint found) : Claimed.Disjoint (inOrder found) := by
  apply ((inOrder_perm found).pairwise_iff _).2 h
  exact fun ho => (overlaps_comm _ _).trans ho

theorem extractFilters_eq (w : DigitClass) (question : String) :
    extractFilters w question = (inOrder (findFilters w question.toList)).map Prod.snd := rfl

/-- The filters of a question stand in its order at disjoint places; each is read off a match, and
a match is left out only where it cannot be read or overlaps a filter. -/
theorem extractFilters_spans (w : DigitClass) (question : String) :
    ∃ found : List Claimed, extractFilters w question = found.map Prod.snd ∧
      Read (allMatches w question.toList comparatorPatterns) found ∧
      found.Pairwise fun f g => f.1.1 ≤ g.1.1 := by
  have h := findFilters_read w question.toList
  have hperm := inOrder_perm (findFilters w question.toList)
  refine ⟨_, extractFilters_eq w question, ⟨inOrder_disjoint h.disjoint, ?_, ?_⟩,
    inOrder_sorted _⟩
  · intro f hf
    exact h.occurs f (hperm.mem_iff.1 hf)
  · intro p hp f hf
    rcases h.complete p hp f hf with hf | ⟨g, hg, ho⟩
    · exact .inl (hperm.mem_iff.2 hf)
    · exact .inr ⟨g, hperm.mem_iff.2 hg, ho⟩

end QueryMind.Nlu
