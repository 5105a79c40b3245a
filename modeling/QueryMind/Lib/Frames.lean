import Mathlib.Data.List.Basic

namespace QueryMind.Lib.Frames
set_option autoImplicit true

def prepend (piece : List α) : List (List α) → List (List α)
  | [] => [piece]
  | part :: parts => (piece ++ part) :: parts

section
variable [DecidableEq α] (sep : α)

/-- The parts between two separators in a row, from left to right. -/
def splitDouble : List α → List (List α)
  | [] => [[]]
  | [a] => [[a]]
  | a :: b :: l =>
    if a = sep ∧ b = sep then [] :: splitDouble l else prepend [a] (splitDouble (b :: l))

/-- A reader's buffer takes a piece: the parts that are complete, and what is left. -/
def feed (buffer piece : List α) : List (List α) × List α :=
  let parts := splitDouble sep (buffer ++ piece)
  (parts.dropLast, parts.getLast?.getD [])

def feedAll : List α → List (List α) → List (List α) × List α
  | buffer, [] => ([], buffer)
  | buffer, piece :: pieces =>
    let (parts, left) := feed sep buffer piece
    let (more, last) := feedAll left pieces
    (parts ++ more, last)

end

theorem prepend_prepend (xs ys : List α) (parts : List (List α)) :
    prepend xs (prepend ys parts) = prepend (xs ++ ys) parts := by
  cases parts with
  | nil => rfl
  | cons part parts => exact congrArg (· :: parts) (List.append_assoc ..).symm

theorem prepend_append (piece : List α) (h : parts ≠ []) :
    prepend piece (parts ++ more) = prepend piece parts ++ more := by
  cases parts with
  | nil => exact absurd rfl h
  | cons part parts => rfl

theorem prepend_ne_nil (piece : List α) (parts : List (List α)) : prepend piece parts ≠ [] := by
  cases parts <;> exact List.cons_ne_nil _ _

section
variable [DecidableEq α] {sep : α}

theorem splitDouble_ne_nil (sep : α) (l : List α) : splitDouble sep l ≠ [] := by
  fun_cases splitDouble sep l with
  | case1 => exact List.cons_ne_nil _ _
  | case2 a => exact List.cons_ne_nil _ _
  | case3 a b l h => exact List.cons_ne_nil _ _
  | case4 a b l h => exact prepend_ne_nil _ _

theorem splitDouble_eq (sep : α) (l : List α) :
    ∃ parts last, splitDouble sep l = parts ++ [last] := by
  obtain ⟨parts, last, h⟩ :=
    (List.eq_nil_or_concat _).resolve_left (splitDouble_ne_nil sep l)
  exact ⟨parts, last, h.trans List.concat_eq_append⟩

theorem splitDouble_single (h : splitDouble sep xs = [last]) : last = xs := by
  induction xs using splitDouble.induct sep generalizing last with
  | case1 => exact (List.singleton_inj.1 h).symm
  | case2 a => exact (List.singleton_inj.1 h).symm
  | case3 a b l hab ih =>
    rw [splitDouble, if_pos hab] at h
    exact absurd (List.cons.inj h).2 (splitDouble_ne_nil sep l)
  | case4 a b l hab ih =>
    rw [splitDouble, if_neg hab] at h
    obtain ⟨parts, la, he⟩ := splitDouble_eq sep (b :: l)
    rw [he] at h
    cases parts with
    | nil =>
      rw [← ih he]
      exact (List.singleton_inj.1 h).symm
    | cons part parts =>
      exact absurd (List.cons.inj h).2 (List.append_ne_nil_of_right_ne_nil _ (List.cons_ne_nil _ _))

theorem splitDouble_append (h : splitDouble sep xs = parts ++ [last]) (ys : List α) :
    splitDouble sep (xs ++ ys) = parts ++ splitDouble sep (last ++ ys) := by
  induction xs using splitDouble.induct sep generalizing parts last with
  | case1 =>
    obtain ⟨hp, hl⟩ := List.append_inj' (show [] ++ [[]] = parts ++ [last] from h) rfl
    rw [← hp, ← List.singleton_inj.1 hl]
    rfl
  | case2 a =>
    obtain ⟨hp, hl⟩ := List.append_inj' (show [] ++ [[a]] = parts ++ [last] from h) rfl
    rw [← hp, ← List.singleton_inj.1 hl]
    rfl
  | case3 a b l hab ih =>
    obtain ⟨ps, la, he⟩ := splitDouble_eq sep l
    rw [splitDouble, if_pos hab, he, ← List.cons_append] at h
    obtain ⟨hp, hl⟩ := List.append_inj' h rfl
    rw [← hp, ← List.singleton_inj.1 hl, List.cons_append, List.cons_append, splitDouble,
      if_pos hab, ih he]
    rfl
  | case4 a b l hab ih =>
    obtain ⟨ps, la, he⟩ := splitDouble_eq sep (b :: l)
    rw [splitDouble, if_neg hab, he] at h
    cases ps with
    | nil =>
      obtain ⟨hp, hl⟩ := List.append_inj' (show [] ++ [a :: la] = parts ++ [last] from h) rfl
      rw [← hp, ← List.singleton_inj.1 hl, splitDouble_single he]
      rfl
    | cons part ps =>
      rw [prepend_append _ (List.cons_ne_nil _ _)] at h
      obtain ⟨hp, hl⟩ := List.append_inj' h rfl
      rw [← hp, ← List.singleton_inj.1 hl, List.cons_append, List.cons_append, splitDouble,
        if_neg hab, ← List.cons_append, ih he, prepend_append _ (List.cons_ne_nil _ _)]

theorem splitDouble_last (h : splitDouble sep xs = parts ++ [last]) :
    splitDouble sep last = [last] := by
  have ha := splitDouble_append h []
  rw [List.append_nil, List.append_nil, h] at ha
  exact (List.append_cancel_left ha).symm

/-- However a text is cut into pieces, its reader finds the same parts. -/
theorem feedAll_eq (buffer : List α) (pieces : List (List α))
    (hb : splitDouble sep buffer = [buffer]) :
    feedAll sep buffer pieces = feed sep buffer pieces.flatten := by
  induction pieces generalizing buffer with
  | nil =>
    rw [feedAll, feed, List.flatten_nil, List.append_nil, hb]
    rfl
  | cons piece pieces ih =>
    obtain ⟨parts, last, hp⟩ := splitDouble_eq sep (buffer ++ piece)
    obtain ⟨more, end', hm⟩ := splitDouble_eq sep (last ++ pieces.flatten)
    have hall : splitDouble sep (buffer ++ (piece ++ pieces.flatten)) =
        (parts ++ more) ++ [end'] := by
      rw [← List.append_assoc, splitDouble_append hp, hm, List.append_assoc]
    simp only [feedAll, feed, hp, List.dropLast_concat, List.getLast?_concat, Option.getD_some,
      ih last (splitDouble_last hp), List.flatten_cons, hall, hm]

theorem splitDouble_sep (l : List α) :
    splitDouble sep (sep :: sep :: l) = [] :: splitDouble sep l := by
  rw [splitDouble, if_pos ⟨rfl, rfl⟩]

theorem splitDouble_other (a b : α) (l : List α) (h : ¬ (a = sep ∧ b = sep)) :
    splitDouble sep (a :: b :: l) = prepend [a] (splitDouble sep (b :: l)) := by
  rw [splitDouble, if_neg h]

theorem splitDouble_line (h : sep ∉ line) (l : List α) :
    splitDouble sep (line ++ l) = prepend line (splitDouble sep l) := by
  induction line with
  | nil =>
    obtain ⟨parts, last, hl⟩ := splitDouble_eq sep l
    rw [List.nil_append, hl]
    cases parts <;> rfl
  | cons a line ih =>
    have ha : a ≠ sep := fun he => h (he ▸ List.mem_cons_self)
    have ih := ih (fun hm => h (List.mem_cons_of_mem _ hm))
    cases ht : line ++ l with
    | nil =>
      obtain ⟨rfl, rfl⟩ := List.append_eq_nil_iff.1 ht
      rfl
    | cons b rest =>
      rw [List.cons_append, ht, splitDouble_other a b rest (fun he => ha he.1), ← ht, ih,
        prepend_prepend]
      rfl

theorem splitDouble_frame (h : ∀ line ∈ lines, line ≠ [] ∧ sep ∉ line) (hne : lines ≠ [])
    (l : List α) : splitDouble sep ([sep].intercalate lines ++ sep :: sep :: l) =
      [sep].intercalate lines :: splitDouble sep l := by
  induction lines with
  | nil => exact absurd rfl hne
  | cons line lines ih =>
    have hline := (h line List.mem_cons_self).2
    cases lines with
    | nil =>
      rw [List.intercalate_singleton, splitDouble_line hline, splitDouble_sep]
      exact congrArg (· :: _) (List.append_nil line)
    | cons next lines =>
      have ih := ih (fun x hx => h x (List.mem_cons_of_mem _ hx)) (List.cons_ne_nil _ _)
      obtain ⟨hnext, hsep⟩ := h next (List.mem_cons_of_mem _ List.mem_cons_self)
      obtain ⟨a, next, rfl⟩ := List.exists_cons_of_ne_nil hnext
      have ha : ¬ (sep = sep ∧ a = sep) := fun he => hsep (he.2 ▸ List.mem_cons_self)
      rw [List.intercalate_cons_cons_left] at ih
      rw [List.intercalate_cons_cons, List.intercalate_cons_cons_left, List.append_assoc,
        List.append_assoc, splitDouble_line hline, List.singleton_append, List.cons_append,
        splitDouble_other sep a _ ha, ← List.cons_append, ih, prepend_prepend]
      rfl

end

end QueryMind.Lib.Frames
