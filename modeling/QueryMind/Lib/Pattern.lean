import QueryMind.Lib.Delimited
import QueryMind.Lib.Text

namespace QueryMind.Lib
set_option autoImplicit true

/-- A place in a text: the characters before it, nearest first, and those after it. -/
structure Cursor where
  behind : List Char
  ahead : List Char
  deriving DecidableEq, Repr

/-- A regular expression: every way to match from a cursor, with what it captures, in the order in
which a backtracking matcher tries them. -/
def Pattern (α : Type) := Cursor → List (α × Cursor)

/-- The class `\w`: settled on ASCII and on white space, Unicode's elsewhere. -/
structure WordClass where
  isWord : Char → Bool
  ascii : ∀ c : Char, c.toNat < 128 → isWord c = (c.isAlphanum || c == '_')
  space : ∀ c, Text.isSpace c = true → isWord c = false

def asciiWord : WordClass where
  isWord c := c.isAlphanum || c == '_'
  ascii _ _ := rfl
  space c h := by
    have hu : (c == '_') = false := by
      rw [beq_eq_false_iff_ne]
      rintro rfl
      cases h
    rw [Text.isAlphanum_of_isSpace h, hu]
    rfl

/-- The class `\d` with the value of each digit; digits are word characters. -/
structure DigitClass extends WordClass where
  digit : Char → Option Nat
  digit_lt : ∀ c n, digit c = some n → n < 10
  ascii_digit : ∀ c : Char, c.toNat < 128 →
    digit c = if c.isDigit then some (c.toNat - '0'.toNat) else none
  digit_word : ∀ c, (digit c).isSome = true → isWord c = true

def asciiDigits : DigitClass where
  toWordClass := asciiWord
  digit c := if c.isDigit then some (c.toNat - '0'.toNat) else none
  digit_lt c n h := by
    by_cases hc : c.isDigit = true
    · rw [if_pos hc, Option.some.injEq] at h
      have hn : c.toNat = c.val.toNat := rfl
      have h9 : ('9'.val).toNat = 57 := rfl
      have h0 : '0'.toNat = 48 := rfl
      have hle : c.val ≤ '9'.val := of_decide_eq_true (Bool.and_eq_true_iff.1 hc).2
      rw [UInt32.le_iff_toNat_le] at hle
      omega
    · rw [if_neg hc] at h
      cases h
  ascii_digit _ _ := rfl
  digit_word c h := by
    by_cases hc : c.isDigit = true
    · show (c.isAlphanum || c == '_') = true
      have ha : c.isAlphanum = (c.isAlpha || c.isDigit) := rfl
      rw [ha, hc, Bool.or_true, Bool.true_or]
    · rw [if_neg hc] at h
      cases h

def DigitClass.toNat (w : DigitClass) (cs : List Char) : Nat :=
  cs.foldl (fun n c => n * 10 + (w.digit c).getD 0) 0

def DigitClass.isDigit (w : DigitClass) (c : Char) : Bool := (w.digit c).isSome

theorem DigitClass.isDigit_of_space (w : DigitClass) (h : Text.isSpace c = true) :
    w.isDigit c = false := by
  rw [← Bool.not_eq_true]
  intro hd
  have hw := w.digit_word c hd
  rw [w.space c h] at hw
  cases hw

/-- What was read on the way from one cursor to a later one. -/
def Cursor.textTo (c d : Cursor) : List Char := c.ahead.take (c.ahead.length - d.ahead.length)

theorem textTo_append (b b' u v : List Char) :
    Cursor.textTo ⟨b, u ++ v⟩ ⟨b', v⟩ = u := by
  rw [Cursor.textTo, List.length_append, Nat.add_sub_cancel, List.take_left]

namespace Pattern

instance : Monad Pattern where
  pure a := fun c => [(a, c)]
  bind p f := fun c => (p c).flatMap (fun r => f r.1 r.2)

def or (p q : Pattern α) : Pattern α := fun c => p c ++ q c

def satisfy (p : Char → Bool) : Pattern Char
  | ⟨_, []⟩ => []
  | ⟨behind, x :: xs⟩ => if p x then [(x, ⟨x :: behind, xs⟩)] else []

def classes : List (Char → Bool) → Pattern Unit
  | [] => pure ()
  | p :: ps => do
    let _ ← satisfy p
    classes ps

def literal (text : List Char) : Pattern Unit := classes (text.map fun x y => y == x)

/-- `p*`: as many characters of a class as there are, then fewer. -/
def greedyFrom (p : Char → Bool) : List Char → List Char → List (List Char × Cursor)
  | behind, [] => [([], ⟨behind, []⟩)]
  | behind, x :: xs =>
    (if p x then (greedyFrom p (x :: behind) xs).map (fun r => (x :: r.1, r.2)) else []) ++
      [([], ⟨behind, x :: xs⟩)]

def greedy (p : Char → Bool) : Pattern (List Char) := fun c => greedyFrom p c.behind c.ahead

/-- `p*?`: no character of a class, then more. -/
def lazilyFrom (p : Char → Bool) : List Char → List Char → List (List Char × Cursor)
  | behind, [] => [([], ⟨behind, []⟩)]
  | behind, x :: xs =>
    ([], ⟨behind, x :: xs⟩) ::
      if p x then (lazilyFrom p (x :: behind) xs).map (fun r => (x :: r.1, r.2)) else []

def lazily (p : Char → Bool) : Pattern (List Char) := fun c => lazilyFrom p c.behind c.ahead

def run (p : Char → Bool) : Pattern (List Char) := do
  let x ← satisfy p
  let xs ← greedy p
  pure (x :: xs)

def plus (p : Char → Bool) : Pattern Unit := do
  let _ ← satisfy p
  let _ ← greedy p
  pure ()

/-- `p{0,n}`: as often as it goes, then less often. -/
def upTo : Nat → Pattern Unit → Pattern Unit
  | 0, _ => pure ()
  | n + 1, p => or (do p; upTo n p) (pure ())

/-- `p{0,n}?`: as few times as it goes, then more often. -/
def upToLazily : Nat → Pattern (List α) → Pattern (List α)
  | 0, _ => pure []
  | n + 1, p => or (pure []) (do
    let x ← p
    let xs ← upToLazily n p
    pure (x ++ xs))

def atMostOnce (p : Pattern α) : Pattern (Option α) := or (do let a ← p; pure (some a)) (pure none)

def anyOf : List (Pattern α) → Pattern α
  | [] => fun _ => []
  | p :: ps => p.or (anyOf ps)

def group (p : Pattern Unit) : Pattern (List Char) :=
  fun c => (p c).map (fun r => (c.textTo r.2, r.2))

def boundary (w : WordClass) : Pattern Unit := fun c =>
  if c.behind.head?.any w.isWord == c.ahead.head?.any w.isWord then [] else [((), c)]

/-- `(?<!text)`. -/
def notBehind (text : List Char) : Pattern Unit := fun c =>
  if text.reverse <+: c.behind then [] else [((), c)]

/-- `$`: the end, or before a line feed there. -/
def endOfText : Pattern Unit := fun c =>
  if c.ahead = [] ∨ c.ahead = ['\n'] then [((), c)] else []

/-- The way that a backtracking matcher takes. -/
def first (p : Pattern α) (c : Cursor) : Option (α × Cursor) := (p c).head?

structure Match (α : Type) where
  value : α
  start : Cursor
  stop : Cursor
  deriving DecidableEq, Repr

def Match.text (m : Match α) : List Char := m.start.textTo m.stop

def searchFrom (p : Pattern α) (behind : List Char) : List Char → Option (Match α)
  | [] => (first p ⟨behind, []⟩).map (fun r => ⟨r.1, ⟨behind, []⟩, r.2⟩)
  | x :: xs =>
    match first p ⟨behind, x :: xs⟩ with
    | some r => some ⟨r.1, ⟨behind, x :: xs⟩, r.2⟩
    | none => searchFrom p (x :: behind) xs

/-- `re.search`: the match that begins first. -/
def search (p : Pattern α) (text : List Char) : Option (Match α) := searchFrom p [] text

def Match.span (m : Match α) : Nat × Nat := (m.start.behind.length, m.stop.behind.length)

/-- The matches after some characters that an earlier one has taken. -/
def finditerFrom (p : Pattern α) : Nat → List Char → List Char → List (Match α)
  | _ + 1, _, [] => []
  | 0, behind, [] =>
    match first p ⟨behind, []⟩ with
    | some r => [⟨r.1, ⟨behind, []⟩, r.2⟩]
    | none => []
  | skip + 1, behind, x :: xs => finditerFrom p skip (x :: behind) xs
  | 0, behind, x :: xs =>
    match first p ⟨behind, x :: xs⟩ with
    | some r =>
      ⟨r.1, ⟨behind, x :: xs⟩, r.2⟩ ::
        finditerFrom p (xs.length - r.2.ahead.length) (x :: behind) xs
    | none => finditerFrom p 0 (x :: behind) xs

/-- `re.finditer`, for patterns that match one text at most at a place. -/
def finditer (p : Pattern α) (text : List Char) : List (Match α) := finditerFrom p 0 [] text

def subFrom (p : Pattern Unit) (expansion : List Char) : Nat → List Char → List Char → List Char
  | _, _, [] => []
  | skip + 1, behind, x :: xs => subFrom p expansion skip (x :: behind) xs
  | 0, behind, x :: xs =>
    match first p ⟨behind, x :: xs⟩ with
    | some r => expansion ++ subFrom p expansion (xs.length - r.2.ahead.length) (x :: behind) xs
    | none => x :: subFrom p expansion 0 (x :: behind) xs

/-- `re.sub`, for patterns that match no empty text. -/
def sub (p : Pattern Unit) (expansion text : List Char) : List Char :=
  subFrom p expansion 0 [] text

theorem mem_pure {r : α × Cursor} : r ∈ (pure a : Pattern α) c ↔ r = (a, c) := List.mem_singleton

theorem mem_bind {p : Pattern α} {f : α → Pattern β} {r : β × Cursor} :
    r ∈ (p >>= f) c ↔ ∃ q ∈ p c, r ∈ f q.1 q.2 := List.mem_flatMap

theorem mem_or {p q : Pattern α} {r : α × Cursor} : r ∈ p.or q c ↔ r ∈ p c ∨ r ∈ q c :=
  List.mem_append

theorem mem_satisfy {p : Char → Bool} {r : Char × Cursor} :
    r ∈ satisfy p c ↔ ∃ xs, c.ahead = r.1 :: xs ∧ p r.1 = true ∧ r.2 = ⟨r.1 :: c.behind, xs⟩ := by
  obtain ⟨behind, ahead⟩ := c
  obtain ⟨y, d⟩ := r
  cases ahead with
  | nil =>
    apply iff_of_false List.not_mem_nil
    rintro ⟨xs, h, -⟩
    cases h
  | cons x xs =>
    by_cases hp : p x = true
    · show (y, d) ∈ (if p x then [(x, (⟨x :: behind, xs⟩ : Cursor))] else []) ↔ _
      rw [if_pos hp, List.mem_singleton]
      constructor
      · intro h
        cases h
        exact ⟨xs, rfl, hp, rfl⟩
      · rintro ⟨xs', h, -, hd⟩
        cases h
        exact congrArg _ hd
    · show (y, d) ∈ (if p x then [(x, (⟨x :: behind, xs⟩ : Cursor))] else []) ↔ _
      rw [if_neg hp]
      apply iff_of_false List.not_mem_nil
      rintro ⟨xs', h, hy, -⟩
      cases h
      exact hp hy

theorem mem_literal {text : List Char} {r : Unit × Cursor} :
    r ∈ literal text c ↔ ∃ v, c.ahead = text ++ v ∧ r.2 = ⟨text.reverse ++ c.behind, v⟩ := by
  obtain ⟨u, d⟩ := r
  induction text generalizing c with
  | nil =>
    obtain ⟨behind, ahead⟩ := c
    refine mem_pure.trans ⟨?_, ?_⟩
    · intro h
      cases h
      exact ⟨ahead, rfl, rfl⟩
    · rintro ⟨v, hv, hd⟩
      cases hv
      exact congrArg _ hd
  | cons x text ih =>
    refine mem_bind.trans ⟨?_, ?_⟩
    · rintro ⟨q, hq, hr⟩
      obtain ⟨xs, hc, hx, he⟩ := mem_satisfy.1 hq
      obtain ⟨v, hv, hd⟩ := ih.1 hr
      rw [he] at hv hd
      refine ⟨v, ?_, ?_⟩
      · rw [hc, beq_iff_eq.1 hx]
        exact congrArg _ hv
      · rw [hd, beq_iff_eq.1 hx, List.reverse_cons, List.append_assoc]
        rfl
    · rintro ⟨v, hv, hd⟩
      have hx : (x, (⟨x :: c.behind, text ++ v⟩ : Cursor)) ∈ satisfy (fun y => y == x) c :=
        mem_satisfy.2 ⟨text ++ v, hv, beq_self_eq_true x, rfl⟩
      refine ⟨_, hx, ih.2 ⟨v, rfl, ?_⟩⟩
      rw [hd, List.reverse_cons, List.append_assoc]
      rfl

theorem mem_greedy {p : Char → Bool} {r : List Char × Cursor} :
    r ∈ greedy p c ↔ ∃ v, c.ahead = r.1 ++ v ∧ (∀ x ∈ r.1, p x = true) ∧
      r.2 = ⟨r.1.reverse ++ c.behind, v⟩ := by
  obtain ⟨behind, ahead⟩ := c
  obtain ⟨u, d⟩ := r
  change (u, d) ∈ greedyFrom p behind ahead ↔ _
  induction ahead generalizing behind u with
  | nil =>
    rw [greedyFrom, List.mem_singleton]
    constructor
    · intro h
      cases h
      exact ⟨[], rfl, List.forall_mem_nil _, rfl⟩
    · rintro ⟨v, hv, -, hd⟩
      obtain ⟨rfl, rfl⟩ := List.append_eq_nil_iff.1 hv.symm
      exact congrArg _ hd
  | cons x xs ih =>
    rw [greedyFrom, List.mem_append, List.mem_singleton]
    constructor
    · rintro (h | h)
      · by_cases hp : p x = true
        · rw [if_pos hp] at h
          obtain ⟨⟨u', d'⟩, hq, he⟩ := List.mem_map.1 h
          obtain ⟨v, hv, hu, hd⟩ := (ih (x :: behind) u').1 ((Prod.mk.inj he).2 ▸ hq)
          obtain ⟨rfl, rfl⟩ := Prod.mk.inj he
          refine ⟨v, congrArg _ hv, List.forall_mem_cons.2 ⟨hp, hu⟩, ?_⟩
          rw [List.reverse_cons, List.append_assoc]
          exact hd
        · rw [if_neg hp] at h
          cases h
      · cases h
        exact ⟨x :: xs, rfl, List.forall_mem_nil _, rfl⟩
    · rintro ⟨v, hv, hu, hd⟩
      cases u with
      | nil =>
        right
        cases hv
        exact congrArg _ hd
      | cons y u =>
        left
        obtain ⟨rfl, hxs⟩ := List.cons.inj hv
        rw [if_pos (hu x List.mem_cons_self), List.mem_map]
        refine ⟨(u, d), (ih (x :: behind) u).2 ⟨v, hxs, fun y hy =>
          hu y (List.mem_cons_of_mem x hy), ?_⟩, rfl⟩
        rw [List.reverse_cons, List.append_assoc] at hd
        exact hd

theorem mem_run {p : Char → Bool} {r : List Char × Cursor} :
    r ∈ run p c ↔ ∃ v, r.1 ≠ [] ∧ c.ahead = r.1 ++ v ∧ (∀ x ∈ r.1, p x = true) ∧
      r.2 = ⟨r.1.reverse ++ c.behind, v⟩ := by
  obtain ⟨u, d⟩ := r
  refine mem_bind.trans ⟨?_, ?_⟩
  · rintro ⟨⟨x, d₁⟩, h₁, h⟩
    obtain ⟨⟨xs, d₂⟩, h₂, h⟩ := mem_bind.1 h
    cases mem_pure.1 h
    obtain ⟨ys, hc, hx, he⟩ := mem_satisfy.1 h₁
    dsimp only at hc hx he
    rw [he] at h₂
    obtain ⟨v, hv, hxs, hd⟩ := mem_greedy.1 h₂
    refine ⟨v, List.cons_ne_nil x xs, ?_, List.forall_mem_cons.2 ⟨hx, hxs⟩, ?_⟩
    · rw [hc]
      exact congrArg _ hv
    · rw [List.reverse_cons, List.append_assoc]
      exact hd
  · rintro ⟨v, hne, hv, hu, hd⟩
    obtain ⟨x, xs, rfl⟩ := List.exists_cons_of_ne_nil hne
    obtain ⟨hx, hxs⟩ := List.forall_mem_cons.1 hu
    rw [List.reverse_cons, List.append_assoc] at hd
    refine ⟨(x, ⟨x :: c.behind, xs ++ v⟩), mem_satisfy.2 ⟨xs ++ v, hv, hx, rfl⟩, ?_⟩
    exact mem_bind.2 ⟨(xs, d), mem_greedy.2 ⟨v, rfl, hxs, hd⟩, mem_pure.2 rfl⟩

theorem mem_anyOf {ps : List (Pattern α)} {r : α × Cursor} :
    r ∈ anyOf ps c ↔ ∃ p ∈ ps, r ∈ p c := by
  induction ps with
  | nil =>
    apply iff_of_false List.not_mem_nil
    rintro ⟨p, hp, -⟩
    cases hp
  | cons p ps ih => rw [anyOf, mem_or, ih, List.exists_mem_cons_iff]

theorem mem_boundary {w : WordClass} {r : Unit × Cursor} :
    r ∈ boundary w c ↔
      r.2 = c ∧ c.behind.head?.any w.isWord ≠ c.ahead.head?.any w.isWord := by
  rw [boundary]
  split
  · rename_i h
    exact iff_of_false List.not_mem_nil fun hr => hr.2 (beq_iff_eq.1 h)
  · rename_i h
    rw [List.mem_singleton]
    constructor
    · rintro rfl
      exact ⟨rfl, fun he => h (beq_iff_eq.2 he)⟩
    · rintro ⟨rfl, -⟩
      rfl

theorem mem_of_first {p : Pattern α} (h : first p c = some r) : r ∈ p c := List.mem_of_head? h

theorem le_of_mem_finditerFrom {p : Pattern α} (h : m ∈ finditerFrom p skip behind text) :
    behind.length + skip ≤ m.start.behind.length ∧ (m.value, m.stop) ∈ p m.start := by
  induction text generalizing skip behind with
  | nil =>
    cases skip with
    | succ skip => cases h
    | zero =>
      rw [finditerFrom] at h
      split at h
      · rename_i r hr
        rw [List.mem_singleton.1 h]
        exact ⟨le_refl _, mem_of_first hr⟩
      · cases h
  | cons x xs ih =>
    cases skip with
    | succ skip =>
      obtain ⟨hl, hm⟩ := ih h
      rw [List.length_cons] at hl
      exact ⟨by omega, hm⟩
    | zero =>
      rw [finditerFrom] at h
      split at h
      · rename_i r hr
        rcases List.mem_cons.1 h with rfl | h
        · exact ⟨le_refl _, mem_of_first hr⟩
        · obtain ⟨hl, hm⟩ := ih h
          rw [List.length_cons] at hl
          exact ⟨by omega, hm⟩
      · obtain ⟨hl, hm⟩ := ih h
        rw [List.length_cons] at hl
        exact ⟨by omega, hm⟩

theorem pairwise_finditerFrom (p : Pattern α) (skip : Nat) (behind text : List Char) :
    (finditerFrom p skip behind text).Pairwise
      (fun m n => m.start.behind.length < n.start.behind.length) := by
  induction text generalizing skip behind with
  | nil =>
    cases skip with
    | succ skip => exact .nil
    | zero =>
      rw [finditerFrom]
      split
      · exact List.pairwise_singleton _ _
      · exact .nil
  | cons x xs ih =>
    cases skip with
    | succ skip => exact ih skip (x :: behind)
    | zero =>
      rw [finditerFrom]
      split
      · refine List.pairwise_cons.2 ⟨fun m hm => ?_, ih _ _⟩
        have hl := (le_of_mem_finditerFrom hm).1
        rw [List.length_cons] at hl
        show behind.length < m.start.behind.length
        omega
      · exact ih _ _

theorem first_bind (p : Pattern α) (f : α → Pattern β) (c : Cursor) :
    first (p >>= f) c = (p c).findSome? (fun r => first (f r.1) r.2) := by
  show ((p c).flatMap (fun r => f r.1 r.2)).head? = _
  induction p c with
  | nil => rfl
  | cons r rs ih =>
    rw [List.flatMap_cons, List.head?_append, ih, List.findSome?_cons, first]
    cases (f r.1 r.2).head? with
    | none => rfl
    | some b => rfl

@[simp] theorem satisfy_nil (p : Char → Bool) (behind : List Char) :
    satisfy p ⟨behind, []⟩ = [] := rfl

theorem satisfy_cons (p : Char → Bool) (behind xs : List Char) (x : Char) :
    satisfy p ⟨behind, x :: xs⟩ = if p x then [(x, ⟨x :: behind, xs⟩)] else [] := rfl

theorem first_satisfy_bind (p : Char → Bool) (f : Char → Pattern β) (behind xs : List Char)
    (x : Char) : first (satisfy p >>= f) ⟨behind, x :: xs⟩ =
      if p x then first (f x) ⟨x :: behind, xs⟩ else none := by
  rw [first_bind, satisfy_cons]
  by_cases hp : p x = true
  · rw [if_pos hp, if_pos hp, List.findSome?_singleton]
  · rw [if_neg hp, if_neg hp, List.findSome?_nil]

theorem first_greedy_nil (p : Char → Bool) (f : List Char → Pattern β) (behind : List Char) :
    first (greedy p >>= f) ⟨behind, []⟩ = first (f []) ⟨behind, []⟩ := by
  rw [first_bind, greedy, greedyFrom, List.findSome?_singleton]

theorem first_greedy_cons (p : Char → Bool) (f : List Char → Pattern β) (behind xs : List Char)
    (x : Char) : first (greedy p >>= f) ⟨behind, x :: xs⟩ =
      (if p x then first (greedy p >>= fun l => f (x :: l)) ⟨x :: behind, xs⟩ else none).or
        (first (f []) ⟨behind, x :: xs⟩) := by
  rw [first_bind, greedy, greedyFrom, List.findSome?_append, List.findSome?_singleton]
  by_cases hp : p x = true
  · rw [if_pos hp, if_pos hp, List.findSome?_map, first_bind]
    rfl
  · rw [if_neg hp, if_neg hp, List.findSome?_nil]

theorem first_lazily_nil (p : Char → Bool) (f : List Char → Pattern β) (behind : List Char) :
    first (lazily p >>= f) ⟨behind, []⟩ = first (f []) ⟨behind, []⟩ := by
  rw [first_bind, lazily, lazilyFrom, List.findSome?_singleton]

theorem first_lazily_cons (p : Char → Bool) (f : List Char → Pattern β) (behind xs : List Char)
    (x : Char) : first (lazily p >>= f) ⟨behind, x :: xs⟩ =
      (first (f []) ⟨behind, x :: xs⟩).or
        (if p x then first (lazily p >>= fun l => f (x :: l)) ⟨x :: behind, xs⟩ else none) := by
  rw [first_bind, lazily, lazilyFrom, List.findSome?_cons]
  have hrest : List.findSome? (fun r => first (f r.1) r.2)
      (if p x = true then (lazilyFrom p (x :: behind) xs).map (fun r => (x :: r.1, r.2)) else []) =
      if p x then first (lazily p >>= fun l => f (x :: l)) ⟨x :: behind, xs⟩ else none := by
    by_cases hp : p x = true
    · rw [if_pos hp, if_pos hp, List.findSome?_map, first_bind]
      rfl
    · rw [if_neg hp, if_neg hp, List.findSome?_nil]
  rw [hrest]
  cases first (f []) ⟨behind, x :: xs⟩ with
  | none => rfl
  | some r => rfl

theorem bind_assoc (p : Pattern α) (f : α → Pattern β) (g : β → Pattern γ) :
    p >>= f >>= g = p >>= fun a => f a >>= g := by
  funext c
  exact List.flatMap_assoc

theorem pure_then (a : α) (f : α → Pattern β) : (pure a : Pattern α) >>= f = f a := by
  funext c
  exact List.flatMap_singleton _ _

def fits : List (Char → Bool) → List Char → Bool
  | [], _ => true
  | _ :: _, [] => false
  | p :: ps, x :: xs => p x && fits ps xs

theorem fits_append (h : fits ps xs = true) (ys : List Char) : fits ps (xs ++ ys) = true := by
  induction ps generalizing xs with
  | nil => rfl
  | cons p ps ih =>
    cases xs with
    | nil => cases h
    | cons x xs =>
      rw [fits, Bool.and_eq_true] at h
      rw [List.cons_append, fits, h.1, ih h.2]
      rfl

theorem fits_stop (hy : ∀ p ∈ ps, p y = false) (xs ys : List Char) :
    fits ps (xs ++ y :: ys) = fits ps xs := by
  induction ps generalizing xs with
  | nil => rfl
  | cons p ps ih =>
    cases xs with
    | nil =>
      show (p y && fits ps ys) = false
      rw [hy p List.mem_cons_self, Bool.false_and]
    | cons x xs =>
      rw [List.cons_append, fits, fits, ih fun q hq => hy q (List.mem_cons_of_mem p hq)]

theorem fits_length (h : fits ps xs = true) : ps.length ≤ xs.length := by
  induction ps generalizing xs with
  | nil => exact Nat.zero_le _
  | cons p ps ih =>
    cases xs with
    | nil => cases h
    | cons x xs =>
      rw [fits, Bool.and_eq_true] at h
      exact Nat.succ_le_succ (ih h.2)

theorem first_classes_bind (ps : List (Char → Bool)) (f : Unit → Pattern β)
    (behind xs : List Char) : first (classes ps >>= f) ⟨behind, xs⟩ =
      if fits ps xs then
        first (f ()) ⟨(xs.take ps.length).reverse ++ behind, xs.drop ps.length⟩
      else none := by
  induction ps generalizing behind xs with
  | nil =>
    rw [classes, first_bind]
    exact List.findSome?_singleton
  | cons p ps ih =>
    rw [classes, bind_assoc]
    cases xs with
    | nil =>
      rw [first_bind, satisfy_nil]
      rfl
    | cons x xs =>
      rw [first_satisfy_bind, fits, ih]
      by_cases hp : p x = true
      · rw [if_pos hp, hp, Bool.true_and, List.length_cons, List.take_succ_cons,
          List.reverse_cons, List.append_assoc, List.drop_succ_cons]
        rfl
      · rw [if_neg hp, Bool.eq_false_iff.2 hp, Bool.false_and]
        rfl

theorem fits_literal : fits (text.map fun x y => y == x) xs = true ↔ text <+: xs := by
  induction text generalizing xs with
  | nil => exact ⟨fun _ => List.nil_prefix, fun _ => rfl⟩
  | cons x text ih =>
    cases xs with
    | nil =>
      rw [List.prefix_nil, List.map_cons, fits]
      exact iff_of_false Bool.false_ne_true (List.cons_ne_nil x text)
    | cons y xs =>
      rw [List.map_cons, fits, Bool.and_eq_true, beq_iff_eq, ih, List.cons_prefix_cons, eq_comm]

theorem first_literal_bind (text : List Char) (f : Unit → Pattern β) (behind xs : List Char) :
    first (literal text >>= f) ⟨behind, xs⟩ =
      if text <+: xs then
        first (f ()) ⟨(xs.take text.length).reverse ++ behind, xs.drop text.length⟩
      else none := by
  rw [literal, first_classes_bind, List.length_map]
  by_cases hp : text <+: xs
  · rw [if_pos hp, if_pos (fits_literal.2 hp)]
  · rw [if_neg hp, if_neg fun hf => hp (fits_literal.1 hf)]

theorem first_or_bind (p q : Pattern α) (f : α → Pattern β) (c : Cursor) :
    first (p.or q >>= f) c = (first (p >>= f) c).or (first (q >>= f) c) := by
  show (List.flatMap _ (p c ++ q c)).head? = _
  rw [List.flatMap_append, List.head?_append]
  rfl

theorem first_anyOf_bind (ps : List (Pattern α)) (f : α → Pattern β) (c : Cursor) :
    first (anyOf ps >>= f) c = ps.findSome? fun p => first (p >>= f) c := by
  induction ps with
  | nil => rfl
  | cons p ps ih =>
    rw [anyOf, first_or_bind, ih, List.findSome?_cons]
    cases first (p >>= f) c <;> rfl

theorem first_pure_bind (a : α) (f : α → Pattern β) (c : Cursor) :
    first (pure a >>= f) c = first (f a) c := by
  rw [first_bind]
  exact List.findSome?_singleton

theorem first_upTo_zero (p : Pattern Unit) (f : Unit → Pattern β) (c : Cursor) :
    first (upTo 0 p >>= f) c = first (f ()) c := first_pure_bind () f c

theorem first_upTo_succ (n : Nat) (p : Pattern Unit) (f : Unit → Pattern β) (c : Cursor) :
    first (upTo (n + 1) p >>= f) c =
      (first (p >>= fun _ => upTo n p >>= f) c).or (first (f ()) c) := by
  rw [upTo, first_or_bind, bind_assoc, first_pure_bind]

/-- A greedy run that is passed whole, where the rest of the pattern matches after it. -/
theorem first_greedy_run {f : List Char → Pattern β} {p : Char → Bool}
    (hu : ∀ x ∈ u, p x = true) (hv : v.head?.any p = false)
    (h : first (f u) ⟨u.reverse ++ behind, v⟩ = some r) :
    first (greedy p >>= f) ⟨behind, u ++ v⟩ = some r := by
  induction u generalizing behind f with
  | nil =>
    cases v with
    | nil => exact (first_greedy_nil p f behind).trans h
    | cons y v =>
      have hy : ¬ p y = true := by
        rw [Bool.not_eq_true]
        exact hv
      rw [List.nil_append, first_greedy_cons, if_neg hy]
      exact h
  | cons x u ih =>
    rw [List.reverse_cons, List.append_assoc, List.singleton_append] at h
    have hrun := ih (f := fun l => f (x :: l)) (fun y hy => hu y (List.mem_cons_of_mem x hy)) h
    rw [List.cons_append, first_greedy_cons, if_pos (hu x List.mem_cons_self), hrun]
    rfl

theorem first_run {f : List Char → Pattern β} {p : Char → Bool} (hne : u ≠ [])
    (hu : ∀ x ∈ u, p x = true) (hv : v.head?.any p = false)
    (h : first (f u) ⟨u.reverse ++ behind, v⟩ = some r) :
    first (run p >>= f) ⟨behind, u ++ v⟩ = some r := by
  obtain ⟨x, xs, rfl⟩ := List.exists_cons_of_ne_nil hne
  rw [List.reverse_cons, List.append_assoc, List.singleton_append] at h
  rw [run, bind_assoc, List.cons_append, first_satisfy_bind, if_pos (hu x List.mem_cons_self),
    bind_assoc]
  apply first_greedy_run (fun y hy => hu y (List.mem_cons_of_mem x hy)) hv
  rw [first_pure_bind]
  exact h

theorem first_greedy_whole {f : List Char → Pattern β} {p : Char → Bool}
    (hu : ∀ x ∈ u, p x = true) (hv : v.head?.any p = false)
    (hf : ∀ l x b xs, p x = true → first (f l) ⟨b, x :: xs⟩ = none) :
    first (greedy p >>= f) ⟨behind, u ++ v⟩ = first (f u) ⟨u.reverse ++ behind, v⟩ := by
  induction u generalizing behind f with
  | nil =>
    cases v with
    | nil => exact first_greedy_nil p f behind
    | cons y v =>
      have hy : ¬ p y = true := by
        rw [Bool.not_eq_true]
        exact hv
      rw [List.nil_append, first_greedy_cons, if_neg hy]
      rfl
  | cons x u ih =>
    obtain ⟨hx, hu⟩ := List.forall_mem_cons.1 hu
    rw [List.cons_append, first_greedy_cons, if_pos hx, hf [] x behind (u ++ v) hx, Option.or_none,
      ih hu fun l y b xs hy => hf (x :: l) y b xs hy, List.reverse_cons, List.append_assoc]
    rfl

theorem first_run_whole {f : List Char → Pattern β} {p : Char → Bool} (hne : u ≠ [])
    (hu : ∀ x ∈ u, p x = true) (hv : v.head?.any p = false)
    (hf : ∀ l x b xs, p x = true → first (f l) ⟨b, x :: xs⟩ = none) :
    first (run p >>= f) ⟨behind, u ++ v⟩ = first (f u) ⟨u.reverse ++ behind, v⟩ := by
  obtain ⟨x, xs, rfl⟩ := List.exists_cons_of_ne_nil hne
  obtain ⟨hx, hxs⟩ := List.forall_mem_cons.1 hu
  rw [run, bind_assoc, List.cons_append, first_satisfy_bind, if_pos hx, bind_assoc]
  simp only [pure_then]
  rw [first_greedy_whole hxs hv fun l => hf (x :: l), List.reverse_cons, List.append_assoc]
  rfl

theorem first_run_none {f : List Char → Pattern β} {p : Char → Bool}
    (hv : v.head?.any p = false) : first (run p >>= f) ⟨behind, v⟩ = none := by
  cases v with
  | nil => rfl
  | cons x v =>
    have hx : ¬ p x = true := by
      rw [Bool.not_eq_true]
      exact hv
    rw [run, bind_assoc, first_satisfy_bind, if_neg hx]

def withText (start : Cursor) (f : List Char → Pattern β) : Pattern β :=
  fun d => f (start.textTo d) d

theorem first_group_bind (p : Pattern Unit) (f : List Char → Pattern β) (c : Cursor) :
    first (group p >>= f) c = first (p >>= fun _ => withText c f) c := by
  rw [first_bind, first_bind]
  exact List.findSome?_map

theorem first_withText (f : List Char → Pattern β) (b b' u v : List Char) :
    first (withText ⟨b, u ++ v⟩ f) ⟨b', v⟩ = first (f u) ⟨b', v⟩ := by
  rw [first, withText, textTo_append]
  rfl

theorem plus_eq (p : Char → Bool) : plus p = run p >>= fun _ => pure () := by
  simp only [plus, run, bind_assoc, pure_then]

theorem first_plus_run {f : Unit → Pattern β} {p : Char → Bool} (hne : u ≠ [])
    (hu : ∀ x ∈ u, p x = true) (hv : v.head?.any p = false)
    (h : first (f ()) ⟨u.reverse ++ behind, v⟩ = some r) :
    first (plus p >>= f) ⟨behind, u ++ v⟩ = some r := by
  rw [plus_eq, bind_assoc]
  apply first_run hne hu hv
  rw [first_pure_bind]
  exact h

theorem mem_plus {p : Char → Bool} {r : Unit × Cursor} :
    r ∈ plus p c ↔ ∃ u v, u ≠ [] ∧ c.ahead = u ++ v ∧ (∀ x ∈ u, p x = true) ∧
      r.2 = ⟨u.reverse ++ c.behind, v⟩ := by
  obtain ⟨⟨⟩, d⟩ := r
  rw [plus_eq, mem_bind]
  constructor
  · rintro ⟨⟨u, d'⟩, hu, h⟩
    cases mem_pure.1 h
    obtain ⟨v, h⟩ := mem_run.1 hu
    exact ⟨u, v, h⟩
  · rintro ⟨u, v, h⟩
    exact ⟨(u, d), mem_run.2 ⟨v, h⟩, mem_pure.2 rfl⟩

theorem findSome?_only {l : List α} {g : α → Option β} (hx : x ∈ l)
    (h : ∀ y ∈ l, y ≠ x → g y = none) : l.findSome? g = g x := by
  cases hg : g x with
  | none =>
    rw [List.findSome?_eq_none_iff]
    intro y hy
    by_cases he : y = x
    · rw [he, hg]
    · exact h y hy he
  | some b =>
    have hsome : (l.findSome? g).isSome = true := by
      rw [List.findSome?_isSome_iff]
      exact ⟨x, hx, Option.isSome_of_eq_some hg⟩
    obtain ⟨a, ha⟩ := Option.isSome_iff_exists.1 hsome
    obtain ⟨y, hy, hs⟩ := List.exists_of_findSome?_eq_some ha
    by_cases he : y = x
    · rw [ha, ← hs, he, hg]
    · rw [h y hy he] at hs
      cases hs

theorem first_anyOf_literal {texts : List (List Char)} (hx : x ∈ texts)
    (h : ∀ y ∈ texts, y ≠ x → ¬ y <+: x ++ v) (f : Unit → Pattern β) :
    first (anyOf (texts.map literal) >>= f) ⟨behind, x ++ v⟩ =
      first (f ()) ⟨x.reverse ++ behind, v⟩ := by
  rw [first_anyOf_bind, List.findSome?_map, findSome?_only hx]
  · show first (literal x >>= f) _ = _
    rw [first_literal_bind, if_pos (List.prefix_append _ _), List.take_left, List.drop_left]
  · intro y hy hne
    show first (literal y >>= f) _ = _
    rw [first_literal_bind, if_neg (h y hy hne)]

theorem first_plus_single (f : Unit → Pattern β) {p : Char → Bool} (hx : p x = true)
    (hv : v.head?.any p = false) :
    first (plus p >>= f) ⟨behind, x :: v⟩ = first (f ()) ⟨x :: behind, v⟩ := by
  rw [plus, bind_assoc, first_satisfy_bind, if_pos hx, bind_assoc]
  cases v with
  | nil => rw [first_greedy_nil, first_pure_bind]
  | cons y v =>
    have hy : ¬ p y = true := by
      rw [Bool.not_eq_true]
      exact hv
    rw [first_greedy_cons, if_neg hy, first_pure_bind]
    rfl

theorem first_boundary_bind (w : WordClass) (f : Unit → Pattern β) (c : Cursor) :
    first (boundary w >>= f) c =
      if c.behind.head?.any w.isWord == c.ahead.head?.any w.isWord then none
      else first (f ()) c := by
  rw [first_bind, boundary]
  split
  · rfl
  · exact List.findSome?_singleton

/-- What a pattern captures at each place is a function of the text ahead. -/
def Reads (p : Pattern α) (g : List Char → Option α) : Prop :=
  ∀ c, (first p c).map Prod.fst = g c.ahead

theorem reads_classes {p : Pattern α} (h : Reads p g) (ps : List (Char → Bool)) :
    Reads (classes ps >>= fun _ => p)
      (fun xs => if fits ps xs then g (xs.drop ps.length) else none) := by
  intro c
  rw [first_classes_bind ps _ c.behind c.ahead]
  dsimp only
  by_cases hf : fits ps c.ahead = true
  · rw [if_pos hf, if_pos hf, h]
  · rw [if_neg hf, if_neg hf]
    rfl

theorem reads_literal {p : Pattern α} (h : Reads p g) (text : List Char) :
    Reads (literal text >>= fun _ => p)
      (fun xs => if text <+: xs then g (xs.drop text.length) else none) := by
  intro c
  rw [first_literal_bind text _ c.behind c.ahead]
  dsimp only
  by_cases hf : text <+: c.ahead
  · rw [if_pos hf, if_pos hf, h]
  · rw [if_neg hf, if_neg hf]
    rfl

theorem reads_greedy {f : Pattern α} {p : Char → Bool} (h : Reads f g)
    (hg : ∀ u v, (∀ x ∈ u, p x = true) → g v = none → g (u ++ v) = none) :
    Reads (greedy p >>= fun _ => f) (fun xs => g (xs.dropWhile p)) := by
  rintro ⟨behind, xs⟩
  induction xs generalizing behind with
  | nil =>
    rw [first_greedy_nil]
    exact h _
  | cons x xs ih =>
    rw [first_greedy_cons, Option.map_or, h]
    dsimp only at ih ⊢
    by_cases hp : p x = true
    · rw [if_pos hp, ih, List.dropWhile_cons_of_pos hp]
      cases hn : g (xs.dropWhile p) with
      | some a => rfl
      | none =>
        have hx : x :: xs = (x :: xs.takeWhile p) ++ xs.dropWhile p := by
          rw [List.cons_append, List.takeWhile_append_dropWhile]
        rw [hx, hg _ _ _ hn]
        · rfl
        · intro y hy
          rcases List.mem_cons.1 hy with rfl | hy
          · exact hp
          · exact List.mem_takeWhile_imp hy
    · rw [if_neg hp, List.dropWhile_cons_of_neg hp]
      rfl

theorem reads_until (d : List Char) (k : List Char → α) :
    Reads (lazily (fun _ => true) >>= fun body => literal d >>= fun _ => pure (k body))
      (fun xs => (cut d xs).map (fun r => k r.1)) := by
  rintro ⟨behind, xs⟩
  induction xs generalizing behind k with
  | nil =>
    rw [first_lazily_nil, first_literal_bind]
    dsimp only
    by_cases hd : d = []
    · rw [if_pos (hd ▸ List.nil_prefix), cut, if_pos hd]
      rfl
    · rw [if_neg fun hp => hd (List.prefix_nil.1 hp), cut, if_neg hd]
      rfl
  | cons x xs ih =>
    rw [first_lazily_cons, first_literal_bind, Option.map_or, if_pos rfl, ih fun l => k (x :: l)]
    dsimp only
    rw [cut]
    by_cases hp : d <+: x :: xs
    · rw [if_pos hp, if_pos hp]
      rfl
    · rw [if_neg hp, if_neg hp, Option.map_map]
      rfl

def scan (g : List Char → Option α) : List Char → Option α
  | [] => g []
  | x :: xs => (g (x :: xs)).or (scan g xs)

theorem searchFrom_append {p : Pattern α} (u v : List Char)
    (h : ∀ a b, u = a ++ b → b ≠ [] → first p ⟨a.reverse ++ behind, b ++ v⟩ = none) :
    searchFrom p behind (u ++ v) = searchFrom p (u.reverse ++ behind) v := by
  induction u generalizing behind with
  | nil => rfl
  | cons x u ih =>
    have hx := h [] (x :: u) rfl (List.cons_ne_nil x u)
    rw [List.reverse_nil, List.nil_append, List.cons_append] at hx
    rw [List.cons_append, searchFrom, hx, List.reverse_cons, List.append_assoc]
    apply ih
    intro a b hu hb
    have hab := h (x :: a) b (by rw [hu]; rfl) hb
    rw [List.reverse_cons, List.append_assoc] at hab
    exact hab

theorem searchFrom_of_first {p : Pattern α} (h : first p ⟨behind, text⟩ = some r) :
    searchFrom p behind text = some ⟨r.1, ⟨behind, text⟩, r.2⟩ := by
  cases text with
  | nil => rw [searchFrom, h, Option.map_some]
  | cons x xs => rw [searchFrom, h]

theorem searchFrom_some {p : Pattern α} (h : searchFrom p behind text = some m) :
    ∃ u v, text = u ++ v ∧ m.start = ⟨u.reverse ++ behind, v⟩ ∧
      first p m.start = some (m.value, m.stop) := by
  induction text generalizing behind with
  | nil =>
    obtain ⟨r, hr, rfl⟩ := Option.map_eq_some_iff.1 h
    exact ⟨[], [], rfl, rfl, hr⟩
  | cons x xs ih =>
    rw [searchFrom] at h
    cases hf : first p ⟨behind, x :: xs⟩ with
    | some r =>
      rw [hf] at h
      cases h
      exact ⟨[], x :: xs, rfl, rfl, hf⟩
    | none =>
      rw [hf] at h
      obtain ⟨u, v, hx, hs, hm⟩ := ih h
      rw [hx]
      apply Exists.intro (x :: u)
      apply Exists.intro v
      rw [List.reverse_cons, List.append_assoc]
      exact ⟨rfl, hs, hm⟩

theorem searchFrom_le {p : Pattern α} (u : List Char)
    (h : first p ⟨u.reverse ++ behind, v⟩ = some r) :
    ∃ m, searchFrom p behind (u ++ v) = some m ∧
      m.start.behind.length ≤ u.length + behind.length := by
  induction u generalizing behind with
  | nil =>
    exact ⟨_, searchFrom_of_first h, Nat.le_add_left behind.length 0⟩
  | cons x u ih =>
    rw [List.cons_append, searchFrom]
    cases hf : first p ⟨behind, x :: (u ++ v)⟩ with
    | some q => exact ⟨_, rfl, Nat.le_add_left behind.length _⟩
    | none =>
      rw [List.reverse_cons, List.append_assoc] at h
      obtain ⟨m, hm, hle⟩ := ih h
      rw [List.length_append, List.length_singleton] at hle
      rw [List.length_cons]
      exact ⟨m, hm, by omega⟩

theorem searchFrom_reads {p : Pattern α} (h : Reads p g) (behind text : List Char) :
    (searchFrom p behind text).map Match.value = scan g text := by
  induction text generalizing behind with
  | nil =>
    rw [searchFrom, scan, ← h ⟨behind, []⟩]
    cases first p ⟨behind, []⟩ <;> rfl
  | cons x xs ih =>
    rw [searchFrom, scan, ← h ⟨behind, x :: xs⟩, ← ih (x :: behind)]
    cases first p ⟨behind, x :: xs⟩ <;> rfl

theorem search_reads {p : Pattern α} (h : Reads p g) (text : List Char) :
    (search p text).map Match.value = scan g text := searchFrom_reads h [] text

theorem scan_none {g : List Char → Option α} (h : ∀ y, y <:+ l → g y = none) :
    scan g l = none := by
  induction l with
  | nil => exact h [] List.suffix_rfl
  | cons x xs ih =>
    rw [scan, h _ List.suffix_rfl, ih fun y hy => h y (hy.trans (List.suffix_cons x xs))]
    rfl

theorem scan_append {g : List Char → Option α} (h : ∀ w, w <:+ u → w ≠ [] → g (w ++ v) = none) :
    scan g (u ++ v) = scan g v := by
  induction u with
  | nil => rfl
  | cons x u ih =>
    rw [List.cons_append, scan, ← List.cons_append, h _ List.suffix_rfl (List.cons_ne_nil x u)]
    exact ih fun w hw => h w (hw.trans (List.suffix_cons x u))

theorem scan_some {g : List Char → Option α} (h : g v = some a) : scan g v = some a := by
  cases v with
  | nil => exact h
  | cons x v =>
    rw [scan, h]
    rfl

end Pattern

end QueryMind.Lib
