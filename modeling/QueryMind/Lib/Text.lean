import Mathlib.Data.List.DropRight
import Mathlib.Data.List.TakeWhile

namespace QueryMind.Lib.Text
set_option autoImplicit true

/-- Unicode white space, as `str.isspace` and the regular expression class `\s` have it. -/
def isSpace (c : Char) : Bool :=
  (9 ≤ c.toNat && c.toNat ≤ 13) || (28 ≤ c.toNat && c.toNat ≤ 32) || c.toNat == 0x85 ||
    c.toNat == 0xa0 || c.toNat == 0x1680 || (0x2000 ≤ c.toNat && c.toNat ≤ 0x200a) ||
    c.toNat == 0x2028 || c.toNat == 0x2029 || c.toNat == 0x202f || c.toNat == 0x205f ||
    c.toNat == 0x3000

def stripChars (l : List Char) : List Char := (l.dropWhile isSpace).rdropWhile isSpace

def strip (s : String) : String := .ofList (stripChars s.toList)

def rstrip (s : String) : String := .ofList (s.toList.rdropWhile isSpace)

def startsWith (s pre : String) : Bool := pre.toList.isPrefixOf s.toList

def endsWith (s suf : String) : Bool := suf.toList.isSuffixOf s.toList

def dropEnd (s : String) (n : Nat) : String := .ofList (s.toList.take (s.length - n))

/-- Lower and upper case of the ASCII letters. -/
def lower (s : String) : String := .ofList (s.toList.map Char.toLower)

def upper (s : String) : String := .ofList (s.toList.map Char.toUpper)

def take (s : String) (n : Nat) : String := .ofList (s.toList.take n)

/-- `split()`: the runs of characters that are no white space. -/
def splitWords (text : List Char) : List String :=
  ((text.splitOnP isSpace).filter fun word => !word.isEmpty).map .ofList

/-- Stripped, in lower case, with underscores as blanks and one blank between words. -/
def spaced (toLower : String → String) (s : String) : String :=
  " ".intercalate (splitWords
    ((toLower (strip s)).toList.map fun c => if c = '_' then ' ' else c))

def trailingBlanks (s : String) : Nat := (s.toList.reverse.takeWhile isSpace).length

theorem length_rstrip (s : String) : (rstrip s).length + trailingBlanks s = s.length := by
  rw [rstrip, trailingBlanks, String.length_ofList, List.rdropWhile, List.length_reverse,
    Nat.add_comm, ← List.length_append, List.takeWhile_append_dropWhile, List.length_reverse,
    String.length_toList]

theorem length_take (s : String) (n : Nat) : (take s n).length = min n s.length := by
  rw [take, String.length_ofList, List.length_take, String.length_toList]

def digitValue (c : Char) : Nat := c.toNat - '0'.toNat

def moreDigits : Nat → List Char → Option Nat
  | n, [] => some n
  | n, '_' :: c :: cs => if c.isDigit then moreDigits (10 * n + digitValue c) cs else none
  | n, c :: cs => if c.isDigit then moreDigits (10 * n + digitValue c) cs else none

def natLiteral? : List Char → Option Nat
  | [] => none
  | c :: cs => if c.isDigit then moreDigits (digitValue c) cs else none

/-- `int(s)` for a string of ASCII digits with an optional sign. -/
def toInt? (s : String) : Option Int :=
  match stripChars s.toList with
  | '-' :: cs => (natLiteral? cs).map (fun n : Nat => -(n : Int))
  | '+' :: cs => (natLiteral? cs).map Int.ofNat
  | cs => (natLiteral? cs).map Int.ofNat

theorem isDigit_range {c : Char} (h : c.isDigit = true) : 48 ≤ c.toNat ∧ c.toNat ≤ 57 := by
  simp only [Char.isDigit, Bool.and_eq_true, decide_eq_true_eq] at h
  exact ⟨h.1, h.2⟩

theorem isSpace_of_isDigit {c : Char} (h : c.isDigit = true) : isSpace c = false := by
  obtain ⟨h₁, h₂⟩ := isDigit_range h
  simp only [isSpace, Bool.or_eq_false_iff, Bool.and_eq_false_iff, decide_eq_false_iff_not,
    beq_eq_false_iff_ne, ne_eq]
  omega

theorem moreDigits_eq (h : ∀ c ∈ cs, c.isDigit = true) :
    moreDigits n cs = some (Nat.ofDigitChars 10 cs n) := by
  induction cs generalizing n with
  | nil => rfl
  | cons c cs ih =>
    have hc := h c (List.mem_cons_self ..)
    have ht := fun c' hm => h c' (List.mem_cons_of_mem c hm)
    rw [moreDigits, if_pos hc, ih ht]
    · rfl
    · rintro c' cs' rfl
      exact absurd hc (by decide)

theorem natLiteral?_eq (hn : cs ≠ []) (h : ∀ c ∈ cs, c.isDigit = true) :
    natLiteral? cs = some (Nat.ofDigitChars 10 cs 0) := by
  cases cs with
  | nil => exact absurd rfl hn
  | cons c cs =>
    have hc := h c (List.mem_cons_self ..)
    rw [natLiteral?, if_pos hc, moreDigits_eq fun c' hm => h c' (List.mem_cons_of_mem c hm)]
    simp [Nat.ofDigitChars, digitValue]

theorem stripChars_eq (h : ∀ c ∈ cs, isSpace c = false) : stripChars cs = cs := by
  rw [stripChars, List.dropWhile_eq_self_iff.2, List.rdropWhile_eq_self_iff.2]
  · intro hn hs
    exact absurd (h _ (List.getLast_mem hn)) (by rw [hs]; decide)
  · intro hl hs
    exact absurd (h _ (List.getElem_mem hl)) (by rw [hs]; decide)

theorem rdropWhile_append {p : α → Bool} {xs ys : List α} (h : ∃ y ∈ ys, p y = false) :
    (xs ++ ys).rdropWhile p = xs ++ ys.rdropWhile p := by
  obtain ⟨y, hy, hp⟩ := h
  have hne : ¬ (ys.reverse.dropWhile p).isEmpty = true := by
    rw [List.isEmpty_iff, List.dropWhile_eq_nil_iff]
    intro hall
    rw [hall y (List.mem_reverse.2 hy)] at hp
    cases hp
  rw [List.rdropWhile, List.reverse_append, List.dropWhile_append, if_neg hne, List.reverse_append,
    List.reverse_reverse]
  rfl

theorem rdropWhile_append_of_all {p : α → Bool} {xs ys : List α} (h : ∀ y ∈ ys, p y = true) :
    (xs ++ ys).rdropWhile p = xs.rdropWhile p := by
  rw [List.rdropWhile, List.reverse_append, List.dropWhile_append_of_pos]
  · rfl
  · intro y hy
    exact h y (List.mem_reverse.1 hy)

theorem rdropWhile_rdropWhile {p q : α → Bool} (h : ∀ x, p x = true → q x = true) (l : List α) :
    (l.rdropWhile p).rdropWhile q = l.rdropWhile q := by
  have hl : l.rdropWhile p ++ l.rtakeWhile p = l := List.rdropWhile_append_rtakeWhile
  conv_rhs => rw [← hl]
  exact (rdropWhile_append_of_all fun x hx => h x (List.mem_rtakeWhile_imp hx)).symm

theorem rdropWhile_dropWhile {p q : α → Bool} (h : ∀ x, p x = true → q x = true) (l : List α) :
    (l.dropWhile p).rdropWhile q = (l.rdropWhile q).dropWhile p := by
  induction l using List.reverseRecOn with
  | nil => rfl
  | append_singleton l x ih =>
    rw [List.dropWhile_append]
    by_cases hq : q x = true
    · rw [List.rdropWhile_concat_pos _ _ _ hq, ← ih]
      split
      · rename_i he
        rw [List.isEmpty_iff.1 he, List.rdropWhile_nil, List.rdropWhile_eq_nil_iff]
        intro y hy
        rw [List.mem_singleton.1 ((List.dropWhile_suffix p).subset hy)]
        exact hq
      · rw [List.rdropWhile_concat_pos _ _ _ hq]
    · have hp : ¬ p x = true := fun hp => hq (h x hp)
      rw [List.rdropWhile_concat_neg _ _ _ hq, List.dropWhile_append]
      split
      · rw [List.dropWhile_cons_of_neg hp, List.rdropWhile_singleton, if_neg hq]
      · rw [List.rdropWhile_concat_neg _ _ _ hq]

theorem stripChars_infix (before cs after : List Char)
    (h : before.head?.any (fun c => !isSpace c) = true)
    (hc : ∃ c ∈ cs, isSpace c = false) :
    cs.rdropWhile isSpace <:+: stripChars (before ++ cs ++ after) := by
  obtain ⟨b, bs, rfl⟩ : ∃ b bs, before = b :: bs := by
    cases before with
    | nil => cases h
    | cons b bs => exact ⟨b, bs, rfl⟩
  have hb : isSpace b = false := by simpa using h
  rw [stripChars, List.cons_append, List.cons_append,
    List.dropWhile_cons_of_neg (by rw [hb]; decide),
    ← List.cons_append, ← List.cons_append, List.append_assoc]
  by_cases ha : ∀ c ∈ after, isSpace c = true
  · rw [← List.append_assoc, rdropWhile_append_of_all ha, rdropWhile_append hc]
    exact ⟨b :: bs, [], List.append_nil _⟩
  · obtain ⟨c, hm, hs⟩ : ∃ c ∈ after, isSpace c = false := by
      simpa only [not_forall, exists_prop, Bool.not_eq_true] using ha
    rw [← List.append_assoc, rdropWhile_append ⟨c, hm, hs⟩]
    obtain ⟨rest, hr⟩ := List.rdropWhile_prefix isSpace cs
    refine ⟨b :: bs, rest ++ after.rdropWhile isSpace, ?_⟩
    rw [← List.append_assoc, List.append_assoc (b :: bs), hr]

theorem isAlphanum_of_isSpace {c : Char} (h : isSpace c = true) : c.isAlphanum = false := by
  simp only [isSpace, Bool.or_eq_true, Bool.and_eq_true, decide_eq_true_eq, beq_iff_eq] at h
  rw [← Bool.not_eq_true]
  intro hc
  change ((decide (c.val ≥ 'A'.val ∧ c.val ≤ 'Z'.val) ||
    (decide (c.val ≥ 'a'.val) && decide (c.val ≤ 'z'.val))) ||
    (decide (c.val ≥ '0'.val) && decide (c.val ≤ '9'.val))) = true at hc
  simp only [Bool.or_eq_true, Bool.and_eq_true, decide_eq_true_eq, ge_iff_le,
    UInt32.le_iff_toNat_le] at hc
  have hn : c.toNat = c.val.toNat := rfl
  have hA : ('A'.val).toNat = 65 := rfl
  have hZ : ('Z'.val).toNat = 90 := rfl
  have ha : ('a'.val).toNat = 97 := rfl
  have hz : ('z'.val).toNat = 122 := rfl
  have h0 : ('0'.val).toNat = 48 := rfl
  have h9 : ('9'.val).toNat = 57 := rfl
  omega

theorem stripChars_blanks_append (h : ∀ c ∈ u, isSpace c = true) (v : List Char) :
    stripChars (u ++ v) = stripChars v := by
  rw [stripChars, stripChars, List.dropWhile_append_of_pos h]

theorem stripChars_dropWhile (l : List Char) :
    stripChars (l.dropWhile isSpace) = stripChars l := by
  conv_rhs => rw [← List.takeWhile_append_dropWhile (p := isSpace) (l := l)]
  exact (stripChars_blanks_append (fun c hc => List.mem_takeWhile_imp hc) _).symm

theorem stripChars_append_blanks (h : ∀ c ∈ v, isSpace c = true) (u : List Char) :
    stripChars (u ++ v) = stripChars u := by
  by_cases hu : ∀ c ∈ u, isSpace c = true
  · have hv : stripChars (v ++ []) = stripChars [] := stripChars_blanks_append h []
    rw [List.append_nil] at hv
    rw [stripChars_blanks_append hu, hv, ← List.append_nil u, stripChars_blanks_append hu]
  · have hne : ¬ (u.dropWhile isSpace).isEmpty = true := by
      rw [List.isEmpty_iff, List.dropWhile_eq_nil_iff]
      exact hu
    rw [stripChars, stripChars, List.dropWhile_append, if_neg hne, rdropWhile_append_of_all h]

def nonblanks (l : List Char) : Nat := l.countP (fun c => !isSpace c)

theorem nonblanks_append (u v : List Char) : nonblanks (u ++ v) = nonblanks u + nonblanks v :=
  List.countP_append

theorem nonblanks_of_none (h : ∀ c ∈ l, isSpace c = false) : nonblanks l = l.length := by
  rw [nonblanks, List.countP_eq_length]
  intro c hc
  rw [h c hc]
  rfl

theorem nonblanks_dropWhile (l : List Char) : nonblanks (l.dropWhile isSpace) = nonblanks l := by
  conv_rhs => rw [← List.takeWhile_append_dropWhile (p := isSpace) (l := l), nonblanks_append]
  have hz : nonblanks (l.takeWhile isSpace) = 0 := by
    rw [nonblanks, List.countP_eq_zero]
    intro c hc
    rw [List.mem_takeWhile_imp hc]
    exact Bool.false_ne_true
  rw [hz, Nat.zero_add]

@[simp] theorem nonblanks_stripChars (l : List Char) : nonblanks (stripChars l) = nonblanks l := by
  have hr (l : List Char) : nonblanks l.reverse = nonblanks l := List.countP_reverse
  rw [stripChars, List.rdropWhile, hr, nonblanks_dropWhile, hr, nonblanks_dropWhile]

theorem nonblanks_le (h : u <+: v) : nonblanks u ≤ nonblanks v :=
  h.sublist.countP_le

theorem repr_digits (n : Nat) : ∀ c ∈ n.repr.toList, c.isDigit = true := by
  rw [Nat.toList_repr]
  exact fun c hc => Nat.isDigit_of_mem_toDigits (by omega) (by omega) hc

theorem natLiteral?_repr (n : Nat) : natLiteral? n.repr.toList = some n := by
  have hne : n.repr.toList ≠ [] := by
    rw [Nat.toList_repr]
    exact Nat.toDigits_ne_nil
  rw [natLiteral?_eq hne (repr_digits n), Nat.toList_repr, Nat.ofDigitChars_ten_toDigits]

@[simp] theorem toInt?_repr (n : Nat) : toInt? n.repr = some (n : Int) := by
  have hd := repr_digits n
  rw [toInt?, stripChars_eq fun c hc => isSpace_of_isDigit (hd c hc)]
  split
  · rename_i cs he
    exact absurd (hd '-' (by rw [he]; exact List.mem_cons_self ..)) (by decide)
  · rename_i cs he
    exact absurd (hd '+' (by rw [he]; exact List.mem_cons_self ..)) (by decide)
  · rw [natLiteral?_repr]
    rfl

@[simp] theorem toInt?_intRepr (n : Int) : toInt? n.repr = some n := by
  cases n with
  | ofNat n => exact toInt?_repr n
  | negSucc n =>
    have hl : (Int.negSucc n).repr.toList = '-' :: (n + 1).repr.toList := String.toList_append
    have hs : ∀ c ∈ '-' :: (n + 1).repr.toList, isSpace c = false := by
      intro c hc
      rcases List.mem_cons.1 hc with rfl | hc
      · rfl
      · exact isSpace_of_isDigit (repr_digits _ c hc)
    rw [toInt?, hl, stripChars_eq hs]
    show (natLiteral? (n + 1).repr.toList).map (fun n : Nat => -(n : Int)) = some (Int.negSucc n)
    rw [natLiteral?_repr, Option.map_some, Int.negSucc_eq]
    rfl

/-- A number with zeros in front of its digits, as `format` pads it to a width. -/
def zeroPadded (width : Nat) (n : Int) : String :=
  if n < 0 then "-" ++ .ofList (List.leftpad (width - 1) '0' n.natAbs.repr.toList)
  else .ofList (List.leftpad width '0' n.natAbs.repr.toList)

theorem ofDigitChars_leftpad (width n : Nat) :
    Nat.ofDigitChars 10 (List.leftpad width '0' n.repr.toList) 0 = n := by
  rw [List.leftpad, Nat.ofDigitChars_append, Nat.ofDigitChars_replicate_zero, Nat.mul_zero,
    Nat.toList_repr, Nat.ofDigitChars_ten_toDigits]

theorem zeroPadded_inj {n m : Nat} (h : zeroPadded width n = zeroPadded width m) : n = m := by
  rw [zeroPadded, zeroPadded, if_neg (by omega), if_neg (by omega), Int.natAbs_natCast,
    Int.natAbs_natCast, String.ofList_inj] at h
  rw [← ofDigitChars_leftpad width n, h, ofDigitChars_leftpad]

/-- Fields in one string: each character escaped, each field closed by a full stop. -/
def packField (s : String) : List Char := s.toList.flatMap (fun c => ['~', c]) ++ ['.']

def pack (fields : List String) : String := .ofList (fields.flatMap packField)

def unpackField : List Char → Option (List Char × List Char)
  | '.' :: cs => some ([], cs)
  | '~' :: c :: cs => (unpackField cs).map (fun r => (c :: r.1, r.2))
  | _ => none

def unpackFields : Nat → List Char → Option (List String)
  | 0, [] => some []
  | 0, _ :: _ => none
  | n + 1, cs => (unpackField cs).bind (fun r => (unpackFields n r.2).map (String.ofList r.1 :: ·))

def unpack (n : Nat) (s : String) : Option (List String) := unpackFields n s.toList

theorem unpackField_packField (s : String) (cs : List Char) :
    unpackField (packField s ++ cs) = some (s.toList, cs) := by
  rw [packField]
  generalize s.toList = l
  induction l with
  | nil => rfl
  | cons c l ih =>
    rw [List.flatMap_cons, List.append_assoc, List.append_assoc]
    rw [List.cons_append, List.cons_append, List.nil_append, unpackField]
    rw [List.append_assoc] at ih
    rw [ih]
    rfl

theorem unpack_pack (fields : List String) :
    unpack fields.length (pack fields) = some fields := by
  rw [unpack, pack, String.toList_ofList]
  induction fields with
  | nil => rfl
  | cons f fields ih =>
    rw [List.length_cons, unpackFields, List.flatMap_cons, unpackField_packField]
    simp only [Option.bind_some, ih, Option.map_some, String.ofList_toList]

end QueryMind.Lib.Text
