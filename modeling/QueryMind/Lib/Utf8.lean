import Mathlib.Data.List.Basic

namespace QueryMind.Lib
set_option autoImplicit true

def utf8 (text : List Char) : List UInt8 := text.flatMap String.utf8EncodeChar

/-- The state of an incremental decoder inside a character: its value so far, the bytes still to
come and the range of the next one. -/
structure Utf8Decoder where
  codePoint : Nat
  needed : Nat
  lower : Nat
  upper : Nat
  deriving DecidableEq, Repr

namespace Utf8Decoder

def initial : Utf8Decoder := ⟨0, 0, 0x80, 0xBF⟩

def replacement : Char := '\uFFFD'

def first (b : UInt8) : List Char × Utf8Decoder :=
  let n := b.toNat
  if n ≤ 0x7F then ([Char.ofNat n], initial)
  else if 0xC2 ≤ n ∧ n ≤ 0xDF then ([], ⟨n % 32, 1, 0x80, 0xBF⟩)
  else if 0xE0 ≤ n ∧ n ≤ 0xEF then
    ([], ⟨n % 16, 2, if n = 0xE0 then 0xA0 else 0x80, if n = 0xED then 0x9F else 0xBF⟩)
  else if 0xF0 ≤ n ∧ n ≤ 0xF4 then
    ([], ⟨n % 8, 3, if n = 0xF0 then 0x90 else 0x80, if n = 0xF4 then 0x8F else 0xBF⟩)
  else ([replacement], initial)

def step (d : Utf8Decoder) (b : UInt8) : List Char × Utf8Decoder :=
  if d.needed = 0 then first b
  else if d.lower ≤ b.toNat ∧ b.toNat ≤ d.upper then
    let codePoint := d.codePoint * 64 + b.toNat % 64
    if d.needed = 1 then ([Char.ofNat codePoint], initial)
    else ([], ⟨codePoint, d.needed - 1, 0x80, 0xBF⟩)
  else (replacement :: (first b).1, (first b).2)

/-- The text that a chunk completes, and where it leaves the decoder. -/
def decode : Utf8Decoder → List UInt8 → List Char × Utf8Decoder
  | d, [] => ([], d)
  | d, b :: bytes =>
    let (text, d) := d.step b
    let (rest, d) := d.decode bytes
    (text ++ rest, d)

theorem decode_append (d : Utf8Decoder) (xs ys : List UInt8) :
    d.decode (xs ++ ys) =
      ((d.decode xs).1 ++ ((d.decode xs).2.decode ys).1, ((d.decode xs).2.decode ys).2) := by
  induction xs generalizing d with
  | nil => rfl
  | cons b xs ih =>
    simp only [List.cons_append, decode, ih, List.append_assoc]

theorem step_first (b : UInt8) : initial.step b = first b := rfl

theorem step_tail (h : t < 64) (hl : l ≤ t + 0x80) (hu : t + 0x80 ≤ u) :
    step ⟨c, n + 2, l, u⟩ (UInt8.ofNat (t + 0x80)) =
      ([], ⟨c * 64 + t, n + 1, 0x80, 0xBF⟩) := by
  have hb : (UInt8.ofNat (t + 0x80)).toNat = t + 0x80 := by
    rw [UInt8.toNat_ofNat']
    omega
  have hm : (t + 0x80) % 64 = t := by omega
  simp only [step, hb, hm]
  rw [if_neg (Nat.succ_ne_zero _), if_pos ⟨hl, hu⟩, if_neg (by omega)]
  rfl

theorem step_last (h : t < 64) (hl : l ≤ t + 0x80) (hu : t + 0x80 ≤ u) :
    step ⟨c, 1, l, u⟩ (UInt8.ofNat (t + 0x80)) =
      ([Char.ofNat (c * 64 + t)], initial) := by
  have hb : (UInt8.ofNat (t + 0x80)).toNat = t + 0x80 := by
    rw [UInt8.toNat_ofNat']
    omega
  have hm : (t + 0x80) % 64 = t := by omega
  simp only [step, hb, hm]
  rw [if_neg Nat.one_ne_zero, if_pos ⟨hl, hu⟩, if_pos trivial]

theorem first_one (h : v ≤ 0x7F) : first (UInt8.ofNat v) = ([Char.ofNat v], initial) := by
  have hb : (UInt8.ofNat v).toNat = v := by
    rw [UInt8.toNat_ofNat']
    omega
  rw [first, hb, if_pos h]

theorem first_two (hl : 2 ≤ t) (hu : t < 32) :
    first (UInt8.ofNat (t + 0xC0)) = ([], ⟨t, 1, 0x80, 0xBF⟩) := by
  have hb : (UInt8.ofNat (t + 0xC0)).toNat = t + 0xC0 := by
    rw [UInt8.toNat_ofNat']
    omega
  have hm : (t + 0xC0) % 32 = t := by omega
  rw [first, hb, if_neg (by omega), if_pos (by omega), hm]

theorem first_three (h : t < 16) :
    first (UInt8.ofNat (t + 0xE0)) =
      ([], ⟨t, 2, if t = 0 then 0xA0 else 0x80, if t = 13 then 0x9F else 0xBF⟩) := by
  have hb : (UInt8.ofNat (t + 0xE0)).toNat = t + 0xE0 := by
    rw [UInt8.toNat_ofNat']
    omega
  have hm : (t + 0xE0) % 16 = t := by omega
  have h0 : t + 0xE0 = 0xE0 ↔ t = 0 := by omega
  have hd : t + 0xE0 = 0xED ↔ t = 13 := by omega
  rw [first, hb, if_neg (by omega), if_neg (by omega), if_pos (by omega), hm]
  simp only [h0, hd]

theorem first_four (h : t < 5) :
    first (UInt8.ofNat (t + 0xF0)) =
      ([], ⟨t, 3, if t = 0 then 0x90 else 0x80, if t = 4 then 0x8F else 0xBF⟩) := by
  have hb : (UInt8.ofNat (t + 0xF0)).toNat = t + 0xF0 := by
    rw [UInt8.toNat_ofNat']
    omega
  have hm : (t + 0xF0) % 8 = t := by omega
  have h0 : t + 0xF0 = 0xF0 ↔ t = 0 := by omega
  have h4 : t + 0xF0 = 0xF4 ↔ t = 4 := by omega
  rw [first, hb, if_neg (by omega), if_neg (by omega), if_neg (by omega), if_pos (by omega), hm]
  simp only [h0, h4]

theorem decode_char (c : Char) :
    initial.decode (String.utf8EncodeChar c) = ([c], initial) := by
  have hc : Char.ofNat c.val.toNat = c := Char.ofNat_toNat c
  have hv : c.val.toNat < 0xD800 ∨ 0xDFFF < c.val.toNat ∧ c.val.toNat < 0x110000 := c.valid
  rw [String.utf8EncodeChar]
  generalize c.val.toNat = v at hc hv
  split
  · rename_i h1
    simp only [decode, step_first, first_one h1, hc, List.append_nil]
  split
  · rename_i h1 h2
    have hf := first_two (t := v / 64 % 32) (by omega) (by omega)
    have hl := step_last (c := v / 64 % 32) (t := v % 64) (l := 0x80) (u := 0xBF)
      (by omega) (by omega) (by omega)
    have he : v / 64 % 32 * 64 + v % 64 = v := by omega
    simp only [decode, step_first, hf, hl, he, hc, List.append_nil, List.nil_append]
  split
  · rename_i h1 h2 h3
    have hf := first_three (t := v / 4096 % 16) (by omega)
    have ht := step_tail (c := v / 4096 % 16) (t := v / 64 % 64) (n := 0)
      (l := if v / 4096 % 16 = 0 then 0xA0 else 0x80)
      (u := if v / 4096 % 16 = 13 then 0x9F else 0xBF)
      (by omega) (by split <;> omega) (by split <;> omega)
    have hl := step_last (c := v / 4096 % 16 * 64 + v / 64 % 64) (t := v % 64) (l := 0x80)
      (u := 0xBF) (by omega) (by omega) (by omega)
    have he : (v / 4096 % 16 * 64 + v / 64 % 64) * 64 + v % 64 = v := by omega
    simp only [decode, step_first, hf, ht, hl, he, hc, List.append_nil, List.nil_append]
  · rename_i h1 h2 h3
    have hf := first_four (t := v / 262144 % 8) (by omega)
    have ht := step_tail (c := v / 262144 % 8) (t := v / 4096 % 64) (n := 1)
      (l := if v / 262144 % 8 = 0 then 0x90 else 0x80)
      (u := if v / 262144 % 8 = 4 then 0x8F else 0xBF)
      (by omega) (by split <;> omega) (by split <;> omega)
    have hm := step_tail (c := v / 262144 % 8 * 64 + v / 4096 % 64) (t := v / 64 % 64) (n := 0)
      (l := 0x80) (u := 0xBF) (by omega) (by omega) (by omega)
    have hl := step_last (c := (v / 262144 % 8 * 64 + v / 4096 % 64) * 64 + v / 64 % 64)
      (t := v % 64) (l := 0x80) (u := 0xBF) (by omega) (by omega) (by omega)
    have he : ((v / 262144 % 8 * 64 + v / 4096 % 64) * 64 + v / 64 % 64) * 64 + v % 64 = v := by
      omega
    simp only [decode, step_first, hf, ht, hm, hl, he, hc, List.append_nil, List.nil_append]

/-- The bytes of a text are decoded to it, and end between two characters. -/
theorem decode_utf8 (text : List Char) : initial.decode (utf8 text) = (text, initial) := by
  induction text with
  | nil => rfl
  | cons c text ih =>
    rw [utf8, List.flatMap_cons, decode_append, decode_char]
    rw [utf8] at ih
    simp only [ih, List.singleton_append]

def decodeAll : Utf8Decoder → List (List UInt8) → List (List Char)
  | _, [] => []
  | d, chunk :: chunks => (d.decode chunk).1 :: (d.decode chunk).2.decodeAll chunks

/-- However the bytes are cut, the pieces make up the text. -/
theorem decodeAll_flatten (d : Utf8Decoder) (chunks : List (List UInt8)) :
    (d.decodeAll chunks).flatten = (d.decode chunks.flatten).1 := by
  induction chunks generalizing d with
  | nil => rfl
  | cons chunk chunks ih =>
    rw [decodeAll, List.flatten_cons, List.flatten_cons, decode_append, ih]

theorem decodeAll_utf8 (h : chunks.flatten = utf8 text) :
    (initial.decodeAll chunks).flatten = text := by
  rw [decodeAll_flatten, h, decode_utf8]

end Utf8Decoder

end QueryMind.Lib
