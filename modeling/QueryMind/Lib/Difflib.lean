import Mathlib.Data.List.Basic
import Mathlib.Data.Rat.Defs

namespace QueryMind.Lib.Difflib
set_option autoImplicit true

/-- A common block: where it starts in both texts, and its length. -/
structure Block where
  i : Nat
  j : Nat
  size : Nat
  deriving DecidableEq, Repr

/-- The lengths of the common runs that end in this letter of the first text and in each letter of
the second; popular letters start none. -/
def newRow (popular : Char → Bool) (x : Char) : Nat → List Nat → List Char → List Nat
  | diagonal, above :: row, y :: b =>
    (if x = y ∧ popular y = false then diagonal + 1 else 0) :: newRow popular x above row b
  | _, _, _ => []

def scanRow (i : Nat) : Nat → List Nat → Block → Block
  | _, [], best => best
  | j, size :: row, best =>
    scanRow i (j + 1) row (if size > best.size then ⟨i + 1 - size, j + 1 - size, size⟩ else best)

def scanRows (popular : Char → Bool) (b : List Char) : Nat → List Char → List Nat → Block → Block
  | _, [], _, best => best
  | i, x :: a, row, best =>
    let row := newRow popular x 0 row b
    scanRows popular b (i + 1) a row (scanRow i 0 row best)

def commonPrefixLength : List Char → List Char → Nat
  | x :: a, y :: b => if x = y then commonPrefixLength a b + 1 else 0
  | _, _ => 0

/-- `find_longest_match`: the longest run, the earliest in the first text, then in the second;
extended on both sides by letters that start none. -/
def findLongestMatch (popular : Char → Bool) (a b : List Char) : Block :=
  let best := scanRows popular b 0 a (List.replicate b.length 0) ⟨0, 0, 0⟩
  let before := commonPrefixLength (a.take best.i).reverse (b.take best.j).reverse
  let i := best.i - before
  let j := best.j - before
  let size := best.size + before
  ⟨i, j, size + commonPrefixLength (a.drop (i + size)) (b.drop (j + size))⟩

/-- The letters in the matching blocks. Each part is shorter than `a`, so the fuel is never used
up. -/
def matchedLetters (popular : Char → Bool) : Nat → List Char → List Char → Nat
  | 0, _, _ => 0
  | fuel + 1, a, b =>
    let block := findLongestMatch popular a b
    if block.size = 0 then 0
    else block.size + matchedLetters popular fuel (a.take block.i) (b.take block.j) +
      matchedLetters popular fuel (a.drop (block.i + block.size)) (b.drop (block.j + block.size))

/-- The letters of a long text that make up more than one in a hundred of it. -/
def isPopular (b : List Char) (c : Char) : Bool :=
  200 ≤ b.length && b.count c > b.length / 100 + 1

def ratio (a b : List Char) : Rat :=
  if a.length + b.length = 0 then 1
  else 2 * matchedLetters (isPopular b) (a.length + 1) a b / (a.length + b.length : Nat)

example : ratio "custmer".toList "customer".toList = 14 / 15 := by decide +kernel

end QueryMind.Lib.Difflib
