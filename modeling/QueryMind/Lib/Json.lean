import Mathlib.Data.List.Basic
import Mathlib.Data.Rat.Init

namespace QueryMind.Lib
set_option autoImplicit true

/-- A decoded JSON text; an object keeps its members in order. -/
inductive Json
  | null
  | bool (b : Bool)
  | num (q : Rat)
  | str (s : String)
  | arr (items : List Json)
  | obj (members : List (String × Json))

/-- The name of a member or the position of an item. -/
inductive JsonKey
  | name (k : String)
  | index (i : Nat)
  deriving DecidableEq, Repr

namespace Json

def child : Json → JsonKey → Option Json
  | .obj members, .name k => (members.find? (·.1 = k)).map (·.2)
  | .arr items, .index i => items[i]?
  | _, _ => none

def at? : Json → List JsonKey → Option Json
  | j, [] => some j
  | j, k :: path => (j.child k).bind (·.at? path)

section
variable (hidden : String → Bool)

mutual
def mask : Json → Json
  | .arr items => .arr (maskItems items)
  | .obj members => .obj (maskMembers members)
  | j => j

def maskItems : List Json → List Json
  | [] => []
  | j :: js => mask j :: maskItems js

def maskMembers : List (String × Json) → List (String × Json)
  | [] => []
  | (k, j) :: ms => (k, if hidden k then .null else mask j) :: maskMembers ms
end

mutual
def secrets : Json → List Json
  | .arr items => secretsItems items
  | .obj members => secretsMembers members
  | _ => []

def secretsItems : List Json → List Json
  | [] => []
  | j :: js => secrets j ++ secretsItems js

def secretsMembers : List (String × Json) → List Json
  | [] => []
  | (k, j) :: ms => (if hidden k then [j] else secrets j) ++ secretsMembers ms
end

def hides : JsonKey → Bool
  | .name k => hidden k
  | .index _ => false

/-- The hidden values inside the value that a path leads to; the value itself, when the path goes
through a hidden member. -/
def exposed : List JsonKey → Json → List Json
  | [], j => j.secrets hidden
  | k :: path, j =>
    match j.child k with
    | none => []
    | some c => if hides hidden k then (c.at? path).toList else exposed path c

mutual
theorem secrets_length : ∀ {j j' : Json}, j.mask hidden = j'.mask hidden →
    (j.secrets hidden).length = (j'.secrets hidden).length
  | .null, j', h | .bool _, j', h | .num _, j', h | .str _, j', h => by
    cases j' <;> first | rfl | cases h
  | .arr items, j', h => by
    cases j' with
    | arr items' => exact secretsItems_length (Json.arr.inj h)
    | _ => simp only [mask, reduceCtorEq] at h
  | .obj members, j', h => by
    cases j' with
    | obj members' => exact secretsMembers_length (Json.obj.inj h)
    | _ => simp only [mask, reduceCtorEq] at h

theorem secretsItems_length : ∀ {js js' : List Json}, maskItems hidden js = maskItems hidden js' →
    (secretsItems hidden js).length = (secretsItems hidden js').length
  | [], [], _ => rfl
  | [], _ :: _, h | _ :: _, [], h => by simp only [maskItems, reduceCtorEq] at h
  | j :: js, j' :: js', h => by
    obtain ⟨hj, hjs⟩ := List.cons.inj h
    rw [secretsItems, secretsItems, List.length_append, List.length_append, secrets_length hj,
      secretsItems_length hjs]

theorem secretsMembers_length : ∀ {ms ms' : List (String × Json)},
    maskMembers hidden ms = maskMembers hidden ms' →
      (secretsMembers hidden ms).length = (secretsMembers hidden ms').length
  | [], [], _ => rfl
  | [], _ :: _, h | _ :: _, [], h => by simp only [maskMembers, reduceCtorEq] at h
  | (k, j) :: ms, (k', j') :: ms', h => by
    obtain ⟨hj, hms⟩ := List.cons.inj h
    obtain ⟨rfl, hj⟩ := Prod.mk.inj hj
    rw [secretsMembers, secretsMembers, List.length_append, List.length_append,
      secretsMembers_length hms]
    congr 1
    split
    · rfl
    · rename_i hk
      rw [if_neg hk, if_neg hk] at hj
      exact secrets_length hj
end

mutual
/-- A text is what it shows and what it hides. -/
theorem eq_of_mask : ∀ {j j' : Json}, j.mask hidden = j'.mask hidden →
    j.secrets hidden = j'.secrets hidden → j = j'
  | .null, j', h, _ | .bool _, j', h, _ | .num _, j', h, _ | .str _, j', h, _ => by
    cases j' <;> first | exact h | cases h
  | .arr items, j', h, hs => by
    cases j' with
    | arr items' => exact congrArg _ (eq_of_maskItems (Json.arr.inj h) hs)
    | _ => simp only [mask, reduceCtorEq] at h
  | .obj members, j', h, hs => by
    cases j' with
    | obj members' => exact congrArg _ (eq_of_maskMembers (Json.obj.inj h) hs)
    | _ => simp only [mask, reduceCtorEq] at h

theorem eq_of_maskItems : ∀ {js js' : List Json}, maskItems hidden js = maskItems hidden js' →
    secretsItems hidden js = secretsItems hidden js' → js = js'
  | [], [], _, _ => rfl
  | [], _ :: _, h, _ | _ :: _, [], h, _ => by simp only [maskItems, reduceCtorEq] at h
  | j :: js, j' :: js', h, hs => by
    obtain ⟨hj, hjs⟩ := List.cons.inj h
    obtain ⟨hsj, hsjs⟩ := List.append_inj hs (secrets_length hidden hj)
    rw [eq_of_mask hj hsj, eq_of_maskItems hjs hsjs]

theorem eq_of_maskMembers : ∀ {ms ms' : List (String × Json)},
    maskMembers hidden ms = maskMembers hidden ms' →
      secretsMembers hidden ms = secretsMembers hidden ms' → ms = ms'
  | [], [], _, _ => rfl
  | [], _ :: _, h, _ | _ :: _, [], h, _ => by simp only [maskMembers, reduceCtorEq] at h
  | (k, j) :: ms, (k', j') :: ms', h, hs => by
    obtain ⟨hj, hms⟩ := List.cons.inj h
    obtain ⟨rfl, hj⟩ := Prod.mk.inj hj
    rw [secretsMembers, secretsMembers] at hs
    by_cases hk : hidden k = true
    · rw [if_pos hk, if_pos hk] at hs
      obtain ⟨hsj, hsms⟩ := List.append_inj hs rfl
      rw [List.singleton_inj.1 hsj, eq_of_maskMembers hms hsms]
    · rw [if_neg hk, if_neg hk] at hs hj
      obtain ⟨hsj, hsms⟩ := List.append_inj hs (secrets_length hidden hj)
      rw [eq_of_mask hj hsj, eq_of_maskMembers hms hsms]
end

theorem maskItems_eq (js : List Json) : maskItems hidden js = js.map (mask hidden) := by
  induction js with
  | nil => rfl
  | cons j js ih => rw [maskItems, ih, List.map_cons]

theorem find_maskMembers (k : String) (ms : List (String × Json)) :
    ((maskMembers hidden ms).find? (·.1 = k)).map (·.2) =
      ((ms.find? (·.1 = k)).map (·.2)).map fun j => if hidden k then .null else mask hidden j := by
  induction ms with
  | nil => rfl
  | cons m ms ih =>
    obtain ⟨k', j⟩ := m
    rw [maskMembers, List.find?_cons, List.find?_cons]
    by_cases hk : k' = k
    · subst hk
      simp only [decide_true, Option.map_some]
    · simp only [hk, decide_false]
      exact ih

theorem child_mask (j : Json) (k : JsonKey) : (j.mask hidden).child k =
    (j.child k).map fun c => if hides hidden k then .null else c.mask hidden := by
  cases k with
  | name k =>
    cases j with
    | obj members => exact find_maskMembers hidden k members
    | _ => rfl
  | index i =>
    cases j with
    | arr items =>
      simp only [mask, child, maskItems_eq, List.getElem?_map, hides, Bool.false_eq_true, if_false]
    | _ => rfl

/-- Texts that differ in hidden values only agree at a path exactly when they agree in the hidden
values exposed there. -/
theorem at?_eq_iff (path : List JsonKey) : ∀ {j j' : Json}, j.mask hidden = j'.mask hidden →
    (j.at? path = j'.at? path ↔ exposed hidden path j = exposed hidden path j') := by
  induction path with
  | nil =>
    intro j j' h
    simp only [at?, exposed, Option.some.injEq]
    constructor
    · intro he
      rw [he]
    · exact eq_of_mask hidden h
  | cons k path ih =>
    intro j j' h
    have hc := congrArg (child · k) h
    simp only [child_mask] at hc
    rw [at?, at?, exposed, exposed]
    cases hj : j.child k with
    | none =>
      rw [hj, Option.map_none, eq_comm, Option.map_eq_none_iff] at hc
      rw [hc]
      simp
    | some c =>
      rw [hj, Option.map_some, eq_comm, Option.map_eq_some_iff] at hc
      obtain ⟨c', hj', hc⟩ := hc
      rw [hj', Option.bind_some, Option.bind_some]
      simp only
      split
      · cases c.at? path <;> cases c'.at? path <;> simp
      · rename_i hk
        rw [if_neg hk, if_neg hk] at hc
        exact ih hc.symm
end

mutual
def beq : Json → Json → Bool
  | .null, .null => true
  | .bool b, .bool b' => b = b'
  | .num q, .num q' => q = q'
  | .str s, .str s' => s = s'
  | .arr items, .arr items' => beqItems items items'
  | .obj members, .obj members' => beqMembers members members'
  | _, _ => false

def beqItems : List Json → List Json → Bool
  | [], [] => true
  | j :: js, j' :: js' => beq j j' && beqItems js js'
  | _, _ => false

def beqMembers : List (String × Json) → List (String × Json) → Bool
  | [], [] => true
  | (k, j) :: ms, (k', j') :: ms' => k = k' && beq j j' && beqMembers ms ms'
  | _, _ => false
end

mutual
theorem beq_iff : ∀ (j j' : Json), beq j j' = true ↔ j = j'
  | .null, j' | .bool _, j' | .num _, j' | .str _, j' => by
    cases j' <;> simp only [beq, reduceCtorEq, decide_eq_true_eq, Bool.false_eq_true,
      Json.bool.injEq, Json.num.injEq, Json.str.injEq]
  | .arr items, j' => by
    cases j' with
    | arr items' => rw [beq, beqItems_iff, Json.arr.injEq]
    | _ => simp only [beq, reduceCtorEq, Bool.false_eq_true]
  | .obj members, j' => by
    cases j' with
    | obj members' => rw [beq, beqMembers_iff, Json.obj.injEq]
    | _ => simp only [beq, reduceCtorEq, Bool.false_eq_true]

theorem beqItems_iff : ∀ (js js' : List Json), beqItems js js' = true ↔ js = js'
  | [], [] | [], _ :: _ | _ :: _, [] => by simp only [beqItems, reduceCtorEq, Bool.false_eq_true]
  | j :: js, j' :: js' => by
    rw [beqItems, Bool.and_eq_true, beq_iff, beqItems_iff, List.cons.injEq]

theorem beqMembers_iff : ∀ (ms ms' : List (String × Json)), beqMembers ms ms' = true ↔ ms = ms'
  | [], [] | [], _ :: _ | _ :: _, [] => by
    simp only [beqMembers, reduceCtorEq, Bool.false_eq_true]
  | (k, j) :: ms, (k', j') :: ms' => by
    rw [beqMembers, Bool.and_eq_true, Bool.and_eq_true, decide_eq_true_eq, beq_iff,
      beqMembers_iff, List.cons.injEq, Prod.mk.injEq]
end

end Json

end QueryMind.Lib
