import Mathlib.Data.List.Basic
import Mathlib.Data.Rat.Init

namespace QueryMind.Lib
set_option autoImplicit true

/-- A value that Python's `json` decodes to. -/
inductive PyValue
  | none
  | bool (b : Bool)
  | int (i : Int)
  | float (q : Rat)
  | str (s : String)
  | list (items : List PyValue)
  | dict (entries : List (String × PyValue))

/-- What an operation on such a value raises, with the text of the exception. -/
inductive PyException
  | keyError (text : String)
  | indexError (text : String)
  | typeError (text : String)
  | attributeError (text : String)
  | validationError
  deriving DecidableEq, Repr

namespace PyValue

def typeName : PyValue → String
  | .none => "NoneType"
  | .bool _ => "bool"
  | .int _ => "int"
  | .float _ => "float"
  | .str _ => "str"
  | .list _ => "list"
  | .dict _ => "dict"

def truthy : PyValue → Bool
  | .none => false
  | .bool b => b
  | .int i => i ≠ 0
  | .float q => q ≠ 0
  | .str s => !s.isEmpty
  | .list items => !items.isEmpty
  | .dict entries => !entries.isEmpty

def isDict : PyValue → Bool
  | .dict _ => true
  | _ => false

def member (key : String) : PyValue → Option PyValue
  | .dict entries => entries.lookup key
  | _ => .none

def subscript (key : String) : PyValue → Except PyException PyValue
  | .dict entries =>
    match entries.lookup key with
    | some value => .ok value
    | .none => .error (.keyError s!"'{key}'")
  | .list _ => .error (.typeError "list indices must be integers or slices, not str")
  | .str _ => .error (.typeError "string indices must be integers, not 'str'")
  | value => .error (.typeError s!"'{value.typeName}' object is not subscriptable")

def first : PyValue → Except PyException PyValue
  | .list [] => .error (.indexError "list index out of range")
  | .list (item :: _) => .ok item
  | .str s =>
    match s.toList with
    | [] => .error (.indexError "string index out of range")
    | c :: _ => .ok (.str (.singleton c))
  | .dict _ => .error (.keyError "0")
  | value => .error (.typeError s!"'{value.typeName}' object is not subscriptable")

def get (key : String) (value default : PyValue) : Except PyException PyValue :=
  if value.isDict then .ok ((value.member key).getD default)
  else .error (.attributeError s!"'{value.typeName}' object has no attribute 'get'")

def iterate : PyValue → Except PyException (List PyValue)
  | .list items => .ok items
  | .str s => .ok (s.toList.map fun c => .str (.singleton c))
  | .dict entries => .ok (entries.map fun entry => .str entry.1)
  | value => .error (.typeError s!"'{value.typeName}' object is not iterable")

def asString : PyValue → Option String
  | .str s => some s
  | _ => .none

/-- `"".join(items)`; `index` counts the items before these. -/
def join (index : Nat) : List PyValue → Except PyException String
  | [] => .ok ""
  | .str s :: items => (join (index + 1) items).map (s ++ ·)
  | item :: _ => .error (.typeError
    s!"sequence item {index}: expected str instance, {item.typeName} found")

/-- `table.get(value, default)` for a table with strings as keys. -/
def lookupIn (table : List (String × α)) (default : α) : PyValue → Except PyException α
  | .str s => .ok ((table.lookup s).getD default)
  | .list _ => .error (.typeError "unhashable type: 'list'")
  | .dict _ => .error (.typeError "unhashable type: 'dict'")
  | _ => .ok default

def isHashable : PyValue → Bool
  | .list _ | .dict _ => false
  | _ => true

theorem subscript_ok : subscript key value = .ok item ↔ value.member key = some item := by
  cases value with
  | dict entries =>
    rw [subscript, member]
    cases entries.lookup key with
    | none => simp only [reduceCtorEq]
    | some found => simp only [Except.ok.injEq, Option.some.injEq]
  | _ => simp only [subscript, member, reduceCtorEq]

theorem subscript_error (h : subscript key value = .error e) :
    (∃ text, e = .keyError text) ∨ ∃ text, e = .typeError text := by
  cases value with
  | dict entries =>
    rw [subscript] at h
    cases hl : entries.lookup key with
    | none =>
      rw [hl] at h
      cases h
      exact .inl ⟨_, rfl⟩
    | some found =>
      rw [hl] at h
      cases h
  | _ =>
    cases h
    exact .inr ⟨_, rfl⟩

theorem iterate_error (h : iterate value = .error e) : ∃ text, e = .typeError text := by
  cases value with
  | str s => cases h
  | list items => cases h
  | dict entries => cases h
  | _ =>
    cases h
    exact ⟨_, rfl⟩

theorem first_error (h : first value = .error e) : (∃ text, e = .keyError text) ∨
    (∃ text, e = .indexError text) ∨ ∃ text, e = .typeError text := by
  cases value with
  | list items =>
    cases items with
    | nil =>
      cases h
      exact .inr (.inl ⟨_, rfl⟩)
    | cons item items => cases h
  | str s =>
    rw [first] at h
    cases hs : s.toList with
    | nil =>
      rw [hs] at h
      cases h
      exact .inr (.inl ⟨_, rfl⟩)
    | cons c cs =>
      rw [hs] at h
      cases h
  | dict entries =>
    cases h
    exact .inl ⟨_, rfl⟩
  | _ =>
    cases h
    exact .inr (.inr ⟨_, rfl⟩)

theorem isDict_of_member {value : PyValue} (h : value.member key = some item) :
    value.isDict = true := by
  cases value with
  | dict entries => rfl
  | _ => cases h

theorem get_dict (h : value.isDict = true) (key : String) (default : PyValue) :
    get key value default = .ok ((value.member key).getD default) := if_pos h

theorem get_other (h : value.isDict = false) (key : String) (default : PyValue) :
    get key value default =
      .error (.attributeError s!"'{value.typeName}' object has no attribute 'get'") := by
  rw [get, h]
  rfl

theorem join_ok : join index items = .ok text ↔
    ∃ texts : List String, items = texts.map .str ∧ text = texts.foldr (· ++ ·) "" := by
  induction items generalizing index text with
  | nil =>
    constructor
    · intro h
      cases h
      exact ⟨[], rfl, rfl⟩
    · rintro ⟨texts, ht, rfl⟩
      rw [List.map_eq_nil_iff.1 ht.symm]
      rfl
  | cons item items ih =>
    cases item with
    | str s =>
      rw [join]
      constructor
      · intro h
        cases hj : join (index + 1) items with
        | error e =>
          rw [hj] at h
          cases h
        | ok rest =>
          rw [hj] at h
          cases h
          obtain ⟨texts, rfl, rfl⟩ := ih.1 hj
          exact ⟨s :: texts, rfl, rfl⟩
      · rintro ⟨texts, ht, rfl⟩
        cases texts with
        | nil => cases ht
        | cons t texts =>
          obtain ⟨hs, hrest⟩ := List.cons.inj ht
          cases hs
          rw [ih.2 ⟨texts, hrest, rfl⟩]
          rfl
    | _ =>
      constructor
      · intro h
        cases h
      · rintro ⟨texts, ht, _⟩
        cases texts with
        | nil => cases ht
        | cons t texts => cases (List.cons.inj ht).1

theorem join_error (h : join index items = .error e) : ∃ text, e = .typeError text := by
  induction items generalizing index with
  | nil => cases h
  | cons item items ih =>
    cases item with
    | str s =>
      rw [join] at h
      cases hj : join (index + 1) items with
      | error e' =>
        rw [hj] at h
        cases h
        exact ih hj
      | ok rest =>
        rw [hj] at h
        cases h
    | _ =>
      cases h
      exact ⟨_, rfl⟩

theorem lookupIn_hashable (h : value.isHashable = true) (table : List (String × α)) (default : α) :
    ∃ a, lookupIn table default value = .ok a := by
  cases value with
  | list => cases h
  | dict => cases h
  | _ => exact ⟨_, rfl⟩

theorem lookupIn_unhashable (h : value.isHashable = false) (table : List (String × α))
    (default : α) : ∃ text, lookupIn table default value = .error (.typeError text) := by
  cases value with
  | list => exact ⟨_, rfl⟩
  | dict => exact ⟨_, rfl⟩
  | _ => cases h

end PyValue
end QueryMind.Lib
