import Mathlib.Data.Rat.Init
import Mathlib.Data.Rat.Defs

namespace QueryMind.ResultFormatter
set_option autoImplicit true

/-- A number of the database; a float carries the text of its `repr`. -/
inductive DbNumber
  | int (n : Int)
  | float (q : Rat) (repr : String)
  | decimal (unscaled : Int) (scale : Nat)
  deriving DecidableEq, Repr

/-- What a driver hands over for a cell; temporal values by their ISO texts. -/
inductive RawValue
  | none
  | bool (b : Bool)
  | number (n : DbNumber)
  | datetime (isoformat : String)
  | date (isoformat : String)
  | str (s : String)
  | other (typeName text : String)
  deriving DecidableEq, Repr

def DbNumber.value : DbNumber → Rat
  | .int n => n
  | .float q _ => q
  | .decimal unscaled scale => unscaled / 10 ^ scale

/-- `str(Decimal)`: scientific when more than five zeros would follow the point. -/
def decimalText (unscaled : Int) (scale : Nat) : String :=
  let digits := (toString unscaled.natAbs).toList
  let leftDigits : Int := digits.length - scale
  let dotPlace : Int := if leftDigits > -6 then leftDigits else 1
  let sign := if unscaled < 0 then "-" else ""
  let exponent := if leftDigits = dotPlace then "" else s!"E{leftDigits - dotPlace}"
  if dotPlace ≤ 0 then
    sign ++ "0." ++ .ofList (List.replicate (-dotPlace).toNat '0' ++ digits) ++ exponent
  else if dotPlace ≥ digits.length then sign ++ .ofList digits ++ exponent
  else sign ++ .ofList (digits.take dotPlace.toNat) ++ "." ++
    .ofList (digits.drop dotPlace.toNat) ++ exponent

example : decimalText 950 2 = "9.50" ∧ decimalText (-5) 3 = "-0.005" ∧
    decimalText 1 8 = "1E-8" := by decide

def DbNumber.text : DbNumber → String
  | .int n => toString n
  | .float _ repr => repr
  | .decimal unscaled scale => decimalText unscaled scale

def DbNumber.typeName : DbNumber → String
  | .int _ => "int"
  | .float _ _ => "float"
  | .decimal _ _ => "decimal"

/-- `ValueFormatter._render`: the text of a value, and the type detected. -/
def render : RawValue → String × String
  | .none => ("NULL", "none")
  | .bool b => (if b then "true" else "false", "bool")
  | .number n => (n.text, n.typeName)
  | .datetime isoformat => (isoformat, "datetime")
  | .date isoformat => (isoformat, "date")
  | .str s => (s, "str")
  | .other typeName text => (text, typeName)

end QueryMind.ResultFormatter
