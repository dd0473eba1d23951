import ServiceShapes.Decimal.Style

/-!
# JSON values

A JSON value as it is written: objects keep the order of their fields and may repeat a name.
Integers that fit into 64 bits, signed or unsigned, are exact; every other number is a double.

`Json.broken` stands for text that has the form of a value but names none: a string with half a
surrogate pair, or a number beyond every double.  Such text does no harm where a value is skipped,
and `Json.fits` tells whether a value can be used.
-/

namespace ServiceShapes

/-- A JSON value. -/
inductive Json
  | null
  | boolean (value : Bool)
  | integer (value : Int)
  | float (value : Double)
  | string (value : String)
  | array (items : List Json)
  | object (fields : List (String × Json))
  | broken
deriving Repr, Inhabited

namespace Json

/-- Numbers from `10 ^ (-5)` on and below `10 ^ 16` are written positionally, all others
scientifically; a tie goes to the even digit. -/
def decimalStyle : DecimalStyle where
  tie := .toEven
  isPositional power := -5 ≤ power && power < 16

example : (Double.ofDecimal 298023223876953125 (-25)).toText decimalStyle =
    "2.9802322387695312e-8" := by decide +kernel

mutual

/-- Whether a value holds nothing broken and nests arrays and objects at most `depth` deep. -/
def fits : (depth : Nat) → Json → Bool
  | _, .broken => false
  | 0, .array _ | 0, .object _ => false
  | depth + 1, .array items => fitsAll depth items
  | depth + 1, .object fields => fitsFields depth fields
  | _, _ => true

/-- Whether all values of a list fit. -/
def fitsAll : (depth : Nat) → List Json → Bool
  | _, [] => true
  | depth, item :: rest => fits depth item && fitsAll depth rest

/-- Whether the values of all fields fit. -/
def fitsFields : (depth : Nat) → List (String × Json) → Bool
  | _, [] => true
  | depth, (_, value) :: rest => fits depth value && fitsFields depth rest

end

end Json

end ServiceShapes
