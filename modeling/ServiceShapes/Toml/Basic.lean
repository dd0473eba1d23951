import ServiceShapes.Decimal.Style

/-!
# TOML values

A TOML value as it is written.  Tables keep the order of their entries.  How a table came to be
matters while a document is read, because it decides what may still be added to it.
-/

namespace ServiceShapes

/-- How a table came to be. -/
inductive TableOrigin
  /-- Written between braces. -/
  | inline
  /-- Opened by a header of its own. -/
  | header
  /-- Named on the way by the header of a table inside it. -/
  | implied
  /-- Named on the way by a dotted key. -/
  | dotted
deriving DecidableEq, Repr, Inhabited

/-- A TOML value. -/
inductive Toml
  | string (value : String)
  | integer (value : Int)
  | float (value : Double)
  | boolean (value : Bool)
  /-- A date, a time, or both joined by `T`. -/
  | datetime (text : String)
  | array (items : List Toml)
  | table (origin : TableOrigin) (entries : List (String × Toml))
  /-- Tables of one name, each opened by a header in double brackets. -/
  | tables (items : List (List (String × Toml)))
deriving Repr, Inhabited

namespace Toml

/-- Numbers of every size are written positionally; a tie goes away from zero. -/
def decimalStyle : DecimalStyle where
  tie := .awayFromZero
  isPositional _ := true

example : (Double.ofDecimal 298023223876953125 (-25)).toText decimalStyle =
    "0.000000029802322387695313" := by decide +kernel

/-- The entries of a table, in order. -/
abbrev Entries := List (String × Toml)

/-- The name of the type of a value. -/
def typeName : Toml → String
  | .string _ => "string"
  | .integer _ => "integer"
  | .float _ => "float"
  | .boolean _ => "boolean"
  | .datetime _ => "datetime"
  | .array _ => "array"
  | .table .inline _ => "inline table"
  | .table _ _ => "table"
  | .tables _ => "array of tables"

end Toml

end ServiceShapes
