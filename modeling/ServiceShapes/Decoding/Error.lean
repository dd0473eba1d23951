import ServiceShapes.Decimal.Style
import ServiceShapes.Model.Error
import ServiceShapes.Text.Display

/-!
# Why a document cannot be decoded

A document that is well formed may still not describe what its reader wants.  `DecodeError` lists
the causes and `DecodeError.message` words them; `Found` says what stood where something else was
expected.  Numbers are shown in the style of the format that the document is in.
-/

namespace ServiceShapes

/-- What stands at some place of a document. -/
inductive Found
  | null
  | boolean (value : Bool)
  | integer (value : Int)
  | float (value : Double)
  | string (value : String)
  | sequence
  | map
deriving DecidableEq, Repr, Inhabited

/-- How a found value is named in messages. -/
def Found.describe (style : DecimalStyle) : Found → String
  | .null => "null"
  | .boolean true => "boolean `true`"
  | .boolean false => "boolean `false`"
  | .integer value => "integer `" ++ toString value ++ "`"
  | .float value => "floating point `" ++ value.toText style ++ "`"
  | .string value => "string " ++ Text.displayQuoted value
  | .sequence => "sequence"
  | .map => "map"

/-- Why a well-formed document does not decode. -/
inductive DecodeError
  | missingField (name : String)
  | duplicateField (name : String)
  | unknownVariant (found : String) (variants : List String)
  | wrongType (found : Found) (expected : String)
  | wrongValue (found : Found) (expected : String)
  | wrongLength (length : Nat) (expected : String)
  /-- A sequence goes on after its last expected element. -/
  | trailingElements
  /-- The values are there, but no model or id can be made of them. -/
  | refused (error : ModelError)
  /-- The form in which a choice is written does not name one choice. -/
  | unsuitableChoice (reason : String)
deriving DecidableEq, Repr, Inhabited

namespace DecodeError

/-- A name between backticks. -/
def ticked (name : String) : String := "`" ++ name ++ "`"

/-- The choices named in the message on an unknown one. -/
def describeVariants : List String → String
  | [] => "there are no variants"
  | [a] => "expected " ++ ticked a
  | [a, b] => "expected " ++ ticked a ++ " or " ++ ticked b
  | variants => "expected one of " ++ ", ".intercalate (variants.map ticked)

/-- The text of an error. -/
def message (style : DecimalStyle) : DecodeError → String
  | .missingField name => "missing field " ++ ticked name
  | .duplicateField name => "duplicate field " ++ ticked name
  | .unknownVariant found variants =>
    "unknown variant " ++ ticked found ++ ", " ++ describeVariants variants
  | .wrongType found expected =>
    "invalid type: " ++ found.describe style ++ ", expected " ++ expected
  | .wrongValue found expected =>
    "invalid value: " ++ found.describe style ++ ", expected " ++ expected
  | .wrongLength length expected =>
    "invalid length " ++ toString length ++ ", expected " ++ expected
  | .trailingElements => "trailing characters"
  | .refused error => error.message
  | .unsuitableChoice reason => reason

end DecodeError

/-- The result of decoding. -/
abbrev Decoded (α : Type) := Except DecodeError α

end ServiceShapes
