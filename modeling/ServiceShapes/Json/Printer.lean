import ServiceShapes.Json.Basic
import ServiceShapes.Json.Quoted

/-!
# Writing JSON

`Json.print` writes a value without any white space, fields in their order.
-/

namespace ServiceShapes.Json

mutual

/-- A value as JSON text. -/
def print : Json → List Char
  | .null | .broken => ['n', 'u', 'l', 'l']
  | .boolean true => ['t', 'r', 'u', 'e']
  | .boolean false => ['f', 'a', 'l', 's', 'e']
  | .integer value => (toString value).toList
  | .float value => (value.toText decimalStyle).toList
  | .string value => quote value.toList
  | .array [] => ['[', ']']
  | .array (item :: rest) => '[' :: print item ++ printItems rest
  | .object [] => ['{', '}']
  | .object ((name, value) :: rest) =>
    '{' :: quote name.toList ++ ':' :: print value ++ printFields rest

/-- The items after the first, up to the end of the array. -/
def printItems : List Json → List Char
  | [] => [']']
  | item :: rest => ',' :: print item ++ printItems rest

/-- The fields after the first, up to the end of the object. -/
def printFields : List (String × Json) → List Char
  | [] => ['}']
  | (name, value) :: rest => ',' :: quote name.toList ++ ':' :: print value ++ printFields rest

end

/-- A value as JSON text. -/
def toText (value : Json) : String := String.ofList value.print

/-- An array of strings. -/
def strings (texts : List String) : Json := .array (texts.map .string)

/-- A string, or null where there is none. -/
def stringOrNull (text : Option String) : Json := text.elim .null .string

end ServiceShapes.Json
