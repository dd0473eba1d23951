import ServiceShapes.Decoding.Fields
import ServiceShapes.Json.Printer
import ServiceShapes.Json.Reader
import ServiceShapes.Model.Basic

/-!
# Models as JSON documents

A model is written as `{"shapes": [...]}` with its shapes in order of their ids.

* A shape is one object: `id`, `type`, the fields of its kind, and `traits` unless there are none.
* A trait is one object with its `kind` first.
* `Model.toJson` writes a model and `Model.load` reads one from text.

Reading is more liberal than writing.  Fields may come in any order, fields that are not known are
passed over, and lists and links may be left out.  The document may also be written as an array of
its one field, and a trait as an array that starts with its kind.
-/

namespace ServiceShapes

/-! ### Names -/

namespace Fault

/-- The names of faults. -/
def names : List (String × Fault) := [("client", .client), ("server", .server)]

/-- The name of a fault. -/
def name : Fault → String
  | .client => "client"
  | .server => "server"

end Fault

namespace TraitKind

/-- The names of the kinds of trait, in the order in which messages list them. -/
def names : List (String × TraitKind) :=
  [("streaming", .streaming), ("required", .required), ("error", .error),
   ("documentation", .documentation), ("syntheticInput", .syntheticInput),
   ("syntheticOutput", .syntheticOutput)]

/-- The name of a kind of trait. -/
def name : TraitKind → String
  | .streaming => "streaming"
  | .required => "required"
  | .error => "error"
  | .documentation => "documentation"
  | .syntheticInput => "syntheticInput"
  | .syntheticOutput => "syntheticOutput"

/-- How a kind of trait with a field is called where that field is missing. -/
def title : TraitKind → String
  | .streaming => "Streaming"
  | .required => "Required"
  | .error => "Error"
  | .documentation => "Documentation"
  | .syntheticInput => "SyntheticInput"
  | .syntheticOutput => "SyntheticOutput"

end TraitKind

namespace SimpleType

/-- The names of simple types, in the order in which messages list them. -/
def names : List (String × SimpleType) :=
  [("blob", .blob), ("boolean", .boolean), ("string", .string), ("byte", .byte), ("short", .short),
   ("integer", .integer), ("long", .long), ("float", .float), ("double", .double),
   ("timestamp", .timestamp), ("document", .document)]

/-- The name of a simple type. -/
def name : SimpleType → String
  | .blob => "blob"
  | .boolean => "boolean"
  | .string => "string"
  | .byte => "byte"
  | .short => "short"
  | .integer => "integer"
  | .long => "long"
  | .float => "float"
  | .double => "double"
  | .timestamp => "timestamp"
  | .document => "document"

end SimpleType

/-- What the `type` of a shape can be. -/
inductive ShapeType
  | service
  | operation
  | record
  | union
  | member
  | list
  | map
  | simple
deriving DecidableEq, Repr, Inhabited

namespace ShapeType

/-- The names of shape types, in the order in which messages list them. -/
def names : List (String × ShapeType) :=
  [("service", .service), ("operation", .operation), ("structure", .record), ("union", .union),
   ("member", .member), ("list", .list), ("map", .map), ("simple", .simple)]

/-- The name of a shape type. -/
def name : ShapeType → String
  | .service => "service"
  | .operation => "operation"
  | .record => "structure"
  | .union => "union"
  | .member => "member"
  | .list => "list"
  | .map => "map"
  | .simple => "simple"

end ShapeType

/-- The type of a shape of this kind. -/
def ShapeKind.type : ShapeKind → ShapeType
  | .service _ => .service
  | .operation .. => .operation
  | .aggregate .record _ => .record
  | .aggregate .union _ => .union
  | .member _ => .member
  | .list _ => .list
  | .map .. => .map
  | .simple _ => .simple

/-! ### Writing -/

/-- An id as JSON. -/
def ShapeId.toJson (id : ShapeId) : Json := .string id.toText

/-- A list of ids as JSON. -/
def ShapeId.listToJson (ids : List ShapeId) : Json := .array (ids.map toJson)

namespace Trait

/-- The field of a trait besides its kind. -/
def ownFields : Trait → Fields Json
  | .streaming | .required => []
  | .error fault => [("fault", .string fault.name)]
  | .documentation text => [("text", .string text)]
  | .syntheticInput operation | .syntheticOutput operation => [("operation", operation.toJson)]

/-- A trait as JSON. -/
def toJson (t : Trait) : Json := .object (("kind", .string t.kind.name) :: t.ownFields)

end Trait

/-- The fields of a kind of shape. -/
def ShapeKind.ownFields : ShapeKind → Fields Json
  | .service operations => [("operations", ShapeId.listToJson operations)]
  | .operation input output errors =>
    [("input", input.elim .null ShapeId.toJson), ("output", output.elim .null ShapeId.toJson),
     ("errors", ShapeId.listToJson errors)]
  | .aggregate _ members => [("members", Json.strings members)]
  | .member target => [("target", target.toJson)]
  | .list item => [("member", item.toJson)]
  | .map key value => [("key", key.toJson), ("value", value.toJson)]
  | .simple type => [("simple", .string type.name)]

namespace Shape

/-- The field for traits, left out when there are none. -/
def traitFields (s : Shape) : Fields Json :=
  if s.traits.isEmpty then [] else [("traits", .array (s.traits.toList.map Trait.toJson))]

/-- A shape as JSON. -/
def toJson (s : Shape) : Json :=
  .object (("id", s.id.toJson) :: ("type", .string s.kind.type.name) ::
    (s.kind.ownFields ++ s.traitFields))

end Shape

namespace Model

/-- A model as JSON. -/
def toJson (m : Model) : Json := .object [("shapes", .array (m.shapes.map Shape.toJson))]

/-- The text of a model. -/
def toText (m : Model) : String := m.toJson.toText

end Model

/-! ### Decoding -/

namespace Json

/-- What stands at the place of a value. -/
def found : Json → Found
  | .null | .broken => .null
  | .boolean value => .boolean value
  | .integer value => .integer value
  | .float value => .float value
  | .string value => .string value
  | .array _ => .sequence
  | .object _ => .map

/-- The text of an error in a JSON document.  Where in the document the error is, is left open. -/
def errorText (error : DecodeError) : String := error.message decimalStyle

/-- Decodes a string. -/
def decodeString : Json → Decoded String
  | .string value => .ok value
  | other => .error (.wrongType other.found "a string")

/-- Decodes a list, item by item. -/
def decodeList {α : Type} (decode : Json → Decoded α) : Json → Decoded (List α)
  | .array items => items.mapM decode
  | other => .error (.wrongType other.found "a sequence")

/-- Decodes a value that may be null. -/
def decodeNullable {α : Type} (decode : Json → Decoded α) : Json → Decoded (Option α)
  | .null => .ok none
  | other => (decode other).map some

/-- Decodes an id. -/
def decodeId (value : Json) : Decoded ShapeId := do
  let text ← value.decodeString
  (ShapeId.parse text).mapError .refused

/-- Checks the value that comes with a choice written as an object: it has to be empty. -/
def decodeUnit : Json → Decoded Unit
  | .null | .object [] => .ok ()
  | other => .error (.wrongType other.found "unit")

/-- Decodes a choice, written by its name or as an object with its name as the only field. -/
def decodeChoice {α : Type} (names : List (String × α)) : Json → Decoded α
  | .string name => variantOfName names name
  | .object [(name, value)] => do
    let choice ← variantOfName names name
    value.decodeUnit
    .ok choice
  | .object _ => .error (.wrongValue .map "map with a single key")
  | other => .error (.wrongType other.found "string or map")

/-- Decodes a choice that is written by its name. -/
def decodeName {α : Type} (names : List (String × α)) : Json → Decoded α
  | .string name => variantOfName names name
  | other => .error (.wrongType other.found "variant identifier")

/-- Decodes a choice that is written by its name or by its number in the table. -/
def decodeNameOrNumber {α : Type} (names : List (String × α)) : Json → Decoded α
  | .integer (.ofNat n) => match names[n]? with
    | some (_, choice) => .ok choice
    | none => .error (.wrongValue (.integer n)
        ("variant index 0 <= i < " ++ toString names.length))
  | other => decodeName names other

end Json

namespace Trait

/-- The one field of a trait besides its kind, with the decoder of the trait from that field;
`none` for the kinds without a field. -/
def fieldOf : TraitKind → Option (String × (Json → Decoded Trait))
  | .streaming | .required => none
  | .error => some ("fault", fun v => (v.decodeChoice Fault.names).map .error)
  | .documentation => some ("text", fun v => v.decodeString.map .documentation)
  | .syntheticInput => some ("operation", fun v => v.decodeId.map .syntheticInput)
  | .syntheticOutput => some ("operation", fun v => v.decodeId.map .syntheticOutput)

/-- The trait of a kind without a field; any kind with a field is required elsewhere. -/
def ofBareKind : TraitKind → Trait
  | .streaming => .streaming
  | _ => .required

/-- Decodes a trait of a known kind from its other fields. -/
def ofFields (kind : TraitKind) (fields : Fields Json) : Decoded Trait :=
  match fieldOf kind with
  | none => .ok (ofBareKind kind)
  | some (name, decode) => do
    checkFields [(name, accepts decode)] fields
    requiredField name decode fields

/-- How the number of items in a sequence is called. -/
def itemsInSequence (n : Nat) : String :=
  toString n ++ (if n = 1 then " element in sequence" else " elements in sequence")

/-- Decodes a trait of a known kind from the items that follow the kind in an array. -/
def ofItems (kind : TraitKind) (items : List Json) : Decoded Trait :=
  match fieldOf kind, items with
  | none, [] => .ok (ofBareKind kind)
  | none, _ => .error (.wrongLength items.length (itemsInSequence 0))
  | some _, [] =>
    .error (.wrongLength 0 ("struct variant Trait::" ++ kind.title ++ " with 1 element"))
  | some (_, decode), item :: rest => do
    let t ← decode item
    if rest.isEmpty then .ok t
    else .error (.wrongLength items.length (itemsInSequence 1))

/-- Decodes a trait. -/
def ofJson : Json → Decoded Trait
  | .object fields => do
    checkFields [("kind", accepts (Json.decodeName TraitKind.names))] fields
    let kind ← requiredField "kind" (Json.decodeName TraitKind.names) fields
    ofFields kind (withoutFields ["kind"] fields)
  | .array [] => .error (.missingField "kind")
  | .array (kind :: items) => do
    let kind ← kind.decodeName TraitKind.names
    ofItems kind items
  | other => .error (.wrongType other.found "internally tagged enum Trait")

end Trait

/-- Decodes a trait list as it stands, repetitions included. -/
def TraitSet.ofJson (value : Json) : Decoded TraitSet :=
  (value.decodeList Trait.ofJson).map .mk

namespace ShapeKind

/-- The fields that shapes of a type have, with their checks. -/
def schema : ShapeType → Schema Json
  | .service => [("operations", accepts (Json.decodeList Json.decodeId))]
  | .operation =>
    [("input", accepts (Json.decodeNullable Json.decodeId)),
     ("output", accepts (Json.decodeNullable Json.decodeId)),
     ("errors", accepts (Json.decodeList Json.decodeId))]
  | .record | .union => [("members", accepts (Json.decodeList Json.decodeString))]
  | .member => [("target", accepts Json.decodeId)]
  | .list => [("member", accepts Json.decodeId)]
  | .map => [("key", accepts Json.decodeId), ("value", accepts Json.decodeId)]
  | .simple => [("simple", accepts (Json.decodeChoice SimpleType.names))]

/-- Decodes the kind of a shape of a known type from its checked fields. -/
def ofCheckedFields (fields : Fields Json) : ShapeType → Decoded ShapeKind
  | .service => (optionalField "operations" [] (Json.decodeList Json.decodeId) fields).map .service
  | .operation => do
    let input ← optionalField "input" none (Json.decodeNullable Json.decodeId) fields
    let output ← optionalField "output" none (Json.decodeNullable Json.decodeId) fields
    let errors ← optionalField "errors" [] (Json.decodeList Json.decodeId) fields
    .ok (.operation input output errors)
  | .record =>
    (optionalField "members" [] (Json.decodeList Json.decodeString) fields).map (.aggregate .record)
  | .union =>
    (optionalField "members" [] (Json.decodeList Json.decodeString) fields).map (.aggregate .union)
  | .member => (requiredField "target" Json.decodeId fields).map .member
  | .list => (requiredField "member" Json.decodeId fields).map .list
  | .map => do
    let key ← requiredField "key" Json.decodeId fields
    let value ← requiredField "value" Json.decodeId fields
    .ok (.map key value)
  | .simple => (requiredField "simple" (Json.decodeChoice SimpleType.names) fields).map .simple

/-- Decodes the kind of a shape from all fields but its id and traits. -/
def ofFields (fields : Fields Json) : Decoded ShapeKind := do
  checkFields [("type", accepts (Json.decodeNameOrNumber ShapeType.names))] fields
  let type ← requiredField "type" (Json.decodeNameOrNumber ShapeType.names) fields
  let own := withoutFields ["type"] fields
  checkFields (schema type) own
  ofCheckedFields own type

end ShapeKind

namespace Shape

/-- The fields that every shape has, with their checks. -/
def schema : Schema Json := [("id", accepts Json.decodeId), ("traits", accepts TraitSet.ofJson)]

/-- Decodes a shape. -/
def ofJson : Json → Decoded Shape
  | .object fields => do
    checkFields schema fields
    let id ← requiredField "id" Json.decodeId fields
    let traits ← optionalField "traits" .empty TraitSet.ofJson fields
    let kind ← ShapeKind.ofFields (withoutFields ["id", "traits"] fields)
    .ok ⟨id, kind, traits⟩
  | other => .error (.wrongType other.found "struct Shape")

end Shape

/-! ### Loading -/

/-- Why a text is not a model. -/
inductive LoadError
  /-- The text is not JSON, or not where it is looked at.  What is wrong with it, where, and whether
  something else comes before that, is left open. -/
  | malformed
  /-- The text is JSON where it is looked at, and what it says is not a model. -/
  | undecodable (error : DecodeError)
deriving DecidableEq, Repr, Inhabited

/-- How deep a document may nest arrays and objects. -/
def maxDepth : Nat := 127

namespace Model

/-- Decodes the list of shapes in a document, one by one. -/
def decodeShapes (value : Json) : Decoded (List Shape) := value.decodeList Shape.ofJson

/-- The shapes of a document. -/
def documentShapes : Json → Decoded (List Shape)
  | .object fields => do
    checkFields [("shapes", accepts decodeShapes)] fields
    requiredField "shapes" decodeShapes fields
  | .array [] => .error (.wrongLength 0 "struct ModelDocument with 1 element")
  | .array (list :: rest) => do
    let shapes ← decodeShapes list
    if rest.isEmpty then .ok shapes else .error .trailingElements
  | other => .error (.wrongType other.found "struct ModelDocument")

/-- The part of a document that a reader looks at: in an object the first `shapes`, in an array the
first item.  Whatever else stands there, a reader skips it or complains that it is there. -/
def usedPart? : Json → Option Json
  | .object fields => fields.lookup "shapes"
  | .array items => items.head?
  | other => some other

/-- Whether everything that a reader looks at is sound and not nested too deeply. -/
def usable (document : Json) : Bool := (usedPart? document).all (Json.fits (maxDepth - 1))

/-- Decodes a model. -/
def ofJson (document : Json) : Decoded Model := do
  let shapes ← documentShapes document
  (ofShapes shapes).mapError .refused

/-- The model that a text describes.  Errors in a document are reported as they are, also where a
part that no one looks at is broken. -/
def load (text : String) : Except LoadError Model :=
  match Json.read? text.toList with
  | none => .error .malformed
  | some document =>
    if usable document then (ofJson document).mapError .undecodable else .error .malformed

end Model

end ServiceShapes
