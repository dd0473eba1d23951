import ServiceShapes.Json.Token

/-!
# Reading JSON

`Json.read?` reads exactly one JSON value from a text.

The reader is a fold over the tokens.  Its state says what may come next and holds the arrays and
objects that are still open, innermost first, each with what has been read of it; `complete` puts a
finished value into the innermost of them.
-/

namespace ServiceShapes.Json

/-- The fields of an object as read: a name with half a surrogate pair is `none`. -/
abbrev ReadFields := List (Option String × Json)

/-- The object with the given fields, or a broken value if a name is broken. -/
def ofFields (fields : ReadFields) : Json :=
  let named? (field : Option String × Json) : Option (String × Json) :=
    field.1.map fun name => (name, field.2)
  (fields.mapM named?).elim .broken .object

/-- An open array or object with what has been read of it, last first. -/
inductive Open
  | array (items : List Json)
  | object (fields : ReadFields) (name : Option String)
deriving Repr

/-- What may come next, with what is open around it. -/
inductive Awaiting
  /-- A value. -/
  | value (around : List Open)
  /-- The first item of an array, or its end. -/
  | firstItem (around : List Open)
  /-- The first field of an object, or its end. -/
  | firstField (around : List Open)
  /-- The name of a further field. -/
  | fieldName (around : List Open) (fields : ReadFields)
  /-- The colon after a name. -/
  | colon (around : List Open) (fields : ReadFields) (name : Option String)
  /-- A comma and a further item, or the end of the array. -/
  | nextItem (around : List Open) (items : List Json)
  /-- A comma and a further field, or the end of the object. -/
  | nextField (around : List Open) (fields : ReadFields)
  /-- Nothing: the value is complete. -/
  | nothing (value : Json)
deriving Repr

namespace Awaiting

/-- Puts a finished value where it belongs. -/
def complete (v : Json) : List Open → Awaiting
  | [] => .nothing v
  | .array items :: around => .nextItem around (v :: items)
  | .object fields name :: around => .nextField around ((name, v) :: fields)

/-- Takes a token that starts a value. -/
def startValue (around : List Open) : Token → Option Awaiting
  | .openArray => some (.firstItem around)
  | .openObject => some (.firstField around)
  | .string text => some (complete (text.elim .broken .string) around)
  | .scalar v => some (complete v around)
  | _ => none

/-- Takes one token. -/
def step : Awaiting → Token → Option Awaiting
  | .value around, t => startValue around t
  | .firstItem around, .closeArray => some (complete (.array []) around)
  | .firstItem around, t => startValue (.array [] :: around) t
  | .firstField around, .closeObject => some (complete (.object []) around)
  | .firstField around, .string name => some (.colon around [] name)
  | .fieldName around fields, .string name => some (.colon around fields name)
  | .colon around fields name, .colon => some (.value (.object fields name :: around))
  | .nextItem around items, .comma => some (.value (.array items :: around))
  | .nextItem around items, .closeArray => some (complete (.array items.reverse) around)
  | .nextField around fields, .comma => some (.fieldName around fields)
  | .nextField around fields, .closeObject => some (complete (ofFields fields.reverse) around)
  | _, _ => none

/-- The value read, if the text may end here. -/
def result? : Awaiting → Option Json
  | .nothing v => some v
  | _ => none

end Awaiting

/-- The value that a list of tokens stands for. -/
def ofTokens? (ts : List Token) : Option Json :=
  (ts.foldlM Awaiting.step (.value [])).bind Awaiting.result?

/-- The value that a text stands for; `none` if it is not JSON. -/
def read? (s : List Char) : Option Json := (tokens? s).bind ofTokens?

end ServiceShapes.Json
