import ServiceShapes.Decoding.Error

/-!
# Fields of records

A record in a document is a list of named fields in the order in which they are written.  A
`Schema` names the fields that a reader knows, each with the check that its value must pass.

`checkFields` walks the fields as they are written and reports the first one that repeats a known
name or fails its check; fields with other names are passed over.  After that, `requiredField` and
`optionalField` look a field up by name, so that what a record means does not depend on the order of
its fields.
-/

namespace ServiceShapes

/-- The fields of a record, as written. -/
abbrev Fields (α : Type) := List (String × α)

/-- The known fields of a record with the check of each. -/
abbrev Schema (α : Type) := List (String × (α → Decoded Unit))

/-- The check that a value decodes. -/
def accepts {α β : Type} (decode : α → Decoded β) (value : α) : Decoded Unit :=
  (decode value).map fun _ => ()

/-- Checks fields in the order in which they are written; `seen` holds the known names met so
far. -/
def checkFieldsFrom {α : Type} (schema : Schema α) (seen : List String) : Fields α → Decoded Unit
  | [] => .ok ()
  | (name, value) :: rest =>
    match schema.lookup name with
    | none => checkFieldsFrom schema seen rest
    | some check =>
      if name ∈ seen then .error (.duplicateField name)
      else match check value with
        | .error e => .error e
        | .ok _ => checkFieldsFrom schema (name :: seen) rest

/-- Reports the first field that repeats a known name or fails its check. -/
def checkFields {α : Type} (schema : Schema α) (fields : Fields α) : Decoded Unit :=
  checkFieldsFrom schema [] fields

/-- The value of a field that must be there. -/
def requiredField {α β : Type} (name : String) (decode : α → Decoded β) (fields : Fields α) : Decoded β :=
  match fields.lookup name with
  | none => .error (.missingField name)
  | some value => decode value

/-- The value of a field that may be left out. -/
def optionalField {α β : Type} (name : String) (default : β) (decode : α → Decoded β)
    (fields : Fields α) : Decoded β :=
  match fields.lookup name with
  | none => .ok default
  | some value => decode value

/-- The fields without those of the given names. -/
def withoutFields {α : Type} (names : List String) (fields : Fields α) : Fields α :=
  fields.filter fun (name, _) => name ∉ names

/-- The choice that `name` stands for, in a table of names. -/
def variantOfName {α : Type} (table : List (String × α)) (name : String) : Decoded α :=
  match table.lookup name with
  | some choice => .ok choice
  | none => .error (.unknownVariant name (table.map (·.1)))

end ServiceShapes
