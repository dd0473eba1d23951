import ServiceShapes.Decoding.Fields
import ServiceShapes.Generation.Context
import ServiceShapes.Toml.Document

/-!
# Configurations as TOML documents

A configuration is a TOML document with a table `codegen`, which names at least the service, and
optionally a table `runtime`.  `Config.load` reads one and checks it.

Tables other than these and fields that are not known are passed over.  A table may also be written
as an array of the values of its fields in their order.  The target is written by its name, or as a
table with its name as the only key and an empty value.
-/

namespace ServiceShapes

namespace Toml

/-- What stands at the place of a value. -/
def found : Toml → Found
  | .string value => .string value
  | .integer value => .integer value
  | .float value => .float value
  | .boolean value => .boolean value
  | .datetime _ | .table .. => .map
  | .array _ | .tables _ => .sequence

/-- The text of an error in a TOML document.  Where in the document the error is, is left open. -/
def errorText (error : DecodeError) : String := error.message decimalStyle

/-- Decodes a string. -/
def decodeString : Toml → Decoded String
  | .string value => .ok value
  | other => .error (.wrongType other.found "a string")

/-- Decodes an id. -/
def decodeId (value : Toml) : Decoded ShapeId := do
  let text ← value.decodeString
  (ShapeId.parse text).mapError .refused

/-- The fields of a record, given its title and the names of its fields in their order.  A date has
none of them. -/
def recordFields (title : String) (names : List String) : Toml → Decoded (Fields Toml)
  | .table _ entries => .ok entries
  | .array items => .ok (names.zip items)
  | .tables items => .ok (names.zip (items.map (.table .header)))
  | .datetime _ => .ok []
  | other => .error (.wrongType other.found ("struct " ++ title))

/-- Checks the value that comes with a choice written as a table: it has to be empty. -/
def decodeEmpty : Toml → Decoded Unit
  | .table _ [] | .array [] | .tables [] => .ok ()
  | .table .. | .array _ => .error (.unsuitableChoice "expected empty table")
  | .tables _ => .error (.unsuitableChoice "expected empty array")
  | other => .error (.unsuitableChoice ("expected table, found " ++ other.typeName))

/-- Decodes a choice, written by its name or as a table with its name as the only key. -/
def decodeChoice {α : Type} (names : List (String × α)) : Toml → Decoded α
  | .string name => variantOfName names name
  | .table _ [] => .error (.unsuitableChoice "wanted exactly 1 element, found 0 elements")
  | .table _ [(name, value)] => do
    let choice ← variantOfName names name
    value.decodeEmpty
    .ok choice
  | .table .. => .error (.unsuitableChoice "wanted exactly 1 element, more than 1 element")
  | _ => .error (.unsuitableChoice "wanted string or table")

end Toml

namespace ModulePaths

/-- The names of the fields. -/
def fieldNames : List String := ["model", "input", "output", "error", "operation"]

/-- Decodes module paths; paths that are left out keep their defaults. -/
def ofToml (value : Toml) : Decoded ModulePaths := do
  let fields ← value.recordFields "ModulePaths" fieldNames
  checkFields (fieldNames.map (·, accepts Toml.decodeString)) fields
  let standard : ModulePaths := {}
  let path (name default : String) : Decoded String :=
    optionalField name default Toml.decodeString fields
  .ok ⟨← path "model" standard.model, ← path "input" standard.input,
    ← path "output" standard.output, ← path "error" standard.error,
    ← path "operation" standard.operation⟩

end ModulePaths

namespace RuntimeCrate

/-- The names of the fields. -/
def fieldNames : List String := ["crate_name", "version", "path"]

/-- Decodes a runtime crate. -/
def ofToml (value : Toml) : Decoded RuntimeCrate := do
  let fields ← value.recordFields "RuntimeConfig" fieldNames
  checkFields (fieldNames.map (·, accepts Toml.decodeString)) fields
  let optional (name : String) : Decoded (Option String) :=
    optionalField name none (fun v => v.decodeString.map some) fields
  .ok ⟨← optionalField "crate_name" ({} : RuntimeCrate).name Toml.decodeString fields,
    ← optional "version", ← optional "path"⟩

end RuntimeCrate

namespace Settings

/-- The fields with their checks. -/
def schema : Schema Toml :=
  [("service", accepts Toml.decodeId), ("target", accepts (Toml.decodeChoice Target.names)),
   ("modules", accepts ModulePaths.ofToml)]

/-- Decodes what is generated. -/
def ofToml : Toml → Decoded Settings
  | .array [] => .error (.wrongLength 0 "struct CodegenSettings with 3 elements")
  | value => do
    let fields ← value.recordFields "CodegenSettings" (schema.map (·.1))
    checkFields schema fields
    .ok ⟨← requiredField "service" Toml.decodeId fields,
      ← optionalField "target" .client (Toml.decodeChoice Target.names) fields,
      ← optionalField "modules" {} ModulePaths.ofToml fields⟩

end Settings

/-- Why a text is not a configuration that can be used. -/
inductive ConfigLoadError
  /-- The text is not TOML.  What is wrong with it, and where, is left open. -/
  | malformed
  /-- The text is TOML, and what it says is not a configuration. -/
  | undecodable (error : DecodeError)
  /-- The configuration is there and is refused. -/
  | invalid (error : ConfigError)
deriving DecidableEq, Repr, Inhabited

namespace Config

/-- The tables of a configuration with their checks. -/
def schema : Schema Toml :=
  [("codegen", accepts Settings.ofToml), ("runtime", accepts RuntimeCrate.ofToml)]

/-- Decodes a configuration. -/
def ofEntries (entries : Toml.Entries) : Decoded Config := do
  checkFields schema entries
  .ok ⟨← requiredField "codegen" Settings.ofToml entries,
    ← optionalField "runtime" {} RuntimeCrate.ofToml entries⟩

/-- The configuration that a text describes, if it can be used. -/
def load (text : String) : Except ConfigLoadError Config := do
  match Toml.read? text with
  | none => .error .malformed
  | some entries =>
    let config ← (ofEntries entries).mapError .undecodable
    match config.fault? with
    | some fault => .error (.invalid fault)
    | none => .ok config

end Config

end ServiceShapes
