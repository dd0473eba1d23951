import ServiceShapes.Model.Error

/-!
# Errors of code generation

`GenerationError` lists what can go wrong while symbols are resolved and code is rendered, and
`GenerationError.message` words it.
-/

namespace ServiceShapes

/-- What went wrong while generating code. -/
inductive GenerationError
  | model (error : ModelError)
  | notAService (id : ShapeId)
  | unknownTarget (text : String)
  | unresolvedPlaceholder (name : String)
  /-- A placeholder that starts at this byte is never closed. -/
  | unterminatedPlaceholder (offset : Nat)
  /-- The type of a shape contains itself through lists, maps or members. -/
  | endlessType (id : ShapeId)
deriving DecidableEq, Repr, Inhabited

namespace GenerationError

/-- The text of an error. -/
def message : GenerationError → String
  | .model error => "Model error: " ++ error.message
  | .notAService id => "Shape '" ++ id.toText ++ "' is not a service"
  | .unknownTarget text => "Unknown codegen target: " ++ text
  | .unresolvedPlaceholder name => "Unresolved template placeholder: #\x7b" ++ name ++ "\x7d"
  | .unterminatedPlaceholder offset =>
    "Unterminated template placeholder at byte " ++ toString offset
  | .endlessType id => "Type of shape '" ++ id.toText ++ "' contains itself"

end GenerationError

/-- The result of a step of code generation. -/
abbrev Generated (α : Type) := Except GenerationError α

/-- A result about a model as a result of code generation. -/
def ofModel {α : Type} (r : Except ModelError α) : Generated α := r.mapError .model

end ServiceShapes
