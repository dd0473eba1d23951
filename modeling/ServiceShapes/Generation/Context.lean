import ServiceShapes.Generation.RuntimeCrate
import ServiceShapes.Generation.Target

/-!
# Generation settings and context

`ModulePaths` says where generated items live, `Config` is what one run of the generator is told,
and `Context` is a model together with a service of it and these settings.  A context is made by
`Context.ofService` or `Context.ofConfig`, which check that the service is in the model and is one.
-/

namespace ServiceShapes

/-- Where generated items live. -/
structure ModulePaths where
  model : String := "crate::model"
  input : String := "crate::input"
  output : String := "crate::output"
  error : String := "crate::error"
  operation : String := "crate::operation"
deriving DecidableEq, Repr, Inhabited

/-- What is generated. -/
structure Settings where
  service : ShapeId
  target : Target := .client
  modules : ModulePaths := {}
deriving DecidableEq, Repr, Inhabited

/-- The configuration of one run of the generator. -/
structure Config where
  settings : Settings
  runtime : RuntimeCrate := {}
deriving DecidableEq, Repr, Inhabited

/-! ### Validation -/

/-- Why a configuration that can be read cannot be used. -/
inductive ConfigError
  | emptyRuntimeName
  | versionAndPath (name : String)
  | emptyModulePath (label : String)
deriving DecidableEq, Repr, Inhabited

/-- The text of an error. -/
def ConfigError.message : ConfigError → String
  | .emptyRuntimeName => "Runtime crate name cannot be empty"
  | .versionAndPath name =>
    "Runtime crate '" ++ name ++ "' sets both version and path; choose one"
  | .emptyModulePath label => "Module path for " ++ label ++ " cannot be empty"

/-- The first thing that is wrong with a runtime crate. -/
def RuntimeCrate.fault? (c : RuntimeCrate) : Option ConfigError :=
  if c.name.isEmpty then some .emptyRuntimeName
  else if c.version.isSome && c.path.isSome then some (.versionAndPath c.name)
  else none

namespace ModulePaths

/-- The paths with their labels, in the order in which they are checked. -/
def labelled (p : ModulePaths) : List (String × String) :=
  [("model", p.model), ("input", p.input), ("output", p.output), ("error", p.error),
   ("operation", p.operation)]

/-- The first path that is empty. -/
def fault? (p : ModulePaths) : Option ConfigError :=
  (p.labelled.find? fun (_, path) => path.isEmpty).map fun (label, _) => .emptyModulePath label

end ModulePaths

/-- The first thing that is wrong with a configuration. -/
def Config.fault? (c : Config) : Option ConfigError :=
  c.runtime.fault?.or c.settings.modules.fault?

/-! ### Context -/

/-- What is fixed while code is generated for one service. -/
structure Context where
  model : Model
  service : ShapeId
  target : Target
  runtime : RuntimeCrate
  modules : ModulePaths

namespace Context

/-- The context of a service with default settings. -/
def ofService (model : Model) (service : ShapeId) (target : Target) : Generated Context := do
  let shape ← ofModel (model.expect service)
  if shape.isService then .ok ⟨model, service, target, {}, {}⟩
  else .error (.notAService service)

/-- The context that a configuration asks for. -/
def ofConfig (model : Model) (config : Config) : Generated Context := do
  let ctx ← ofService model config.settings.service config.settings.target
  .ok { ctx with runtime := config.runtime, modules := config.settings.modules }

end Context

end ServiceShapes
