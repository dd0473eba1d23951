import ServiceShapes.Generation.Template

/-!
# Customizations of the service configuration

The generated service configuration has five sections into which customizations put code.  A
customization is asked for each section and answers with a fragment, with nothing, or with an
error.
-/

namespace ServiceShapes

/-- A place in the generated service configuration. -/
inductive ConfigSection
  /-- Fields of the configuration. -/
  | configStruct
  /-- Methods of the configuration. -/
  | configImpl
  /-- Fields of the builder. -/
  | builderStruct
  /-- Methods of the builder. -/
  | builderImpl
  /-- Initial values of fields where the builder finishes. -/
  | builderBuild
deriving DecidableEq, Repr, Inhabited

namespace ConfigSection

/-- All sections, in the order in which customizations are asked. -/
def all : List ConfigSection := [configStruct, configImpl, builderStruct, builderImpl, builderBuild]

/-- The name of a section. -/
def name : ConfigSection → String
  | configStruct => "config-struct"
  | configImpl => "config-impl"
  | builderStruct => "builder-struct"
  | builderImpl => "builder-impl"
  | builderBuild => "builder-build"

end ConfigSection

/-- Contributes code to sections of the service configuration. -/
structure Customization where
  name : String
  /-- The code for a section, if there is any. -/
  fragment? : ConfigSection → Generated (Option Fragment)

end ServiceShapes
