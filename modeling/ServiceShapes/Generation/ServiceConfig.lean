import ServiceShapes.Generation.Decorator

/-!
# The generated service configuration

`ServiceConfig.generate` renders the source file that configures a service: a `Config` with its
`Builder`.  Every customization is asked for each section, sections in their fixed order and
customizations in list order within a section; the first error ends the rendering.  The fragments
of a section are put in one after another (`splice`), and the file needs every crate that one of
them needs.
-/

namespace ServiceShapes

/-- A generated source file with the crates it needs. -/
structure GeneratedFile where
  /-- The path below the root of the generated crate. -/
  path : String
  content : String
  dependencies : List Dependency
deriving DecidableEq, Repr, Inhabited

/-- Puts fragments one after another, each indented and on lines of its own; items have an empty
line before them. -/
def splice (spaces : Nat) (items : Bool) (parts : List (List Char)) : List Char :=
  parts.flatMap fun part =>
    (if items then ['\n'] else []) ++ Text.indent spaces part ++ ['\n']

/-- A generator of the configuration of one service. -/
structure ServiceConfig where
  serviceName : String
  customizations : List Customization

namespace ServiceConfig

/-- The generator for the service of a context. -/
def ofRegistry (ctx : Context) (registry : Registry) : ServiceConfig :=
  ⟨ctx.service.name, registry.customizations ctx []⟩

/-- The fragments of a section, one for each customization that has any. -/
def fragments (c : ServiceConfig) (place : ConfigSection) : Generated (List Fragment) := do
  let answers ← c.customizations.mapM fun customization => customization.fragment? place
  .ok (answers.filterMap id)

/-- How a section is spliced: the width of its indentation, and whether it holds items. -/
def layout : ConfigSection → Nat × Bool
  | .configStruct => (4, false)
  | .configImpl => (4, true)
  | .builderStruct => (4, false)
  | .builderImpl => (4, true)
  | .builderBuild => (12, false)

/-- The code of a section. -/
def sectionText (place : ConfigSection) (fragments : List Fragment) : String :=
  let (spaces, items) := layout place
  String.ofList (splice spaces items (fragments.map (·.code.toList)))

/-- The file around the code of its sections. -/
def fileText (service : String) (code : ConfigSection → String) : String :=
  "//! Service configuration for `" ++ service ++ "`\n\n" ++
  "/// Configuration for a `" ++ service ++ "` client or server.\n" ++
  "pub struct Config \x7b\n" ++ code .configStruct ++ "\x7d\n\n" ++
  "impl Config \x7b\n" ++
  "    /// Constructs a config builder.\n" ++
  "    pub fn builder() -> Builder \x7b\n" ++
  "        Builder::default()\n" ++
  "    \x7d\n" ++ code .configImpl ++ "\x7d\n\n" ++
  "/// Builder for [`Config`].\n" ++
  "#[derive(Default)]\n" ++
  "pub struct Builder \x7b\n" ++ code .builderStruct ++ "\x7d\n\n" ++
  "impl Builder \x7b\n" ++
  "    /// Constructs a config builder.\n" ++
  "    pub fn new() -> Self \x7b\n" ++
  "        Self::default()\n" ++
  "    \x7d\n" ++ code .builderImpl ++ "\n" ++
  "    /// Builds a [`Config`].\n" ++
  "    pub fn build(self) -> Config \x7b\n" ++
  "        Config \x7b\n" ++ code .builderBuild ++ "        \x7d\n" ++
  "    \x7d\n" ++
  "\x7d\n"

/-- The path of the generated file. -/
def filePath : String := "src/config.rs"

/-- The file that configures the service. -/
def generate (c : ServiceConfig) : Generated GeneratedFile := do
  let configStruct ← c.fragments .configStruct
  let configImpl ← c.fragments .configImpl
  let builderStruct ← c.fragments .builderStruct
  let builderImpl ← c.fragments .builderImpl
  let builderBuild ← c.fragments .builderBuild
  let found : ConfigSection → List Fragment
    | .configStruct => configStruct
    | .configImpl => configImpl
    | .builderStruct => builderStruct
    | .builderImpl => builderImpl
    | .builderBuild => builderBuild
  .ok { path := filePath
        content := fileText c.serviceName fun place => sectionText place (found place)
        dependencies := Dependency.merge ((ConfigSection.all.flatMap found).flatMap (·.dependencies)) }

end ServiceConfig

end ServiceShapes
