import ServiceShapes.Files.Tree
import ServiceShapes.Generation.ConfigDocument
import ServiceShapes.Generation.ServiceConfig
import ServiceShapes.Model.Document

/-!
# Models, configurations and generated code in files

`Model.loadFile` and `Config.loadFile` read a file and load its text; `Config.loadFileIfPresent`
does so only if there is a file.  `writeGenerated` writes generated files one after another and
stops at the first one that cannot be written.
-/

namespace ServiceShapes

/-- Why nothing can be loaded from a file. -/
inductive FileLoadError (ε : Type)
  /-- The file cannot be read. -/
  | unreadable (error : FileError)
  /-- The text of the file cannot be loaded. -/
  | unusable (error : ε)
deriving DecidableEq, Repr

namespace FileTree

/-- Loads the text of a file. -/
def load {ε α : Type} (tree : FileTree) (path : String) (read : String → Except ε α) :
    Except (FileLoadError ε) α := do
  let text ← (tree.readText path).mapError .unreadable
  (read text).mapError .unusable

end FileTree

/-- The model in a file. -/
def Model.loadFile (tree : FileTree) (path : String) : Except (FileLoadError LoadError) Model :=
  tree.load path Model.load

/-! ### Configurations -/

/-- What was being done with a configuration file when it failed. -/
def FileLoadError.context (path : String) : FileLoadError ConfigLoadError → String
  | .unreadable _ => "Failed to read config file: " ++ path
  | .unusable _ => "Failed to parse config file: " ++ path

namespace Config

/-- The configuration in a file. -/
def loadFile (tree : FileTree) (path : String) : Except (FileLoadError ConfigLoadError) Config :=
  tree.load path Config.load

/-- The configuration in a file, or none if there is no file. -/
def loadFileIfPresent (tree : FileTree) (path : String) :
    Except (FileLoadError ConfigLoadError) (Option Config) :=
  if tree.contains path then (loadFile tree path).map some else .ok none

end Config

/-! ### Generated code -/

/-- Writes generated files until one cannot be written.  Gives what there is then. -/
def writeGenerated : List GeneratedFile → FileTree → FileTree × Except FileError Unit
  | [], tree => (tree, .ok ())
  | file :: rest, tree => match tree.write file.path file.content.toUTF8 with
    | (tree, .error e) => (tree, .error e)
    | (tree, .ok ()) => writeGenerated rest tree

end ServiceShapes
