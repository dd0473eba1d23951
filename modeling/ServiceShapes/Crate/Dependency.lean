import ServiceShapes.Crate.Features
import ServiceShapes.Json.Printer

/-!
# Crate dependencies

A `Dependency` names a crate that generated code needs, where it comes from, and which of its
features are enabled.  `Dependency.merge` puts declarations of the same crate together: the first
declaration keeps its place, and the features are united.
-/

namespace ServiceShapes

/-- Where a crate comes from. -/
inductive CrateSource
  /-- The public registry, in some version. -/
  | registry (version : String)
  /-- A directory. -/
  | directory (path : String)
deriving DecidableEq, Repr, Inhabited

/-- A crate that generated code needs. -/
structure Dependency where
  name : String
  source : CrateSource
  features : FeatureSet := .empty
deriving DecidableEq, Repr, Inhabited

/-- The name of a crate as code refers to it: hyphens become underscores. -/
def crateIdentifier (name : String) : String :=
  String.ofList (name.toList.map fun c => if c = '-' then '_' else c)

namespace Dependency

/-- A crate of the public registry. -/
def ofRegistry (name version : String) : Dependency := { name, source := .registry version }

/-- The dependency with one more feature enabled. -/
def withFeature (d : Dependency) (feature : String) : Dependency :=
  { d with features := d.features.insert feature }

/-- The name of the crate as code refers to it. -/
def identifier (d : Dependency) : String := crateIdentifier d.name

/-- Whether two declarations mean the same crate from the same place. -/
def sameCrate (d e : Dependency) : Bool := d.name = e.name ∧ d.source = e.source

/-! ### Merging -/

/-- Adds one declaration to merged ones: to the first of the same crate, else at the end. -/
def mergeOne (d : Dependency) : List Dependency → List Dependency
  | [] => [d]
  | e :: rest =>
    if e.sameCrate d then { e with features := e.features.union d.features } :: rest
    else e :: mergeOne d rest

/-- One declaration for each crate, in order of first occurrence, with all features. -/
def merge (ds : List Dependency) : List Dependency := ds.foldl (fun merged d => mergeOne d merged) []

/-! ### Text -/

/-- A text between quotation marks, as it stands. -/
def inQuotes (s : String) : List Char := '"' :: s.toList ++ ['"']

/-- The assignment that says where the crate comes from. -/
def sourceChars : CrateSource → List Char
  | .registry version => "version = ".toList ++ inQuotes version
  | .directory path => "path = ".toList ++ inQuotes path

/-- The assignment that lists the features; nothing if there are none. -/
def featureChars (features : FeatureSet) : List Char :=
  if features.isEmpty then []
  else ", features = [".toList ++
    List.intercalate [',', ' '] (features.toList.map inQuotes) ++ [']']

/-- The characters of `manifestLine`. -/
def manifestChars (d : Dependency) : List Char :=
  d.name.toList ++ [' ', '=', ' ', '{', ' '] ++ sourceChars d.source ++ featureChars d.features ++
    [' ', '}']

/-- The line that declares the dependency in a manifest. -/
def manifestLine (d : Dependency) : String := String.ofList d.manifestChars

/-! ### JSON -/

/-- The place a crate comes from as JSON. -/
def sourceToJson : CrateSource → Json
  | .registry version => .object [("cratesIo", .object [("version", .string version)])]
  | .directory path => .object [("local", .object [("path", .string path)])]

/-- A dependency as JSON. -/
def toJson (d : Dependency) : Json :=
  .object [("name", .string d.name), ("location", sourceToJson d.source),
    ("features", Json.strings d.features.toList)]

end Dependency

end ServiceShapes
