import ServiceShapes.Text.Split

/-!
# Paths

A path is text with slashes between its parts.  `FilePath.ofText` cuts it into the steps that lead
from one directory to the next: empty parts and single dots lead nowhere, two dots lead up, and any
other part is the name of an entry.  `PathStep.apply` takes one step from a `Place`.
-/

namespace ServiceShapes

/-- A place that a path can lead to, by the names on the way to it from the root of a tree of files;
`none` stands for every place outside of the tree. -/
abbrev Place := Option (List String)

/-- One step of a path. -/
inductive PathStep
  /-- To the directory above. -/
  | up
  /-- To the entry of this name. -/
  | down (name : String)
deriving DecidableEq, Repr, Inhabited

namespace PathStep

/-- The step that a part of a path stands for. -/
def ofPart? (part : List Char) : Option PathStep :=
  if part = [] ∨ part = ['.'] then none
  else if part = ['.', '.'] then some .up
  else some (.down (String.ofList part))

/-- Where a step leads.  The step up from the root leads out of the tree, and no step leads back. -/
def apply : PathStep → Place → Place
  | _, none => none
  | .up, some [] => none
  | .up, some here => some here.dropLast
  | .down name, some here => some (here ++ [name])

end PathStep

/-- A path, seen from the root of a tree of files. -/
structure FilePath where
  steps : List PathStep
  /-- Whether the path is written so that it can only be a directory. -/
  isDirectory : Bool
deriving DecidableEq, Repr, Inhabited

namespace FilePath

/-- The path that a text stands for.  A path that starts with a slash starts outside of the tree,
like one that leads above the root. -/
def ofText (text : String) : FilePath :=
  let parts := Text.splitAll (· == '/') text.toList
  let steps := parts.filterMap PathStep.ofPart?
  { steps := if text.startsWith "/" then .up :: steps else steps
    isDirectory := parts.getLast? = some [] ∨ parts.getLast? = some ['.'] }

/-- The text of a path that starts at a directory, which the empty text of a directory leaves as it
is.  A path that starts with a slash has nothing before it. -/
def textFrom (directory path : String) : String :=
  if directory.isEmpty ∨ path.startsWith "/" then path
  else if directory.endsWith "/" then directory ++ path
  else directory ++ "/" ++ path

/-- The text of a path up to its last step. -/
def parentText (text : String) : String :=
  let leadsNowhere (part : List Char) : Bool := (PathStep.ofPart? part).isNone
  let parts := (Text.splitAll (· == '/') text.toList).reverse.dropWhile leadsNowhere
  "/".intercalate (((parts.drop 1).dropWhile leadsNowhere).reverse.map String.ofList)

end FilePath

end ServiceShapes
