import ServiceShapes.Files.Path

/-!
# Trees of files

A `FileTree` holds files and directories under a root.  Files are read by `FileTree.readText` and
written by `FileTree.write`, which makes the directories on the way; both follow a path step by step
and report the first step that cannot be taken.

The root of a tree may have a path of its own.  Paths in the tree are then written behind it, so that
the limit on their bytes counts it too.

What lies outside of the tree is not known, except that the root stands in directories: reading
finds nothing else there, and writing leaves the tree alone.
-/

namespace ServiceShapes

/-- Why a file cannot be read or written. -/
inductive FileError
  | notFound
  | notADirectory
  | isADirectory
  | nameTooLong
  | nameHoldsNul
  /-- The content of the file is not text. -/
  | notText
deriving DecidableEq, Repr, Inhabited

/-- The text of an error. -/
def FileError.message : FileError → String
  | .notFound => "No such file or directory (os error 2)"
  | .notADirectory => "Not a directory (os error 20)"
  | .isADirectory => "Is a directory (os error 21)"
  | .nameTooLong => "File name too long (os error 36)"
  | .nameHoldsNul => "file name contained an unexpected NUL byte"
  | .notText => "stream did not contain valid UTF-8"

/-- An entry of a directory. -/
inductive FileEntry
  | directory
  | file (content : ByteArray)

/-- The files and directories under a root.  Each is listed with the names on the way to it, every
directory on that way is listed too, and nothing is listed twice. -/
structure FileTree where
  entries : List (List String × FileEntry) := []
  /-- The path of the root, which is empty if paths start there. -/
  root : String := ""

namespace FileTree

/-- The tree without any entry, whose paths start at the root. -/
def empty : FileTree := {}

/-- The tree without any entry, whose root has a path. -/
def emptyAt (root : String) : FileTree := { root }

/-- The whole text of a path in the tree. -/
def pathText (tree : FileTree) (path : String) : String := FilePath.textFrom tree.root path

/-- What stands at the end of a way. -/
def entryAt? (tree : FileTree) (names : List String) : Option FileEntry :=
  if names = [] then some .directory else tree.entries.lookup names

/-- What stands where a step leads from a directory.  The step up leads to a directory, and no
other entry is known outside of the tree. -/
def entryAfter? (tree : FileTree) (step : PathStep) (here : Place) : Option FileEntry :=
  match step with
  | .up => some .directory
  | .down _ => (step.apply here).bind tree.entryAt?

/-- Puts an entry at a place of the tree. -/
def put (tree : FileTree) (place : Place) (entry : FileEntry) : FileTree :=
  match place with
  | none => tree
  | some names =>
    { tree with entries := tree.entries.filter (·.1 ≠ names) ++ [(names, entry)] }

/-- The text of every way, with a slash behind directories, and the content of every file. -/
def listing (tree : FileTree) : List (String × Option ByteArray) :=
  tree.entries.map fun (names, entry) => match entry with
    | .directory => ("/".intercalate names ++ "/", none)
    | .file content => ("/".intercalate names, some content)

/-! ### Limits -/

/-- How many bytes a name may have. -/
def maxNameBytes : Nat := 255

/-- How many bytes the text of a path may have. -/
def maxPathBytes : Nat := 4095

/-- What is wrong with a step of a path. -/
def stepFault? : PathStep → Option FileError
  | .up => none
  | .down name => if name.utf8ByteSize > maxNameBytes then some .nameTooLong else none

/-- What is wrong with the whole text of a path. -/
def pathFault? (path : String) : Option FileError :=
  if path.contains '\x00' then some .nameHoldsNul
  else if path.utf8ByteSize > maxPathBytes then some .nameTooLong
  else none

/-! ### Reading -/

/-- Finds the entry to which steps lead. -/
def find (tree : FileTree) : List PathStep → (here : Place) → Except FileError FileEntry
  | [], _ => .ok .directory
  | step :: rest, here => match stepFault? step, tree.entryAfter? step here with
    | some fault, _ => .error fault
    | none, none => .error .notFound
    | none, some .directory => tree.find rest (step.apply here)
    | none, some (.file content) =>
      if rest.isEmpty then .ok (.file content) else .error .notADirectory

/-- The entry at a path.  There is none at the empty path. -/
def lookup (tree : FileTree) (path : String) : Except FileError FileEntry :=
  let p := FilePath.ofText path
  let text := tree.pathText path
  match pathFault? text with
  | some fault => .error fault
  | none =>
    if text.isEmpty then .error .notFound
    else match tree.find p.steps (some []) with
      | .ok (.file content) => if p.isDirectory then .error .notADirectory else .ok (.file content)
      | result => result

/-- Whether there is an entry at a path. -/
def contains (tree : FileTree) (path : String) : Bool := (tree.lookup path).toOption.isSome

/-- The text of the file at a path. -/
def readText (tree : FileTree) (path : String) : Except FileError String :=
  match tree.lookup path with
  | .error e => .error e
  | .ok .directory => .error .isADirectory
  | .ok (.file content) => match String.fromUTF8? content with
    | some text => .ok text
    | none => .error .notText

/-! ### Writing -/

/-- Makes the directories on a way, as far as they are missing.  Gives the tree, also if a step
cannot be taken, and the place to which the way leads. -/
def makeDirectories :
    List PathStep → (here : Place) → FileTree → FileTree × Except FileError Place
  | [], here, tree => (tree, .ok here)
  | step :: rest, here, tree =>
    let next := step.apply here
    match stepFault? step, tree.entryAfter? step here with
    | some fault, _ => (tree, .error fault)
    | none, none => makeDirectories rest next (tree.put next .directory)
    | none, some .directory => makeDirectories rest next tree
    | none, some (.file _) => (tree, .error .notADirectory)

/-- Writes a file into a directory that is there. -/
def writeInto (tree : FileTree) (here : Place) (name : String) (content : ByteArray) :
    FileTree × Except FileError Unit :=
  let step := PathStep.down name
  match stepFault? step, tree.entryAfter? step here with
  | some fault, _ => (tree, .error fault)
  | none, some .directory => (tree, .error .isADirectory)
  | none, _ => (tree.put (step.apply here) (.file content), .ok ())

/-- Writes a file after making the directories on the way to it.  Gives the tree also if writing
fails.  No directory is made if the text of the way cannot be a path. -/
def write (tree : FileTree) (path : String) (content : ByteArray) :
    FileTree × Except FileError Unit :=
  let p := FilePath.ofText path
  let text := tree.pathText path
  match pathFault? (FilePath.parentText text) with
  | some fault => (tree, .error fault)
  | none => match makeDirectories p.steps.dropLast (some []) tree with
    | (tree, .error e) => (tree, .error e)
    | (tree, .ok here) => match pathFault? text, p.steps.getLast?, p.isDirectory with
      | some fault, _, _ => (tree, .error fault)
      | none, some (.down name), false => tree.writeInto here name content
      | none, _, _ => (tree, .error .isADirectory)

end FileTree

end ServiceShapes
