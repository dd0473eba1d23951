import ServiceShapes.Model.Streams

/-!
# Normalized models

In a normalized model every operation has an input and an output structure of its own, linked back
to the operation.  `Model.normalize` makes a model so.

For each side of each operation that is not yet linked to that operation it adds a structure named
after the operation, in the operation's namespace followed by `.synthetic`.  The new structure has
the members of the one it stands in for, under new ids, and its traits with the link inserted; it
is empty where the operation names none.  All other shapes stay as they are.
-/

namespace ServiceShapes

/-- The last part of the namespace of structures made for operations. -/
def syntheticNamespace : String := "synthetic"

namespace OperationSide

/-- The end of the name of a structure made for this side. -/
def nameSuffix : OperationSide → String
  | .input => "Input"
  | .output => "Output"

/-- The trait that links a structure to an operation. -/
def link : OperationSide → ShapeId → Trait
  | .input, operation => .syntheticInput operation
  | .output, operation => .syntheticOutput operation

/-- The id of the structure made for one side of an operation. -/
def syntheticId (side : OperationSide) (operation : ShapeId) : ShapeId :=
  .ofName (operation.ns ++ "." ++ syntheticNamespace) (operation.name ++ side.nameSuffix)

end OperationSide

/-- The structure that an operation names on one side after normalization, and the shapes that
have to be added for it. -/
structure SideShapes where
  id : ShapeId
  added : List Shape
deriving DecidableEq, Repr, Inhabited

namespace Model

/-- The members of a structure under the id of another one; shapes that are not members of
anything are left out. -/
def rerootMembers (m : Model) (id : ShapeId) (replaced : Shape) : List (String × Shape) :=
  (m.members replaced).filterMap fun member =>
    member.id.member.map fun name => (name, { member with id := id.withMember name })

/-- A structure for one side of an operation, with the members and traits of the structure it
stands in for. -/
def sideStructure (m : Model) (operation : ShapeId) (side : OperationSide)
    (replaced : Option Shape) : List Shape :=
  let id := side.syntheticId operation
  let members := replaced.elim [] (m.rerootMembers id)
  let traits := (replaced.elim .empty (·.traits)).insert (side.link operation)
  ⟨id, .aggregate .record (members.map (·.1)), traits⟩ :: members.map (·.2)

/-- The structure for one side of an operation: the one that is there if it is linked already, a
new one otherwise. -/
def sideShapes (m : Model) (operation : ShapeId) (side : OperationSide) (current : Option ShapeId) :
    Except ModelError SideShapes :=
  match current with
  | none => .ok ⟨side.syntheticId operation, m.sideStructure operation side none⟩
  | some id => do
    let replaced ← m.expect id
    if replaced.traits.linkedOperation? side = some operation then .ok ⟨replaced.id, []⟩
    else .ok ⟨side.syntheticId operation, m.sideStructure operation side (some replaced)⟩

/-- What a shape becomes: an operation is preceded by the structures made for it. -/
def normalizeShape (m : Model) (s : Shape) : Except ModelError (List Shape) :=
  match s.kind with
  | .operation input output errors => do
    let input ← m.sideShapes s.id .input input
    let output ← m.sideShapes s.id .output output
    .ok (input.added ++ output.added ++
      [{ s with kind := .operation (some input.id) (some output.id) errors }])
  | _ => .ok [s]

/-- The model in which every operation has linked structures of its own. -/
def normalize (m : Model) : Except ModelError Model := do
  let shapes ← m.shapes.mapM m.normalizeShape
  ofShapes shapes.flatten

end Model

end ServiceShapes
