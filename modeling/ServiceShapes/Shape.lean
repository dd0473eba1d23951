import ServiceShapes.Trait

/-!
# Shapes

A shape is a node of a model: a service, an operation, a data type, or a member of a structure or
union.  Members are shapes of their own; the structure or union only lists their names, and the id
of a member is the id of its container with the member's name (`Shape.container?` goes back).

`Aggregate` describes a structure or union together with its members; `Aggregate.shapes` gives the
shapes that make it up, the container first.
-/

namespace ServiceShapes

/-- The types without parts. -/
inductive SimpleType
  | blob
  | boolean
  | string
  | byte
  | short
  | integer
  | long
  | float
  | double
  | timestamp
  | document
deriving DecidableEq, Repr, Inhabited

/-- The two forms of a shape with named members. -/
inductive AggregateForm
  | record
  | union
deriving DecidableEq, Repr, Inhabited

/-- What a shape is. -/
inductive ShapeKind
  | service (operations : List ShapeId)
  | operation (input output : Option ShapeId) (errors : List ShapeId)
  /-- A structure or union, with its member names in order of declaration. -/
  | aggregate (form : AggregateForm) (members : List String)
  | member (target : ShapeId)
  | list (member : ShapeId)
  | map (key value : ShapeId)
  | simple (type : SimpleType)
deriving DecidableEq, Repr, Inhabited

/-- A node of a model. -/
structure Shape where
  id : ShapeId
  kind : ShapeKind
  traits : TraitSet := .empty
deriving DecidableEq, Repr, Inhabited

namespace Shape

/-- The shape with one more trait. -/
def withTrait (s : Shape) (t : Trait) : Shape := { s with traits := s.traits.insert t }

/-- Whether the shape is a member. -/
def isMember (s : Shape) : Bool := s.kind matches .member _

/-- Whether the shape is a structure. -/
def isRecord (s : Shape) : Bool := s.kind matches .aggregate .record _

/-- Whether the shape is a union. -/
def isUnion (s : Shape) : Bool := s.kind matches .aggregate .union _

/-- Whether the shape is a service. -/
def isService (s : Shape) : Bool := s.kind matches .service _

/-- Whether the shape is an operation. -/
def isOperation (s : Shape) : Bool := s.kind matches .operation ..

/-- For a member, the id of the structure or union it belongs to. -/
def container? (s : Shape) : Option ShapeId :=
  match s.kind with
  | .member _ => some s.id.withoutMember
  | _ => none

/-- For a member, the id of its type. -/
def target? (s : Shape) : Option ShapeId :=
  match s.kind with
  | .member target => some target
  | _ => none

/-- The names of the members, for a structure or union. -/
def memberNames (s : Shape) : List String :=
  match s.kind with
  | .aggregate _ members => members
  | _ => []

/-- The operations of a service. -/
def operationIds (s : Shape) : List ShapeId :=
  match s.kind with
  | .service operations => operations
  | _ => []

end Shape

/-! ### Aggregates -/

/-- The declaration of one member. -/
structure MemberDecl where
  name : String
  target : ShapeId
  traits : List Trait := []
deriving DecidableEq, Repr, Inhabited

/-- A structure or union with the declarations of its members. -/
structure Aggregate where
  form : AggregateForm
  id : ShapeId
  traits : List Trait := []
  members : List MemberDecl := []
deriving DecidableEq, Repr, Inhabited

namespace Aggregate

/-- The shape of one declared member. -/
def memberShape (a : Aggregate) (d : MemberDecl) : Shape :=
  ⟨a.id.withMember d.name, .member d.target, .collect d.traits⟩

/-- The structure or union itself. -/
def containerShape (a : Aggregate) : Shape :=
  ⟨a.id, .aggregate a.form (a.members.map (·.name)), .collect a.traits⟩

/-- The shapes that make up the aggregate: the container, then its members in order. -/
def shapes (a : Aggregate) : List Shape := a.containerShape :: a.members.map a.memberShape

end Aggregate

end ServiceShapes
