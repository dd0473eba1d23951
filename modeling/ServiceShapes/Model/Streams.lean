import ServiceShapes.Model.Basic

/-!
# Event streams in a model

A member is an event stream when it, or the shape it targets, is marked as streaming.  An operation
streams its input or output when the structure in that place has such a member, and a service has
event streams when one of its operations does.

`Linkage` says which side of which operation a structure was made for; a structure that carries
links for both sides counts as an input.
-/

namespace ServiceShapes

/-- The two sides of an operation. -/
inductive OperationSide
  | input
  | output
deriving DecidableEq, Repr, Inhabited

/-- The side of an operation that a structure stands for. -/
structure Linkage where
  side : OperationSide
  operation : ShapeId
deriving DecidableEq, Repr, Inhabited

namespace TraitSet

/-- The operation that the traits link to on one side. -/
def linkedOperation? (traits : TraitSet) : OperationSide → Option ShapeId
  | .input => traits.syntheticInput?
  | .output => traits.syntheticOutput?

end TraitSet

namespace Shape

/-- Which side of which operation the structure stands for; an input link goes before an output
link. -/
def linkage? (s : Shape) : Option Linkage :=
  match s.traits.syntheticInput?, s.traits.syntheticOutput? with
  | some operation, _ => some ⟨.input, operation⟩
  | none, some operation => some ⟨.output, operation⟩
  | none, none => none

/-- The structure on one side of an operation. -/
def sideId? (operation : Shape) (side : OperationSide) : Option ShapeId :=
  match operation.kind, side with
  | .operation input _ _, .input => input
  | .operation _ output _, .output => output
  | _, _ => none

end Shape

namespace Model

/-- Whether a member is an event stream, by its own mark or by that of its target. -/
def isEventStream (m : Model) (member : Shape) : Bool :=
  match member.target? with
  | none => false
  | some target =>
    member.traits.isStreaming || (m.get? target).any fun t => t.traits.isStreaming

/-- The first event stream among the members of a structure. -/
def eventStreamMember? (m : Model) (container : Shape) : Option Shape :=
  (m.members container).find? m.isEventStream

/-- Whether one side of an operation is an event stream. -/
def streamsSide (m : Model) (operation : Shape) (side : OperationSide) : Bool :=
  ((operation.sideId? side).bind m.get?).any fun container =>
    (m.eventStreamMember? container).isSome

/-- Whether either side of an operation is an event stream. -/
def isEventStreamOperation (m : Model) (operation : Shape) : Bool :=
  m.streamsSide operation .input || m.streamsSide operation .output

/-- Whether some operation of a service has an event stream. -/
def hasEventStreams (m : Model) (service : Shape) : Bool :=
  (m.operations service).any m.isEventStreamOperation

end Model

end ServiceShapes
