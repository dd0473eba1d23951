import ServiceShapes.Generation.Context
import ServiceShapes.Generation.Provider

/-!
# Symbols of event streams

`StreamSymbols` is the stage that turns event stream members of operations into channel ends.  It
changes the symbol of a shape only if the shape is an event stream member and its container is
linked to a side of an operation.

The new type is `Sender<T>` or `Receiver<T, E>`, where `T` is the type that was there without an
outer `Option` and `E` the error type of the stream.  The new symbol refers to the one that was
there and to that of the error type, and needs the runtime crate with its event stream feature.
-/

namespace ServiceShapes

/-- What the stage needs to know: the model, the target, the ends of a channel, the error type of
receivers, and the crate that channels come from. -/
structure StreamSymbols where
  model : Model
  target : Target
  sender : RuntimeItem
  receiver : RuntimeItem
  error : RuntimeItem
  dependency : Dependency

namespace StreamSymbols

/-- The stage with the channels and the error type of a runtime crate. -/
def ofRuntime (model : Model) (target : Target) (runtime : RuntimeCrate) : StreamSymbols :=
  ⟨model, target, .sender runtime, .receiver runtime, .messageStreamError runtime,
    runtime.dependency.withFeature eventStreamFeature⟩

/-- The stage of a context. -/
def ofContext (ctx : Context) : StreamSymbols := ofRuntime ctx.model ctx.target ctx.runtime

/-- The stage with another error type for receivers. -/
def withErrorType (s : StreamSymbols) (error : RuntimeItem) : StreamSymbols := { s with error }

/-- The item of one end of a channel. -/
def channelItem (s : StreamSymbols) : ChannelEnd → RuntimeItem
  | .sender => s.sender
  | .receiver => s.receiver

/-- The arguments of the type of one end of a channel. -/
def channelArgs (s : StreamSymbols) (inner : RustType) : ChannelEnd → List RustType
  | .sender => [inner]
  | .receiver => [inner, s.error.type]

/-- The type of one end of a channel of events. -/
def channelType (s : StreamSymbols) (inner : RustType) (channel : ChannelEnd) : RustType :=
  let item := s.channelItem channel
  .generic item.name (some item.ns) (s.channelArgs inner channel)

/-- The symbol of one end of a channel, in place of the symbol of its events. -/
def channelSymbol (s : StreamSymbols) (initial : Symbol) (channel : ChannelEnd) : Symbol :=
  let type := s.channelType initial.type.stripOption channel
  ((({ initial with
        name := type.render false
        ns := (s.channelItem channel).ns
        type }.addReference initial).addDependency s.dependency).addReference s.error.toSymbol)

/-- The end of a channel that a shape becomes, if it is an event stream of an operation. -/
def channelOf? (s : StreamSymbols) (shape : Shape) : Generated (Option ChannelEnd) :=
  if s.model.isEventStream shape then
    match shape.container? with
    | none => .ok none
    | some id => do
      let container ← ofModel (s.model.expect id)
      .ok (container.linkage?.map fun linkage => channelEnd linkage.side s.target)
  else .ok none

/-- The stage. -/
def stage (s : StreamSymbols) : SymbolStage := fun shape initial => do
  match ← s.channelOf? shape with
  | none => .ok initial
  | some channel => .ok (s.channelSymbol initial channel)

end StreamSymbols

end ServiceShapes
