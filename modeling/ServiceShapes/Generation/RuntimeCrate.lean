import ServiceShapes.Symbol.Basic

/-!
# The runtime crate

Generated code refers to items of a runtime crate.  `RuntimeCrate` says what the crate is called
and where it comes from; `RuntimeItem` is one of its items, or an item of any other crate, with the
dependency that brings it in.
-/

namespace ServiceShapes

/-- Which runtime crate generated code depends on.  At most one of version and path may be given;
with neither, the default version is used. -/
structure RuntimeCrate where
  name : String := "shapegen-runtime"
  version : Option String := none
  path : Option String := none
deriving DecidableEq, Repr, Inhabited

namespace RuntimeCrate

/-- The version used when neither version nor path is given. -/
def defaultVersion : String := "0.1"

/-- The default crate, taken from a directory. -/
def ofDirectory (path : String) : RuntimeCrate := { path := some path }

/-- Where the crate comes from. -/
def source (c : RuntimeCrate) : CrateSource :=
  match c.path, c.version with
  | some path, _ => .directory path
  | none, some version => .registry version
  | none, none => .registry defaultVersion

/-- The dependency on the crate, without optional features. -/
def dependency (c : RuntimeCrate) : Dependency := { name := c.name, source := c.source }

/-- The name of the crate as code refers to it. -/
def identifier (c : RuntimeCrate) : String := crateIdentifier c.name

end RuntimeCrate

/-- The feature of the runtime crate that brings event stream channels. -/
def eventStreamFeature : String := "event-stream"

/-- An item of a crate that generated code refers to. -/
structure RuntimeItem where
  name : String
  /-- The namespace. -/
  ns : String
  dependency : Option Dependency
deriving DecidableEq, Repr, Inhabited

namespace RuntimeItem

/-- The path of the item in code. -/
def fullPath (item : RuntimeItem) : String := item.ns ++ "::" ++ item.name

/-- The type that the item names. -/
def type (item : RuntimeItem) : RustType := .named item.name (some item.ns)

/-- The symbol of the item. -/
def toSymbol (item : RuntimeItem) : Symbol :=
  { Symbol.ofType item.type with ns := item.ns, dependencies := item.dependency.toList }

/-- An item in a module of the runtime crate that needs no feature. -/
def inModule (c : RuntimeCrate) (module name : String) : RuntimeItem :=
  ⟨name, c.identifier ++ "::" ++ module, some c.dependency⟩

/-- An item in the event stream module of the runtime crate. -/
def inEventStream (c : RuntimeCrate) (name : String) : RuntimeItem :=
  ⟨name, c.identifier ++ "::event_stream", some (c.dependency.withFeature eventStreamFeature)⟩

/-- The sending end of an event stream. -/
def sender (c : RuntimeCrate) : RuntimeItem := inEventStream c "Sender"

/-- The receiving end of an event stream. -/
def receiver (c : RuntimeCrate) : RuntimeItem := inEventStream c "Receiver"

/-- The error of an event stream. -/
def messageStreamError (c : RuntimeCrate) : RuntimeItem := inEventStream c "MessageStreamError"

/-- The signer that changes nothing. -/
def noOpSigner (c : RuntimeCrate) : RuntimeItem := inModule c "frame" "NoOpSigner"

/-- What signers can do. -/
def signMessage (c : RuntimeCrate) : RuntimeItem := inModule c "frame" "SignMessage"

/-- The properties of a request. -/
def sharedPropertyBag (c : RuntimeCrate) : RuntimeItem :=
  inModule c "property_bag" "SharedPropertyBag"

end RuntimeItem

end ServiceShapes
