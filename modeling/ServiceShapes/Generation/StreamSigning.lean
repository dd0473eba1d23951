import ServiceShapes.Generation.Decorator

/-!
# Signing of event streams

Services with event streams get a method `new_event_stream_signer` in their configuration.  The
signer that it returns leaves every message as it is.  `streamSigningDecorator` adds the
customization for it to services that need it, and the builtin registry holds just this decorator.
-/

namespace ServiceShapes

/-- The method that makes a signer. -/
def signerMethod : String :=
  "
    /// Creates a new Event Stream `SignMessage` implementor.
    pub fn new_event_stream_signer(
        &self,
        _properties: #\x7bSharedPropertyBag\x7d
    ) -> impl #\x7bSignMessage\x7d \x7b
        #\x7bNoOpSigner\x7d
    \x7d
"

/-- The items that the method refers to. -/
def signerScope (runtime : RuntimeCrate) : Scope :=
  ⟨[("NoOpSigner", .noOpSigner runtime), ("SharedPropertyBag", .sharedPropertyBag runtime),
    ("SignMessage", .signMessage runtime)]⟩

/-- Puts the signer method among the methods of the configuration. -/
def signerCustomization (runtime : RuntimeCrate) : Customization where
  name := "NoOpEventStreamSigningConfig"
  fragment?
    | .configImpl => (renderTemplate (signerScope runtime) signerMethod).map some
    | _ => .ok none

/-- Whether the service of a context has event streams. -/
def Context.hasEventStreams (ctx : Context) : Bool :=
  match ctx.model.expect ctx.service with
  | .ok service => ctx.model.hasEventStreams service
  | .error _ => false

/-- Adds the signer method to services with event streams. -/
def streamSigningDecorator : Decorator where
  name := "EventStreamDecorator"
  applies := Context.hasEventStreams
  customize ctx customizations :=
    if ctx.hasEventStreams then customizations ++ [signerCustomization ctx.runtime]
    else customizations

/-- The registry with the decorators that every run uses. -/
def Registry.builtin : Registry := .ofList [streamSigningDecorator]

end ServiceShapes
