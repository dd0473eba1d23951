import ServiceShapes.Generation.StreamSigning
import ServiceShapes.Proofs.Decorators.Stages

/-!
# Clients and servers are dual

The target has a part in one thing only: which end of a channel an event stream becomes.  So the
standard provider fails for clients and for servers alike, or gives both the same symbol, or gives
one of them the sender and the other the receiver of one channel (`Dual`).  These two are made from
the same plain symbol and refer to the same error (`channelPair_channelSymbol`), whichever side
holds which.
-/

namespace ServiceShapes

/-! ### Decorators that leave resolution as it is -/

namespace Registry

theorem mem_decorators_ofList {ds : List Decorator} {d : Decorator} :
    d ∈ (ofList ds).decorators ↔ d ∈ ds := List.mem_mergeSort

/-- Decorators that put nothing around providers change none, whether they apply or not. -/
theorem provider_eq_of_unchanged {r : Registry} (ctx : Context)
    (unchanged : ∀ d ∈ r.decorators, ∀ p, d.provide ctx p = p) (base : SymbolProvider) :
    r.provider ctx base = base := by
  let noStage : Decorator → Option SymbolStage := fun _ => none
  have own : ∀ d ∈ r.applicable ctx, ∀ inner,
      d.provide ctx inner = inner.wrapOption (noStage d) :=
    fun d mem inner => unchanged d (List.mem_of_mem_filter mem) inner
  rw [provider_eq_wrapAll own, List.filterMap_eq_nil_iff.2 fun _ _ => rfl, SymbolProvider.wrapAll,
    List.foldl_nil]

end Registry

/-- **The builtin decorators add nothing to the resolution of shapes.** -/
theorem standardProvider_builtin (ctx : Context) :
    standardProvider ctx .builtin = streamProvider (.ofContext ctx) ctx.modules := by
  refine Registry.provider_eq_of_unchanged ctx (fun d hd p => ?_) _
  rw [Registry.builtin, Registry.mem_decorators_ofList, List.mem_singleton] at hd
  rw [hd]
  rfl

/-! ### Both ends of one channel -/

/-- Two ends of one channel: they carry the same events, the receiver with the error of the runtime
crate, and agree in everything but name and type. -/
structure ChannelPair (runtime : RuntimeCrate) (sending receiving : Symbol) : Prop where
  type : ∃ event,
    sending.type =
      runtime.channelType event (RuntimeItem.messageStreamError runtime).type .sender ∧
    receiving.type =
      runtime.channelType event (RuntimeItem.messageStreamError runtime).type .receiver
  name : sending.name ≠ receiving.name
  ns : sending.ns = receiving.ns
  dependencies : sending.dependencies = receiving.dependencies
  references : sending.references = receiving.references
  documentation : sending.documentation = receiving.documentation

/-- The two ends of a channel are written differently. -/
theorem RuntimeCrate.render_channelType_ne (c : RuntimeCrate) (event error : RustType) :
    (c.channelType event error .sender).render false ≠
      (c.channelType event error .receiver).render false := by
  intro same
  rw [RustType.render, RustType.render, String.ofList_inj, channelType, channelType,
    RustType.chars_generic, RustType.chars_generic] at same
  -- the names of the two ends differ in their first character
  simp [RustType.qualify] at same

/-- **From one plain symbol, the stage makes both ends of one channel.** -/
theorem channelPair_channelSymbol (model : Model) (runtime : RuntimeCrate)
    (target target' : Target) (initial : Symbol) :
    ChannelPair runtime
      ((StreamSymbols.ofRuntime model target runtime).channelSymbol initial .sender)
      ((StreamSymbols.ofRuntime model target' runtime).channelSymbol initial .receiver) := by
  rw [StreamSymbols.channelSymbol_eq, StreamSymbols.channelSymbol_eq]
  exact {
    type := ⟨initial.type.stripOption, rfl, rfl⟩
    name := runtime.render_channelType_ne _ (RuntimeItem.messageStreamError runtime).type
    ns := rfl
    dependencies := rfl
    references := rfl
    documentation := rfl }

/-! ### Both targets -/

/-- What clients and servers make of a shape fits together. -/
inductive Dual (model : Model) (runtime : RuntimeCrate) (shape : Shape) :
    (client server : Generated Symbol) → Prop
  /-- Neither resolves the shape, for the same reason. -/
  | error (e : GenerationError) : Dual model runtime shape (.error e) (.error e)
  /-- The shape is no event stream of an operation, and both have the same symbol. -/
  | same (s : Symbol) (streams : ∀ side, ¬model.StreamsOn shape side) :
      Dual model runtime shape (.ok s) (.ok s)
  /-- Clients send what servers receive. -/
  | input {client server : Symbol} (streams : model.StreamsOn shape .input)
      (pair : ChannelPair runtime client server) :
      Dual model runtime shape (.ok client) (.ok server)
  /-- Servers send what clients receive. -/
  | output {client server : Symbol} (streams : model.StreamsOn shape .output)
      (pair : ChannelPair runtime server client) :
      Dual model runtime shape (.ok client) (.ok server)

/-- **The standard provider makes duals of clients and servers**, for every shape of every model.
Neither plain resolution nor the side that a shape streams on depends on the target, so both runs take
the same way; they part only at the stage, which makes the two ends of one channel from one plain
symbol (`channelPair_channelSymbol`). -/
theorem standardProvider_dual (ctx : Context) (shape : Shape) :
    Dual ctx.model ctx.runtime shape
      (standardProvider { ctx with target := .client } .builtin shape)
      (standardProvider { ctx with target := .server } .builtin shape) := by
  rw [standardProvider_builtin, standardProvider_builtin]
  cases plain : baseProvider ctx.model ctx.modules shape with
  | error e =>
    rw [streamProvider_eq_error_iff.2 plain, streamProvider_eq_error_iff.2 plain]
    exact .error e
  | ok initial =>
    cases found : ctx.model.streamSide? shape with
    | none =>
      have streams := Model.streamSide?_eq_none_iff.1 found
      rw [(streamProvider_eq_plain_iff plain).2 streams,
        (streamProvider_eq_plain_iff plain).2 streams]
      exact .same initial streams
    | some side =>
      have streams := Model.streamSide?_eq_some_iff.1 found
      rw [streamProvider_of_streamsOn plain streams, streamProvider_of_streamsOn plain streams]
      cases side with
      | input => exact .input streams (channelPair_channelSymbol _ _ _ _ _)
      | output => exact .output streams (channelPair_channelSymbol _ _ _ _ _)

end ServiceShapes
