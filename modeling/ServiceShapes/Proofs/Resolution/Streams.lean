import ServiceShapes.Generation.StreamSymbols
import ServiceShapes.Proofs.Normalization.Links
import ServiceShapes.Proofs.Resolution.Base
import ServiceShapes.Proofs.Symbols.Building
import ServiceShapes.Proofs.Symbols.References

/-!
# What the event stream stage rewrites

`Model.StreamsOn` says which shapes are event streams of an operation, and on which side: marked
members, by their own mark or by that of their target, of a structure with a link.  The stage finds
this out by look-ups of its own (`Model.streamSide?`), and these never fail where plain resolution
has succeeded, since that has found the container already.  So the stage does one thing or the other
to the plain symbol (`streamProvider_of_ok`), and `streamProvider_rewrites_exactly` says what.

The type of the events needs an argument of its own.  It is the plain type of the member without one
outer `Option`.  For a member that may be left out, this is the `Option` that plain resolution has
put around the type of the target.  For other members plain resolution has put nothing there, and the
type of the target is no `Option` unless the target is a member itself.
-/

namespace ServiceShapes

/-- Plain symbols, then event streams. -/
def streamProvider (s : StreamSymbols) (modules : ModulePaths) : SymbolProvider :=
  (baseProvider s.model modules).wrap s.stage

/-- The type of one end of a channel in the runtime crate. -/
def RuntimeCrate.channelType (c : RuntimeCrate) (event error : RustType) : ChannelEnd → RustType
  | .sender => .generic "Sender" (some (c.identifier ++ "::event_stream")) [event]
  | .receiver => .generic "Receiver" (some (c.identifier ++ "::event_stream")) [event, error]

/-- The structure stands for this side of an operation: it carries a link for inputs, or else one
for outputs. -/
def Shape.StandsFor (s : Shape) : OperationSide → Prop
  | .input => ∃ operation, s.traits.linkedOperation? .input = some operation
  | .output => s.traits.linkedOperation? .input = none ∧
      ∃ operation, s.traits.linkedOperation? .output = some operation

theorem Shape.linkage?_map_side_eq_some_iff {s : Shape} {side : OperationSide} :
    s.linkage?.map (·.side) = some side ↔ s.StandsFor side := by
  unfold linkage? StandsFor TraitSet.linkedOperation?
  cases side <;> split <;> simp_all

namespace Model

variable {m : Model} {shape : Shape} {side : OperationSide}

/-- The shape is an event stream on this side of an operation. -/
structure StreamsOn (m : Model) (shape : Shape) (side : OperationSide) : Prop where
  /-- It is a member, and it or its target is marked. -/
  marked : ∃ target, shape.kind = .member target ∧ (shape.traits.isStreaming = true ∨
    ∃ t, m.get? target = some t ∧ t.traits.isStreaming = true)
  linked : ∃ container, m.get? shape.id.withoutMember = some container ∧ container.StandsFor side

/-- The side of an operation on which the shape is an event stream. -/
def streamSide? (m : Model) (shape : Shape) : Option OperationSide :=
  if m.isEventStream shape then
    (m.get? shape.id.withoutMember).bind fun container => container.linkage?.map (·.side)
  else none

theorem isEventStream_iff : m.isEventStream shape = true ↔
    ∃ target, shape.kind = .member target ∧ (shape.traits.isStreaming = true ∨
      ∃ t, m.get? target = some t ∧ t.traits.isStreaming = true) := by
  obtain ⟨id, kind, traits⟩ := shape
  cases kind <;> simp [isEventStream, Shape.target?, Option.any_eq_true]

theorem streamSide?_eq_some_iff : m.streamSide? shape = some side ↔ m.StreamsOn shape side := by
  rw [streamSide?]
  constructor
  · intro h
    split at h
    · rename_i marked
      obtain ⟨container, found, link⟩ := Option.bind_eq_some_iff.1 h
      exact ⟨isEventStream_iff.1 marked, container, found,
        Shape.linkage?_map_side_eq_some_iff.1 link⟩
    · cases h
  · rintro ⟨marked, container, found, stands⟩
    rw [if_pos (isEventStream_iff.2 marked), found, Option.bind_some]
    exact Shape.linkage?_map_side_eq_some_iff.2 stands

theorem streamSide?_eq_none_iff : m.streamSide? shape = none ↔ ∀ side, ¬m.StreamsOn shape side := by
  simp only [← streamSide?_eq_some_iff, Option.eq_none_iff_forall_ne_some]

end Model

/-! ### The stage -/

namespace StreamSymbols

variable {s : StreamSymbols} {modules : ModulePaths} {shape : Shape} {initial : Symbol}

/-- **Where plain resolution succeeds, the stage finds all it looks up.** -/
theorem channelOf?_of_resolved (h : baseProvider s.model modules shape = .ok initial) :
    s.channelOf? shape = .ok ((s.model.streamSide? shape).map (channelEnd · s.target)) := by
  unfold channelOf? Model.streamSide?
  split
  · rename_i marked
    obtain ⟨target, kind, -⟩ := Model.isEventStream_iff.1 marked
    have built := BaseSymbols.resolve_succ_eq_ok_iff.1 h
    cases built <;> simp_all [Shape.container?, Model.expect, ofModel, Except.mapError, bind,
      Except.bind, Option.map_map, Function.comp_def]
  · rfl

/-- The symbol of a channel end, with all that the stage adds to the symbol that was there. -/
theorem channelSymbol_eq (s : StreamSymbols) (initial : Symbol) (channel : ChannelEnd) :
    s.channelSymbol initial channel = { initial with
      name := (s.channelType initial.type.stripOption channel).render false
      ns := (s.channelItem channel).ns
      type := s.channelType initial.type.stripOption channel
      dependencies := addNew initial.dependencies s.dependency
      references := addNew (addNew initial.references initial) s.error.toSymbol } := by
  rw [channelSymbol, Symbol.addReference_eq, Symbol.addDependency_eq, Symbol.addReference_eq]

theorem channelType_ofRuntime (model : Model) (target : Target) (runtime : RuntimeCrate)
    (error : RuntimeItem) (event : RustType) (channel : ChannelEnd) :
    ((ofRuntime model target runtime).withErrorType error).channelType event channel =
      runtime.channelType event error.type channel := by
  cases channel <;> rfl

theorem mem_references_channelSymbol {channel : ChannelEnd} {r : Symbol} :
    r ∈ (s.channelSymbol initial channel).references ↔
      r ∈ initial.references ∨ r = initial ∨ r = s.error.toSymbol := by
  rw [channelSymbol_eq, mem_addNew, mem_addNew, or_assoc]

theorem initial_mem_references (s : StreamSymbols) (initial : Symbol) (channel : ChannelEnd) :
    initial ∈ (s.channelSymbol initial channel).references :=
  mem_references_channelSymbol.2 (.inr (.inl rfl))

theorem error_mem_references (s : StreamSymbols) (initial : Symbol) (channel : ChannelEnd) :
    s.error.toSymbol ∈ (s.channelSymbol initial channel).references :=
  mem_references_channelSymbol.2 (.inr (.inr rfl))

/-- A channel end refers to the symbol that was there, and so is another one. -/
theorem channelSymbol_ne (s : StreamSymbols) (initial : Symbol) (channel : ChannelEnd) :
    s.channelSymbol initial channel ≠ initial := by
  intro same
  have refers := s.initial_mem_references initial channel
  rw [same] at refers
  exact initial.not_mem_references_self refers

end StreamSymbols

/-! ### The chain -/

section Chain

variable {s : StreamSymbols} {modules : ModulePaths} {shape : Shape} {initial : Symbol}

/-- **The chain succeeds with the plain symbol or a channel end in its place.** -/
theorem streamProvider_of_ok (h : baseProvider s.model modules shape = .ok initial) :
    streamProvider s modules shape = .ok ((s.model.streamSide? shape).elim initial fun side =>
      s.channelSymbol initial (channelEnd side s.target)) := by
  rw [streamProvider, SymbolProvider.wrap_of_ok h, StreamSymbols.stage,
    StreamSymbols.channelOf?_of_resolved h]
  cases s.model.streamSide? shape <;> rfl

/-- The plain symbol stays exactly where the shape is no event stream of an operation. -/
theorem streamProvider_eq_plain_iff (h : baseProvider s.model modules shape = .ok initial) :
    streamProvider s modules shape = .ok initial ↔ ∀ side, ¬s.model.StreamsOn shape side := by
  rw [← Model.streamSide?_eq_none_iff, streamProvider_of_ok h, Except.ok.injEq]
  cases s.model.streamSide? shape with
  | none => simp
  | some side => simp [s.channelSymbol_ne]

theorem streamProvider_of_streamsOn (h : baseProvider s.model modules shape = .ok initial)
    {side : OperationSide} (streams : s.model.StreamsOn shape side) :
    streamProvider s modules shape =
      .ok (s.channelSymbol initial (channelEnd side s.target)) := by
  rw [streamProvider_of_ok h, Model.streamSide?_eq_some_iff.2 streams, Option.elim_some]

theorem streamProvider_eq_error_iff {e : GenerationError} :
    streamProvider s modules shape = .error e ↔ baseProvider s.model modules shape = .error e := by
  cases plain : baseProvider s.model modules shape with
  | error e' => rw [streamProvider, SymbolProvider.wrap_of_error plain]
  | ok initial => simp [streamProvider_of_ok plain]

end Chain

/-! ### The type of the events -/

namespace BaseSymbols

variable {model : Model} {modules : ModulePaths} {shape : Shape} {s : Symbol}

/-- Only members have optional types. -/
theorem Built.stripOption_type {part : Shape → Symbol → Prop}
    (h : Built model modules part shape s) (notMember : shape.isMember = false) :
    s.type.stripOption = s.type := by
  cases h with
  | @simple type kind => cases type <;> rfl
  | aggregate kind => rfl
  | operation kind => rfl
  | service kind => rfl
  | list kind found resolved =>
    rw [BaseSymbols.list, collection_eq]
    rfl
  | map kind keyFound keyResolved valueFound valueResolved =>
    rw [BaseSymbols.map, collection_eq]
    rfl
  | member kind found resolved contained => simp [Shape.isMember, kind] at notMember

/-- The type of a member is that of its target, with or without an `Option` around it. -/
theorem stripOption_type_member (container : Option Shape) (shape : Shape) {target : Symbol}
    (plain : target.type.stripOption = target.type) :
    (member container shape target).type.stripOption = target.type := by
  rw [member]
  split
  · exact plain
  · rw [optionalMember_eq]
    rfl

/-- **Without an outer `Option`, a member has the type of its target.** -/
theorem exists_target_type (h : baseProvider model modules shape = .ok s) {id : ShapeId}
    {target : Shape} (named : shape.target? = some id) (found : model.get? id = some target)
    (notMember : target.isMember = false) :
    ∃ u, baseProvider model modules target = .ok u ∧ u.type = s.type.stripOption := by
  have built := resolve_succ_eq_ok_iff.1 h
  cases built with
  | @member id' target' u container kind found' resolved contained =>
    have same : id' = id := by simpa [Shape.target?, kind] using named
    subst same
    cases found.symm.trans found'
    have deeper := resolve_eq_ok_of_le (Nat.le_succ _) resolved
    refine ⟨u, deeper, ?_⟩
    have plain := (resolve_succ_eq_ok_iff.1 deeper).stripOption_type notMember
    exact (stripOption_type_member (some container) shape plain).symm
  | _ kind => simp [Shape.target?, kind] at named

end BaseSymbols

/-! ### The whole stage -/

/-- **The stage rewrites exactly the event streams of operations, into a channel of the right
events.**  The chain fails as plain resolution does; it leaves the symbol of any other shape as it
is; and the events of the channel have the plain type of the target. -/
theorem streamProvider_rewrites_exactly (model : Model) (target : Target) (runtime : RuntimeCrate)
    (error : RuntimeItem) (modules : ModulePaths) (shape : Shape) :
    let chain : SymbolProvider :=
      streamProvider ((StreamSymbols.ofRuntime model target runtime).withErrorType error) modules
    (∀ e, chain shape = .error e ↔ baseProvider model modules shape = .error e) ∧
    ∀ initial, baseProvider model modules shape = .ok initial →
      (chain shape = .ok initial ↔ ∀ side, ¬model.StreamsOn shape side) ∧
      ∀ side, model.StreamsOn shape side → ∃ s event, chain shape = .ok s ∧
        s.type = runtime.channelType event error.type (channelEnd side target) ∧
        event = initial.type.stripOption ∧
        ∀ id t, shape.target? = some id → model.get? id = some t → t.isMember = false →
          ∃ u, baseProvider model modules t = .ok u ∧ u.type = event := by
  intro chain
  refine ⟨fun e => streamProvider_eq_error_iff, fun initial plain => ⟨?_, ?_⟩⟩
  · exact streamProvider_eq_plain_iff plain
  · intro side streams
    refine ⟨_, _, streamProvider_of_streamsOn plain streams, ?_, rfl, ?_⟩
    · rw [StreamSymbols.channelSymbol_eq]
      exact StreamSymbols.channelType_ofRuntime _ _ _ _ _ _
    · exact fun id t named found notMember =>
        BaseSymbols.exists_target_type plain named found notMember

/-- A structure that is linked as the input of one operation and as the output of another, with a
member that may be left out and whose target is marked. -/
def Model.talk : Model where
  shapes :=
    [⟨.ofName "a" "Events", .aggregate .union [], ⟨[.streaming]⟩⟩,
     ⟨.ofName "a" "Talk", .aggregate .record ["events"],
       ⟨[.syntheticOutput (.ofName "a" "Hear"), .syntheticInput (.ofName "a" "Say")]⟩⟩,
     ⟨(ShapeId.ofName "a" "Talk").withMember "events", .member (.ofName "a" "Events"), .empty⟩]
  sorted := by decide

/-- The member that streams in `Model.talk`. -/
def Shape.talkEvents : Shape :=
  ⟨(ShapeId.ofName "a" "Talk").withMember "events", .member (.ofName "a" "Events"), .empty⟩

/-- An error type of its own for receivers. -/
def RuntimeItem.talkError : RuntimeItem := ⟨"TalkError", "crate::error", none⟩

/-- The member is optional and counts as part of an input, so a server receives its events. -/
theorem talkEvents_rewritten :
    ∃ initial s, baseProvider .talk {} .talkEvents = .ok initial ∧
      initial.type = .option (.named "Events" (some "crate::model")) ∧
      Model.talk.StreamsOn .talkEvents .input ∧
      streamProvider ((StreamSymbols.ofRuntime .talk .server {}).withErrorType .talkError) {}
        .talkEvents = .ok s ∧
      s.type = RuntimeCrate.channelType {} (.named "Events" (some "crate::model"))
        (.named "TalkError" (some "crate::error")) .receiver := by
  have plain : ∃ initial, baseProvider .talk {} .talkEvents = .ok initial ∧
      initial.type = .option (.named "Events" (some "crate::model")) := ⟨_, rfl, rfl⟩
  obtain ⟨initial, plain, optional⟩ := plain
  have streams : Model.talk.StreamsOn .talkEvents .input :=
    Model.streamSide?_eq_some_iff.1 (by decide)
  obtain ⟨s, _, rewritten, type, rfl, -⟩ :=
    ((streamProvider_rewrites_exactly .talk .server {} .talkError {} .talkEvents).2 initial plain).2
      .input streams
  rw [optional] at type
  exact ⟨initial, s, plain, optional, streams, rewritten, type⟩

end ServiceShapes
