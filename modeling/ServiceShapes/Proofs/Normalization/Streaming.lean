import ServiceShapes.Generation.StreamSigning
import ServiceShapes.Proofs.Normalization.Lookup

/-!
# Normalization and event streams

Whether something streams is found out by a chain of look-ups: from a service to its operations,
from an operation to the structure on one of its sides, from there to the members, and from a member
to its target.  Normalization puts new structures into the middle of this chain.

`Model.KeepsStreaming m m'` says that the chain gives the same answers in both models, and
`Model.normalize_keepsStreaming` that it does so after normalization.  The two models are compared
link by link: a shape that was there is found again as `Model.normalizedShape` has it, and moving a
member into a new structure touches neither its target nor its marks.

All of this needs `Model.ReferencesResolve`.  A reference that leads nowhere may lead somewhere
after normalization, namely to one of the new shapes, and that shape may be marked as streaming.
-/

namespace List

theorem any_map_congr {α β : Type} {f : α → β} {p : α → Bool} {q : β → Bool} {l : List α}
    (same : ∀ a ∈ l, q (f a) = p a) : (l.map f).any q = l.any p := by
  rw [any_map, Bool.eq_iff_iff, any_eq_true, any_eq_true]
  exact exists_congr fun a => and_congr_right fun ha => by rw [Function.comp_apply, same a ha]

end List

namespace ServiceShapes

namespace Shape

@[simp] theorem target?_withSides (s : Shape) (sides : OperationSide → ShapeId) :
    (s.withSides sides).target? = s.target? := by
  unfold withSides
  split
  · simp_all [target?]
  · rfl

@[simp] theorem memberNames_withSides (s : Shape) (sides : OperationSide → ShapeId) :
    (s.withSides sides).memberNames = s.memberNames := by
  unfold withSides
  split
  · simp_all [memberNames]
  · rfl

@[simp] theorem operationIds_withSides (s : Shape) (sides : OperationSide → ShapeId) :
    (s.withSides sides).operationIds = s.operationIds := by
  unfold withSides
  split
  · simp_all [operationIds]
  · rfl

theorem isOperation_of_isService {s : Shape} (h : s.isService = true) : s.isOperation = false := by
  obtain ⟨id, kind, traits⟩ := s
  cases kind <;> simp_all [isService, isOperation]

end Shape

namespace Model

variable {m m' : Model} {s t operation : Shape} {side : OperationSide}

/-- The references that the search for event streams follows lead to shapes of the model.  The sides
of operations need not be asked for: normalization fails unless they do. -/
structure ReferencesResolve (m : Model) : Prop where
  operations : ∀ s ∈ m.shapes, ∀ id ∈ s.operationIds, m.contains id = true
  members : ∀ s ∈ m.shapes, ∀ name ∈ s.memberNames, m.contains (s.id.withMember name) = true
  targets : ∀ s ∈ m.shapes, ∀ id ∈ s.target?, m.contains id = true

instance (m : Model) : Decidable m.ReferencesResolve :=
  decidable_of_iff
    ((∀ s ∈ m.shapes, ∀ id ∈ s.operationIds, m.contains id = true) ∧
      (∀ s ∈ m.shapes, ∀ name ∈ s.memberNames, m.contains (s.id.withMember name) = true) ∧
      ∀ s ∈ m.shapes, ∀ id ∈ s.target?, m.contains id = true)
    ⟨fun ⟨a, b, c⟩ => ⟨a, b, c⟩, fun ⟨a, b, c⟩ => ⟨a, b, c⟩⟩

/-- The search for event streams gives the same answers in both models. -/
structure KeepsStreaming (m m' : Model) : Prop where
  operations : ∀ o ∈ m.shapes, o.isOperation = true → ∃ o', m'.get? o.id = some o' ∧
    o'.isOperation = true ∧ ∀ side, m'.streamsSide o' side = m.streamsSide o side
  services : ∀ s ∈ m.shapes, s.isService = true → ∃ s', m'.get? s.id = some s' ∧
    s'.isService = true ∧ m'.hasEventStreams s' = m.hasEventStreams s
  /-- The decorator that adds a signer applies to a service in both models or in neither. -/
  signing : ∀ s ∈ m.shapes, s.isService = true → ∀ target runtime modules,
    streamSigningDecorator.applies ⟨m', s.id, target, runtime, modules⟩ =
      streamSigningDecorator.applies ⟨m, s.id, target, runtime, modules⟩

/-! ### The links of the chain -/

/-- **What a reference led to, it leads to afterwards**, with new sides if it is an operation. -/
theorem get?_of_contains (h : m.normalize = .ok m') {id : ShapeId}
    (present : m.contains id = true) : m'.get? id = (m.get? id).map m.normalizedShape := by
  obtain ⟨s, found⟩ := Option.isSome_iff_exists.1 present
  rw [found, Option.map_some, ← get?_normalizedShape h (mem_of_get? found), id_of_get? found]

/-- A list of references leads to the same shapes afterwards. -/
theorem filterMap_get?_of_contains (h : m.normalize = .ok m') {α : Type} {l : List α}
    {ref : α → ShapeId} (present : ∀ a ∈ l, m.contains (ref a) = true) :
    l.filterMap (fun a => m'.get? (ref a)) =
      (l.filterMap fun a => m.get? (ref a)).map m.normalizedShape := by
  rw [List.map_filterMap]
  exact List.filterMap_congr fun a ha => get?_of_contains h (present a ha)

theorem members_normalizedShape (resolves : m.ReferencesResolve) (h : m.normalize = .ok m')
    (hs : s ∈ m.shapes) :
    m'.members (m.normalizedShape s) = (m.members s).map m.normalizedShape := by
  rw [members, members, normalizedShape_id, normalizedShape, Shape.memberNames_withSides]
  exact filterMap_get?_of_contains h (resolves.members s hs)

theorem operations_normalizedShape (resolves : m.ReferencesResolve) (h : m.normalize = .ok m')
    (hs : s ∈ m.shapes) :
    m'.operations (m.normalizedShape s) = (m.operations s).map m.normalizedShape := by
  rw [operations, operations, normalizedShape, Shape.operationIds_withSides]
  exact filterMap_get?_of_contains h (resolves.operations s hs)

/-- A shape with the target and the traits of another one is an event stream when that one is. -/
theorem isEventStream_of_same (resolves : m.ReferencesResolve) (h : m.normalize = .ok m')
    (hs : s ∈ m.shapes) (target : t.target? = s.target?) (traits : t.traits = s.traits) :
    m'.isEventStream t = m.isEventStream s := by
  rw [isEventStream, isEventStream, target, traits]
  cases named : s.target? with
  | none => rfl
  | some id =>
    have marks : (m'.get? id).any (·.traits.isStreaming) =
        (m.get? id).any (·.traits.isStreaming) := by
      rw [get?_of_contains h (resolves.targets s hs id named), Option.any_map]
      simp only [normalizedShape_traits]
    simp only [marks]

theorem isSome_eventStreamMember? (m : Model) (container : Shape) :
    (m.eventStreamMember? container).isSome = (m.members container).any m.isEventStream := by
  rw [eventStreamMember?, Bool.eq_iff_iff, List.find?_isSome, List.any_eq_true]

/-- **Structures whose members differ in their ids and sides alone have event streams alike.** -/
theorem eventStreamMember?_of_members (resolves : m.ReferencesResolve) (h : m.normalize = .ok m')
    {container container' : Shape} {move : Shape → Shape}
    (members : m'.members container' = (m.members container).map move)
    (target : ∀ s, (move s).target? = s.target?) (traits : ∀ s, (move s).traits = s.traits) :
    (m'.eventStreamMember? container').isSome = (m.eventStreamMember? container).isSome := by
  rw [isSome_eventStreamMember?, isSome_eventStreamMember?, members]
  refine List.any_map_congr ?_
  intro s hs
  exact isEventStream_of_same resolves h (mem_of_mem_members hs) (target s) (traits s)

/-! ### Operations and services -/

theorem streamsSide_eq (m : Model) (operation : Shape) (side : OperationSide) :
    m.streamsSide operation side = (m.sideShape? operation side).any fun container =>
      (m.eventStreamMember? container).isSome := rfl

/-- **Every side of every operation streams as before.** -/
theorem streamsSide_normalizedShape (resolves : m.ReferencesResolve) (h : m.normalize = .ok m')
    (ho : operation ∈ m.shapes) (side : OperationSide) :
    m'.streamsSide (m.normalizedShape operation) side = m.streamsSide operation side := by
  rw [streamsSide_eq, streamsSide_eq]
  cases operates : operation.isOperation with
  | false =>
    rw [normalizedShape_of_not_operation operates, sideShape?, sideShape?,
      Shape.sideId?_of_not_operation operates]
    rfl
  | true =>
    cases linkedSide : m.isLinked operation side with
    | true =>
      -- the structure stays, and so do its members
      obtain ⟨s, present, linked⟩ := isLinked_iff.1 linkedSide
      obtain ⟨id, -, found⟩ := Option.bind_eq_some_iff.1 present
      rw [sideShape?_of_linked h operates present linked, present]
      exact eventStreamMember?_of_members resolves h
        (members_normalizedShape resolves h (mem_of_get? found))
        (fun s => Shape.target?_withSides s _) m.normalizedShape_traits
    | false =>
      have moved := members_sideContainer h ho operates linkedSide
      rw [sideShape?_of_not_linked h ho operates linkedSide]
      rw [sideMembers, sideOriginals] at moved
      cases present : m.sideShape? operation side with
      | none =>
        rw [present] at moved
        simp [isSome_eventStreamMember?, moved]
      | some s =>
        rw [present] at moved
        exact eventStreamMember?_of_members resolves h moved (fun _ => rfl) fun _ => rfl

theorem hasEventStreams_normalizedShape (resolves : m.ReferencesResolve)
    (h : m.normalize = .ok m') (hs : s ∈ m.shapes) :
    m'.hasEventStreams (m.normalizedShape s) = m.hasEventStreams s := by
  rw [hasEventStreams, hasEventStreams, operations_normalizedShape resolves h hs]
  refine List.any_map_congr ?_
  intro o ho
  obtain ⟨id, -, found⟩ := List.mem_filterMap.1 ho
  have streams := streamsSide_normalizedShape resolves h (mem_of_get? found)
  rw [isEventStreamOperation, isEventStreamOperation, streams, streams]

/-- The decorator asks only whether the service has event streams. -/
theorem applies_streamSigning {ctx : Context} (found : ctx.model.get? ctx.service = some s) :
    streamSigningDecorator.applies ctx = ctx.model.hasEventStreams s := by
  simp [streamSigningDecorator, Context.hasEventStreams, expect, found]

/-- **Normalization preserves streaming**: that of each side of an operation, that of a service, and
so what the signing decorator is asked.  All three come from the sides (`streamsSide_normalizedShape`),
where a copied member has the target and the marks of the original and a kept one is left alone. -/
theorem normalize_keepsStreaming (resolves : m.ReferencesResolve) (h : m.normalize = .ok m') :
    m.KeepsStreaming m' where
  operations o ho operates := by
    refine ⟨m.normalizedShape o, get?_normalizedShape h ho, ?_, ?_⟩
    · rw [normalizedShape, Shape.isOperation_withSides, operates]
    · exact streamsSide_normalizedShape resolves h ho
  services s hs service := by
    have stays := m.normalizedShape_of_not_operation (Shape.isOperation_of_isService service)
    refine ⟨m.normalizedShape s, get?_normalizedShape h hs, ?_, ?_⟩
    · rw [stays, service]
    · exact hasEventStreams_normalizedShape resolves h hs
  signing s hs _ target runtime modules := by
    rw [applies_streamSigning (get?_normalizedShape h hs), applies_streamSigning (get?_id hs)]
    exact hasEventStreams_normalizedShape resolves h hs

/-- A service with three operations.  `Follow` has an output that is linked to it already and
streams by the mark of a target, `Post` has one structure with a marked member on both sides, and
`Ping` has no structures. -/
def streaming : Model where
  shapes :=
    [⟨.ofName "a" "Events", .aggregate .union [], ⟨[.streaming]⟩⟩,
     ⟨.ofName "a" "Follow", .operation none (some (.ofName "a" "Followed")) [], .empty⟩,
     ⟨.ofName "a" "Followed", .aggregate .record ["events"],
       ⟨[.syntheticOutput (.ofName "a" "Follow")]⟩⟩,
     ⟨(ShapeId.ofName "a" "Followed").withMember "events", .member (.ofName "a" "Events"), .empty⟩,
     ⟨.ofName "a" "Item", .aggregate .record ["lines", "name"], .empty⟩,
     ⟨(ShapeId.ofName "a" "Item").withMember "lines", .member (.ofName "a" "Text"),
       ⟨[.streaming]⟩⟩,
     ⟨(ShapeId.ofName "a" "Item").withMember "name", .member (.ofName "a" "Text"), .empty⟩,
     ⟨.ofName "a" "Ping", .operation none none [], .empty⟩,
     ⟨.ofName "a" "Post", .operation (some (.ofName "a" "Item")) (some (.ofName "a" "Item")) [],
       .empty⟩,
     ⟨.ofName "a" "Site", .service [.ofName "a" "Ping", .ofName "a" "Post", .ofName "a" "Follow"],
       .empty⟩,
     ⟨.ofName "a" "Text", .simple .string, .empty⟩]
  sorted := by decide

/-- Five structures and four members are added to this model, and its streams stay. -/
theorem streaming_keepsStreaming : streaming.ReferencesResolve ∧
    ∃ m', streaming.normalize = .ok m' ∧ m'.size = 20 ∧ streaming.KeepsStreaming m' := by
  have resolves : streaming.ReferencesResolve := by decide
  have normal : ∃ m', streaming.normalize = .ok m' ∧ m'.size = 20 := ⟨_, rfl, rfl⟩
  obtain ⟨m', h, size⟩ := normal
  exact ⟨resolves, m', h, size, normalize_keepsStreaming resolves h⟩

end Model

end ServiceShapes
