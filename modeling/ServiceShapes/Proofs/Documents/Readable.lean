import ServiceShapes.Proofs.Ids
import ServiceShapes.Proofs.Normalization.Lookup

/-!
# Models whose ids can be read back

A document holds ids as text, so a model can be read back from it only if every id in it can
(`Model.Readable`): the ids of the shapes, and those inside of their kinds and traits.

Normalization keeps a model readable (`Model.Readable.normalize`), since the only ids that it makes
are longer in the namespace and the name, by texts without separators.
-/

namespace ServiceShapes

/-! ### The ids in a model -/

/-- The ids in a trait. -/
def Trait.ids : Trait → List ShapeId
  | .syntheticInput operation | .syntheticOutput operation => [operation]
  | .streaming | .required | .error _ | .documentation _ => []

/-- The ids in a kind of shape. -/
def ShapeKind.ids : ShapeKind → List ShapeId
  | .service operations => operations
  | .operation input output errors => input.toList ++ output.toList ++ errors
  | .member target => [target]
  | .list item => [item]
  | .map key value => [key, value]
  | .aggregate .. | .simple _ => []

/-- A trait whose ids can be read back. -/
def Trait.Readable (t : Trait) : Prop := ∀ id ∈ t.ids, id.Readable

/-- A kind of shape whose ids can be read back. -/
def ShapeKind.Readable (kind : ShapeKind) : Prop := ∀ id ∈ kind.ids, id.Readable

/-- A shape whose ids can be read back. -/
structure Shape.Readable (s : Shape) : Prop where
  id : s.id.Readable
  kind : s.kind.Readable
  traits : ∀ t ∈ s.traits.toList, t.Readable

/-- A model all of whose ids can be read back. -/
def Model.Readable (m : Model) : Prop := ∀ s ∈ m.shapes, s.Readable

instance (t : Trait) : Decidable t.Readable := inferInstanceAs (Decidable (∀ id ∈ t.ids, _))

instance (kind : ShapeKind) : Decidable kind.Readable :=
  inferInstanceAs (Decidable (∀ id ∈ kind.ids, _))

instance (s : Shape) : Decidable s.Readable :=
  decidable_of_iff (s.id.Readable ∧ s.kind.Readable ∧ ∀ t ∈ s.traits.toList, t.Readable)
    ⟨fun ⟨id, kind, traits⟩ => ⟨id, kind, traits⟩, fun ⟨id, kind, traits⟩ => ⟨id, kind, traits⟩⟩

instance (m : Model) : Decidable m.Readable := inferInstanceAs (Decidable (∀ s ∈ m.shapes, _))

namespace ShapeKind

theorem readable_operation_iff {input output : Option ShapeId} {errors : List ShapeId} :
    (operation input output errors).Readable ↔ (∀ id ∈ input.toList, id.Readable) ∧
      (∀ id ∈ output.toList, id.Readable) ∧ ∀ id ∈ errors, id.Readable := by
  simp [ShapeKind.Readable, ids, or_imp, forall_and]

theorem readable_map_iff {key value : ShapeId} :
    (map key value).Readable ↔ key.Readable ∧ value.Readable := by
  simp [ShapeKind.Readable, ids]

end ShapeKind

/-! ### The ids that normalization makes -/

/-- **The id of a structure for one side of an operation is as readable as that of the
operation.** -/
theorem ShapeId.Readable.syntheticId {operation : ShapeId} (readable : operation.Readable)
    (side : OperationSide) : (side.syntheticId operation).Readable where
  ns_ne := by
    rw [OperationSide.syntheticId, ofName, syntheticNamespace]
    simp [← String.toList_eq_nil_iff]
  ns_closed := by
    have closed := readable.ns_closed
    rw [OperationSide.syntheticId, ofName, syntheticNamespace]
    simp [closed]
  name_ne := by
    have nonempty := readable.name_ne
    rw [OperationSide.syntheticId, ofName]
    simp [nonempty]
  name_closed := by
    have closed := readable.name_closed
    rw [OperationSide.syntheticId, ofName]
    cases side <;> simp [closed, OperationSide.nameSuffix]
  member_ne := by
    rw [OperationSide.syntheticId, ofName]
    simp

theorem Trait.readable_link {operation : ShapeId} (readable : operation.Readable)
    (side : OperationSide) : (side.link operation).Readable := by
  intro id hid
  have same : id = operation := by
    cases side
    · exact List.mem_singleton.1 hid
    · exact List.mem_singleton.1 hid
  rw [same]
  exact readable

/-- Inserting a readable trait keeps traits readable. -/
theorem TraitSet.readable_insert {set : TraitSet} {t : Trait} (readable : t.Readable)
    (others : ∀ u ∈ set.toList, u.Readable) : ∀ u ∈ (set.insert t).toList, u.Readable := by
  intro u hu
  rw [toList_insert, List.mem_append, List.mem_singleton] at hu
  rcases hu with old | rfl
  · exact others u (List.mem_of_mem_filter old)
  · exact readable

namespace Model.Readable

variable {m m' : Model} {operation s : Shape} {side : OperationSide}

theorem of_sideShape? (readable : m.Readable) (h : m.sideShape? operation side = some s) :
    s.Readable := by
  obtain ⟨id, -, found⟩ := Option.bind_eq_some_iff.1 h
  exact readable s (mem_of_get? found)

theorem sideOutcome_id (readable : m.Readable) (ho : operation.id.Readable)
    (side : OperationSide) : (m.sideOutcome operation side).id.Readable := by
  cases linkedSide : m.isLinked operation side with
  | true =>
    obtain ⟨s, present, linked⟩ := isLinked_iff.1 linkedSide
    rw [sideOutcome_of_linked present linked]
    exact (readable.of_sideShape? present).id
  | false =>
    rw [sideOutcome_of_not_linked linkedSide]
    exact ho.syntheticId side

theorem normalizedShape (readable : m.Readable) (hs : s.Readable) :
    (m.normalizedShape s).Readable where
  id := by
    rw [normalizedShape_id]
    exact hs.id
  traits := by
    rw [normalizedShape_traits]
    exact hs.traits
  kind := by
    cases operates : s.isOperation with
    | false =>
      rw [normalizedShape_of_not_operation operates]
      exact hs.kind
    | true =>
      obtain ⟨input, output, errors, kind⟩ := Shape.isOperation_iff.1 operates
      have old := hs.kind
      rw [kind] at old
      have errorsReadable := (ShapeKind.readable_operation_iff.1 old).2.2
      simp only [Model.normalizedShape, Shape.withSides, kind]
      refine ShapeKind.readable_operation_iff.2 ⟨?_, ?_, errorsReadable⟩
      · exact List.forall_mem_singleton.2 (readable.sideOutcome_id hs.id .input)
      · exact List.forall_mem_singleton.2 (readable.sideOutcome_id hs.id .output)

theorem sideContainer (readable : m.Readable) (ho : operation.id.Readable)
    (side : OperationSide) : (m.sideContainer operation side).Readable where
  id := ho.syntheticId side
  kind := List.forall_mem_nil _
  traits := by
    refine TraitSet.readable_insert (Trait.readable_link ho side) ?_
    cases present : m.sideShape? operation side with
    | none => exact List.forall_mem_nil _
    | some s => exact (readable.of_sideShape? present).traits

/-- A moved member keeps its name, its kind and its traits. -/
theorem sideMembers (readable : m.Readable) (ho : operation.id.Readable)
    (hs : s ∈ m.sideMembers operation side) : s.Readable := by
  obtain ⟨original, horiginal, rfl⟩ := List.mem_map.1 hs
  obtain ⟨container, -, member⟩ := exists_container_of_mem_sideOriginals horiginal
  have old : original.Readable := readable original (mem_of_mem_members member)
  -- the new id takes its member part from the old one and the rest from the new container
  have new := ho.syntheticId side
  exact {
    id := ⟨new.ns_ne, new.ns_closed, new.name_ne, new.name_closed, old.id.member_ne⟩
    kind := old.kind
    traits := old.traits }

/-- **Normalization keeps a model readable.** -/
theorem normalize (readable : m.Readable) (h : m.normalize = .ok m') : m'.Readable := by
  intro t ht
  obtain ⟨s, hs, outcome⟩ := (mem_normalize_iff h).1 ht
  have old := readable s hs
  rcases mem_shapeOutcome.1 outcome with rfl | ⟨side, made⟩
  · exact readable.normalizedShape old
  · obtain ⟨operates, notLinked⟩ := not_linked_of_mem_madeFor made
    rw [madeFor_of_not_linked operates notLinked] at made
    rcases List.mem_cons.1 made with rfl | member
    · exact readable.sideContainer old.id side
    · exact readable.sideMembers old.id member

end Model.Readable

end ServiceShapes
