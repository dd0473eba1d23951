import Mathlib.Data.List.Lattice
import Mathlib.Data.List.Pairwise
import ServiceShapes.Proofs.Normalization.Links
import ServiceShapes.Proofs.Normalization.Outcome

/-!
# Looking into a normalized model

The shapes of a normalized model are known (`Model.normalize_eq_ok_iff`); here they are found again
by their ids.

* A shape of the original model is found under its old id, an operation with its sides renamed
  (`Model.get?_normalizedShape`).
* The shape on a side of an operation is the old one if that was linked already, and else the new
  container (`Model.sideShape?_of_linked`, `Model.sideShape?_of_not_linked`), which has exactly the
  moved members (`Model.members_sideContainer`).
* What was made for a side is new: no shape of the original model has its id
  (`Model.get?_eq_none_of_mem_madeFor`).

All of it rests on the ids of the resulting shapes being different, which is what keeps a new shape
from standing in the way of another one.
-/

namespace ServiceShapes

namespace Model

open Function (onFun)

variable {m m' : Model} {s t u operation : Shape} {side : OperationSide}

theorem mem_normalize_iff (h : m.normalize = .ok m') :
    t ∈ m'.shapes ↔ ∃ s ∈ m.shapes, t ∈ m.shapeOutcome s := by
  rw [(normalize_eq_ok_iff.1 h).2.mem_iff, List.mem_flatMap]

/-- What a normalized model is built from has no id twice. -/
theorem nodup_outcome_ids (h : m.normalize = .ok m') :
    (m.shapes.flatMap fun s => (m.shapeOutcome s).map (·.id)).Nodup := by
  rw [← List.map_flatMap]
  exact ((normalize_eq_ok_iff.1 h).2.map Shape.id).nodup m'.nodup_ids

/-- **An id tells which shape of the original model it goes back to.** -/
theorem eq_of_outcome_id_eq (h : m.normalize = .ok m') (hs : s ∈ m.shapes) (hu : u ∈ m.shapes)
    {t t' : Shape} (ht : t ∈ m.shapeOutcome s) (ht' : t' ∈ m.shapeOutcome u)
    (same : t.id = t'.id) : s = u := by
  by_contra different
  -- ids are not shared between the outcomes of different shapes
  have apart := (List.nodup_flatMap.1 (nodup_outcome_ids h)).2
  have : Std.Symm (onFun List.Disjoint fun s => (m.shapeOutcome s).map (·.id)) :=
    ⟨fun _ _ => List.Disjoint.symm⟩
  exact apart.forall hs hu different (List.mem_map.2 ⟨t, ht, rfl⟩)
    (List.mem_map.2 ⟨t', ht', same.symm⟩)

/-! ### Shapes of the original model -/

/-- A shape that is no operation stays as it is. -/
theorem normalizedShape_of_not_operation (hs : s.isOperation = false) : m.normalizedShape s = s :=
  Shape.withSides_of_not_operation hs _

theorem mem_of_normalizedShape (h : m.normalize = .ok m') (hs : s ∈ m.shapes) :
    m.normalizedShape s ∈ m'.shapes :=
  (mem_normalize_iff h).2 ⟨s, hs, mem_shapeOutcome.2 (.inl rfl)⟩

/-- **Every shape is found under its old id, operations with new sides.** -/
theorem get?_normalizedShape (h : m.normalize = .ok m') (hs : s ∈ m.shapes) :
    m'.get? s.id = some (m.normalizedShape s) :=
  get?_eq_some_iff.2 ⟨mem_of_normalizedShape h hs, m.normalizedShape_id s⟩

/-! ### Shapes made for a side -/

theorem madeFor_of_not_linked (operates : operation.isOperation = true)
    (notLinked : m.isLinked operation side = false) :
    m.madeFor operation side = m.sideContainer operation side :: m.sideMembers operation side := by
  rw [madeFor, if_pos operates, sideOutcome_of_not_linked notLinked]

/-- Shapes are made only for operations, and only for sides that are not linked. -/
theorem not_linked_of_mem_madeFor (ht : t ∈ m.madeFor operation side) :
    operation.isOperation = true ∧ m.isLinked operation side = false := by
  unfold madeFor at ht
  split at ht
  · rename_i operates
    refine ⟨operates, Bool.eq_false_iff.2 fun linked => ?_⟩
    obtain ⟨s, present, link⟩ := isLinked_iff.1 linked
    rw [sideOutcome_of_linked present link] at ht
    cases ht
  · cases ht

theorem mem_of_mem_madeFor (h : m.normalize = .ok m') (ho : operation ∈ m.shapes)
    (ht : t ∈ m.madeFor operation side) : t ∈ m'.shapes :=
  (mem_normalize_iff h).2 ⟨operation, ho, mem_shapeOutcome.2 (.inr ⟨side, ht⟩)⟩

/-- **What is made for a side is new.** -/
theorem get?_eq_none_of_mem_madeFor (h : m.normalize = .ok m') (ho : operation ∈ m.shapes)
    (ht : t ∈ m.madeFor operation side) : m.get? t.id = none := by
  rw [get?_eq_none_iff]
  intro s hs same
  -- a shape of the same id would be the operation itself, which is built beside what is made for it
  have own : s = operation := eq_of_outcome_id_eq h hs ho (mem_shapeOutcome.2 (.inl rfl))
    (mem_shapeOutcome.2 (.inr ⟨side, ht⟩)) (by simpa using same)
  subst own
  have distinct := (List.nodup_flatMap.1 (nodup_outcome_ids h)).1 s hs
  rw [shapeOutcome, List.map_append, List.nodup_append] at distinct
  refine distinct.2.2 t.id ?_ s.id (by simp) same.symm
  rw [List.map_append, List.mem_append]
  cases side
  · exact .inl (List.mem_map.2 ⟨t, ht, rfl⟩)
  · exact .inr (List.mem_map.2 ⟨t, ht, rfl⟩)

theorem get?_sideContainer (h : m.normalize = .ok m') (ho : operation ∈ m.shapes)
    (operates : operation.isOperation = true) (notLinked : m.isLinked operation side = false) :
    m'.get? (side.syntheticId operation.id) = some (m.sideContainer operation side) := by
  have made : m.sideContainer operation side ∈ m.madeFor operation side := by
    rw [madeFor_of_not_linked operates notLinked]
    exact List.mem_cons_self
  exact get?_eq_some_iff.2 ⟨mem_of_mem_madeFor h ho made, rfl⟩

theorem memberNames_sideContainer (m : Model) (operation : Shape) (side : OperationSide) :
    (m.sideContainer operation side).memberNames =
      (m.sideOriginals operation side).filterMap (·.id.member) := rfl

/-- **A new container has the members that were moved for it, in their order.** -/
theorem members_sideContainer (h : m.normalize = .ok m') (ho : operation ∈ m.shapes)
    (operates : operation.isOperation = true) (notLinked : m.isLinked operation side = false) :
    m'.members (m.sideContainer operation side) = m.sideMembers operation side := by
  have found : ∀ t ∈ m.sideMembers operation side, m'.get? t.id = some t := by
    intro t ht
    have made : t ∈ m.madeFor operation side := by
      rw [madeFor_of_not_linked operates notLinked]
      exact List.mem_cons_of_mem _ ht
    exact get?_id (mem_of_mem_madeFor h ho made)
  rw [members, memberNames_sideContainer, List.filterMap_filterMap, sideMembers,
    ← List.filterMap_eq_map]
  refine List.filterMap_congr ?_
  intro original horiginal
  obtain ⟨container, -, horiginal'⟩ := exists_container_of_mem_sideOriginals horiginal
  obtain ⟨name, originalId⟩ := id_of_mem_members horiginal'
  have named : original.id.member = some name := by rw [originalId, ShapeId.withMember_member]
  have moved := found _ (List.mem_map.2 ⟨original, horiginal, rfl⟩)
  rw [named, Option.bind_some]
  rw [Shape.under_id originalId] at moved
  exact moved

/-! ### Sides of operations -/

theorem sideShape?_normalizedShape (operates : operation.isOperation = true) :
    m'.sideShape? (m.normalizedShape operation) side =
      m'.get? (m.sideOutcome operation side).id := by
  rw [sideShape?, normalizedShape, Shape.sideId?_withSides operates, Option.bind_some]

/-- A linked shape stays on its side. -/
theorem sideShape?_of_linked (h : m.normalize = .ok m') (operates : operation.isOperation = true)
    (present : m.sideShape? operation side = some s)
    (linked : s.traits.linkedOperation? side = some operation.id) :
    m'.sideShape? (m.normalizedShape operation) side = some (m.normalizedShape s) := by
  rw [sideShape?_normalizedShape operates, sideOutcome_of_linked present linked]
  obtain ⟨id, -, found⟩ := Option.bind_eq_some_iff.1 present
  exact get?_normalizedShape h (mem_of_get? found)

/-- A side that was not linked gets the new container. -/
theorem sideShape?_of_not_linked (h : m.normalize = .ok m') (ho : operation ∈ m.shapes)
    (operates : operation.isOperation = true) (notLinked : m.isLinked operation side = false) :
    m'.sideShape? (m.normalizedShape operation) side = some (m.sideContainer operation side) := by
  rw [sideShape?_normalizedShape operates, sideOutcome_of_not_linked notLinked]
  exact get?_sideContainer h ho operates notLinked

/-- **After normalization every side of an operation is linked to it.**  A link for the other side
is there when the shape on this side carried one before. -/
theorem exists_linked_sideShape (h : m.normalize = .ok m') (ho : operation ∈ m.shapes)
    (operates : operation.isOperation = true) (side : OperationSide) :
    ∃ t, m'.sideShape? (m.normalizedShape operation) side = some t ∧
      t.id = (m.sideOutcome operation side).id ∧
      t.traits.linkedOperation? side = some operation.id ∧
      ∀ other ≠ side, t.traits.linkedOperation? other =
        (m.sideShape? operation side).bind (·.traits.linkedOperation? other) := by
  cases linkedSide : m.isLinked operation side with
  | true =>
    obtain ⟨s, present, linked⟩ := isLinked_iff.1 linkedSide
    refine ⟨_, sideShape?_of_linked h operates present linked, ?_, ?_, ?_⟩
    · rw [sideOutcome_of_linked present linked, normalizedShape_id]
    · rw [normalizedShape_traits, linked]
    · intro other _
      rw [normalizedShape_traits, present, Option.bind_some]
  | false =>
    refine ⟨_, sideShape?_of_not_linked h ho operates linkedSide, ?_, ?_, ?_⟩
    · rw [sideOutcome_of_not_linked linkedSide]
      rfl
    · exact TraitSet.linkedOperation?_insert_link _ _ _
    · intro other different
      rw [sideContainer, TraitSet.linkedOperation?_insert_link_of_ne different]
      cases m.sideShape? operation side with
      | none => cases other <;> rfl
      | some s => rfl

end Model

end ServiceShapes
