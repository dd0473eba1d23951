import ServiceShapes.Model.Normalized

/-!
# Links between structures and operations

A structure is linked to one side of an operation by a trait, and it may carry links for both sides.
`Trait.linkOf?` reads the link for one side off a single trait, so that both sides can be treated
alike.  Inserting a link replaces the link for its own side and leaves the one for the other side
alone (`TraitSet.linkedOperation?_insert_link`, `TraitSet.linkedOperation?_insert_link_of_ne`); a
structure that carries both counts as an input (`Shape.linkage?_eq_output_iff`).
-/

namespace ServiceShapes

/-- The operation that a trait links to on one side. -/
def Trait.linkOf? : OperationSide → Trait → Option ShapeId
  | .input, .syntheticInput operation => some operation
  | .output, .syntheticOutput operation => some operation
  | _, _ => none

@[simp] theorem Trait.linkOf?_link (side : OperationSide) (operation : ShapeId) :
    (side.link operation).linkOf? side = some operation := by
  cases side <;> rfl

theorem Trait.linkOf?_link_of_ne {side other : OperationSide} (h : other ≠ side)
    (operation : ShapeId) : (side.link operation).linkOf? other = none := by
  cases side <;> cases other <;> first | rfl | exact absurd rfl h

/-- A trait that is not of the kind of a link is no link for its side. -/
theorem Trait.linkOf?_of_kind_ne {side : OperationSide} {operation : ShapeId} {t : Trait}
    (h : t.kind ≠ (side.link operation).kind) : t.linkOf? side = none := by
  cases side <;> cases t <;> first | rfl | exact absurd rfl h

/-- Links for different sides are of different kinds. -/
theorem Trait.kind_ne_of_linkOf? {side other : OperationSide} (h : other ≠ side)
    (operation : ShapeId) {t : Trait} (reads : t.linkOf? other ≠ none) :
    t.kind ≠ (side.link operation).kind := by
  cases side <;> cases other <;> cases t <;> simp_all [linkOf?, kind, OperationSide.link]

namespace TraitSet

theorem linkedOperation?_eq (set : TraitSet) (side : OperationSide) :
    set.linkedOperation? side = set.toList.findSome? (Trait.linkOf? side) := by
  cases side
  · rw [linkedOperation?, syntheticInput?]
    congr 1
    funext t
    cases t <;> rfl
  · rw [linkedOperation?, syntheticOutput?]
    congr 1
    funext t
    cases t <;> rfl

/-- **An inserted link is the one that is read.** -/
@[simp] theorem linkedOperation?_insert_link (set : TraitSet) (side : OperationSide)
    (operation : ShapeId) :
    (set.insert (side.link operation)).linkedOperation? side = some operation := by
  have others : (set.toList.filter fun old => old.kind ≠ (side.link operation).kind).findSome?
      (Trait.linkOf? side) = none := by
    rw [List.findSome?_eq_none_iff]
    intro t ht
    exact Trait.linkOf?_of_kind_ne (by simpa using (List.mem_filter.1 ht).2)
  rw [linkedOperation?_eq, toList_insert, List.findSome?_append, others]
  simp

/-- **An inserted link leaves the other side alone.** -/
theorem linkedOperation?_insert_link_of_ne {side other : OperationSide} (h : other ≠ side)
    (set : TraitSet) (operation : ShapeId) :
    (set.insert (side.link operation)).linkedOperation? other = set.linkedOperation? other := by
  have kept : (set.toList.filter fun old => old.kind ≠ (side.link operation).kind).findSome?
      (Trait.linkOf? other) = set.toList.findSome? (Trait.linkOf? other) := by
    induction set.toList with
    | nil => rfl
    | cons t rest ih =>
      cases reads : t.linkOf? other with
      | none =>
        rw [List.findSome?_cons, reads, ← ih, List.filter_cons]
        split <;> simp [reads]
      | some linked =>
        have stays : t.kind ≠ (side.link operation).kind :=
          Trait.kind_ne_of_linkOf? h operation (by simp [reads])
        rw [List.filter_cons, if_pos (by simpa using stays)]
        simp [reads]
  rw [linkedOperation?_eq, linkedOperation?_eq, toList_insert, List.findSome?_append, kept]
  simp [Trait.linkOf?_link_of_ne h]

end TraitSet

namespace Shape

/-- A structure stands for an input when it carries a link for inputs. -/
theorem linkage?_eq_input_iff {s : Shape} {operation : ShapeId} :
    s.linkage? = some ⟨.input, operation⟩ ↔
      s.traits.linkedOperation? .input = some operation := by
  unfold linkage? TraitSet.linkedOperation?
  split <;> simp_all

/-- **A structure stands for an output only when it carries no link for inputs.** -/
theorem linkage?_eq_output_iff {s : Shape} {operation : ShapeId} :
    s.linkage? = some ⟨.output, operation⟩ ↔ s.traits.linkedOperation? .input = none ∧
      s.traits.linkedOperation? .output = some operation := by
  unfold linkage? TraitSet.linkedOperation?
  split <;> simp_all

end Shape

end ServiceShapes
