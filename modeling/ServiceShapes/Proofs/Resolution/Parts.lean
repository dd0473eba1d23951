import Mathlib.Data.Finset.Card
import Mathlib.Logic.Relation
import ServiceShapes.Model.Basic

/-!
# What a type is made of

The type of a list is made of that of its items, the type of a map of those of its keys and values, and
the type of a member of that of its target (`Model.IsPart`).  Structures, unions, operations and services
become named types and are made of no others.  `Model.Holds` says that a simple type is found by following
parts.

A model is acyclic if no type contains itself (`Model.Acyclic`).  Then fewer shapes lie below a part than
below the shape it is a part of (`Model.below_lt`), so that following parts comes to an end, after no more
steps than the model has shapes (`Model.below_le_size`).
-/

namespace ServiceShapes

/-- The ids of the shapes that the type of a shape is made of. -/
def Shape.partIds (s : Shape) : List ShapeId :=
  match s.kind with
  | .list item => [item]
  | .map key value => [key, value]
  | .member target => [target]
  | _ => []

namespace Model

open Relation (TransGen)

variable {m : Model} {s t : Shape}

/-- The type of `s` is made of that of `t`. -/
def IsPart (m : Model) (s t : Shape) : Prop := ∃ id ∈ s.partIds, m.get? id = some t

/-- No type contains itself: following parts never leads back to a shape. -/
def Acyclic (m : Model) : Prop := ∀ s ∈ m.shapes, ¬TransGen m.IsPart s s

/-- A simple type occurs in the type of the shape, at any depth. -/
def Holds (m : Model) (type : SimpleType) (s : Shape) : Prop :=
  ∃ t, Relation.ReflTransGen m.IsPart s t ∧ t.kind = .simple type

/-- A simple type occurs in a type when the type is this one or it occurs in a part. -/
theorem holds_iff {type : SimpleType} :
    m.Holds type s ↔ s.kind = .simple type ∨ ∃ t, m.IsPart s t ∧ m.Holds type t := by
  constructor
  · rintro ⟨d, reaches, simple⟩
    rcases Relation.ReflTransGen.cases_head_iff.1 reaches with rfl | ⟨t, part, reaches⟩
    · exact .inl simple
    · exact .inr ⟨t, part, d, reaches, simple⟩
  · rintro (simple | ⟨t, part, d, reaches, simple⟩)
    · exact ⟨s, .refl, simple⟩
    · exact ⟨d, .head part reaches, simple⟩

/-- A shape that is not this simple type holds it exactly if one of its parts does. -/
theorem holds_iff_of_part {type : SimpleType} (other : s.kind ≠ .simple type) :
    m.Holds type s ↔ ∃ t, m.IsPart s t ∧ m.Holds type t := by
  rw [holds_iff, or_iff_right other]

/-- What a shape is made of is in the model. -/
theorem IsPart.mem (h : m.IsPart s t) : t ∈ m.shapes := by
  obtain ⟨id, -, found⟩ := h
  exact mem_of_get? found

open scoped Classical in
/-- How many shapes of the model lie below a shape. -/
noncomputable def below (m : Model) (s : Shape) : Nat :=
  (m.shapes.toFinset.filter fun t => TransGen m.IsPart s t).card

/-- **A part has fewer shapes below it**, since it is not below itself. -/
theorem below_lt (acyclic : m.Acyclic) (part : m.IsPart s t) : m.below t < m.below s := by
  classical
  refine Finset.card_lt_card ((Finset.ssubset_iff_of_subset fun u hu => ?_).2 ⟨t, ?_, ?_⟩)
  · obtain ⟨present, reached⟩ := Finset.mem_filter.1 hu
    exact Finset.mem_filter.2 ⟨present, .head part reached⟩
  · exact Finset.mem_filter.2 ⟨List.mem_toFinset.2 part.mem, .single part⟩
  · intro ht
    exact acyclic t part.mem (Finset.mem_filter.1 ht).2

/-- A simple type that no shape has occurs nowhere. -/
theorem not_holds_of_forall {type : SimpleType} (others : ∀ t ∈ m.shapes, t.kind ≠ .simple type)
    (other : s.kind ≠ .simple type) : ¬m.Holds type s := by
  rintro ⟨t, reaches, simple⟩
  rcases Relation.ReflTransGen.cases_tail_iff _ _ _ |>.1 reaches with rfl | ⟨u, -, part⟩
  · exact other simple
  · exact others t part.mem simple

theorem below_le_size (m : Model) (s : Shape) : m.below s ≤ m.size := by
  classical
  exact (Finset.card_filter_le _ _).trans (List.toFinset_card_le m.shapes)

/-- **What holds of a shape once it holds of its parts holds of every shape.** -/
theorem Acyclic.induction (acyclic : m.Acyclic) {holds : Shape → Prop}
    (step : ∀ s, (∀ t, m.IsPart s t → holds t) → holds s) (s : Shape) : holds s :=
  step s fun t _ => acyclic.induction step t
termination_by m.below s
decreasing_by exact below_lt acyclic ‹_›

/-- Parts that come before what they are parts of make no cycle. -/
theorem acyclic_of_lt (before : ∀ s ∈ m.shapes, ∀ id ∈ s.partIds, id < s.id) : m.Acyclic := by
  intro s hs cycle
  have down : ∀ t, TransGen m.IsPart s t → t ∈ m.shapes ∧ t.id < s.id := by
    intro t reached
    induction reached with
    | single part =>
      obtain ⟨id, named, found⟩ := part
      exact ⟨mem_of_get? found, id_of_get? found ▸ before s hs id named⟩
    | tail _ part ih =>
      obtain ⟨id, named, found⟩ := part
      refine ⟨mem_of_get? found, ShapeId.lt_trans ?_ ih.2⟩
      exact id_of_get? found ▸ before _ ih.1 id named
  exact ShapeId.lt_irrefl s.id (down s cycle).2

end Model

end ServiceShapes
