import ServiceShapes.Model.Error
import ServiceShapes.Shape

/-!
# Models

A model is a set of shapes, at most one for each id.  It is kept as a list in strictly increasing
order of ids, so that equal models are equal lists.

* `Model.ofShapes` builds a model from shapes in any order and refuses a list that repeats an id,
  naming the first repetition.
* `Model.get?` and `Model.expect` look a shape up; the second reports a missing shape together
  with ids close to the wanted one.
* `Model.members` and `Model.operations` follow the references of a structure, union or service
  and pass over those that lead nowhere.
-/

namespace ServiceShapes

/-- Shapes in strictly increasing order of their ids. -/
structure Model where
  shapes : List Shape
  sorted : shapes.Pairwise fun a b => a.id < b.id

namespace Model

@[ext] theorem ext {m m' : Model} (h : m.shapes = m'.shapes) : m = m' := by
  cases m; cases m'; cases h; rfl

instance : DecidableEq Model := fun m m' =>
  if h : m.shapes = m'.shapes then .isTrue (Model.ext h)
  else .isFalse fun e => h (e ▸ rfl)

/-! ### Building -/

/-- The model without shapes. -/
def empty : Model := ⟨[], .nil⟩

instance : Inhabited Model := ⟨empty⟩

/-- Puts a shape into a sorted list before the first shape with a greater id. -/
def insertSorted (s : Shape) : List Shape → List Shape
  | [] => [s]
  | t :: rest => if s.id < t.id then s :: t :: rest else t :: insertSorted s rest

theorem mem_insertSorted {s t : Shape} {l : List Shape} :
    t ∈ insertSorted s l ↔ t = s ∨ t ∈ l := by
  induction l with
  | nil => simp [insertSorted]
  | cons u rest ih =>
    by_cases h : s.id < u.id
    · simp [insertSorted, h]
    · simp only [insertSorted, h, if_false, List.mem_cons, ih]
      constructor <;> rintro (h | h | h) <;> simp [h]

/-- **A new id keeps the list strictly increasing.** -/
theorem pairwise_insertSorted {s : Shape} {l : List Shape}
    (sorted : l.Pairwise fun a b => a.id < b.id) (fresh : ∀ t ∈ l, t.id ≠ s.id) :
    (insertSorted s l).Pairwise fun a b => a.id < b.id := by
  induction l with
  | nil => simp [insertSorted]
  | cons u rest ih =>
    obtain ⟨hu, hrest⟩ := List.pairwise_cons.1 sorted
    by_cases h : s.id < u.id
    · simp only [insertSorted, h, if_true]
      refine List.pairwise_cons.2 ⟨fun t ht => ?_, sorted⟩
      rcases List.mem_cons.1 ht with rfl | ht
      · exact h
      · exact ShapeId.lt_trans h (hu t ht)
    · simp only [insertSorted, h, if_false]
      refine List.pairwise_cons.2 ⟨fun t ht => ?_,
        ih hrest fun t ht => fresh t (List.mem_cons_of_mem _ ht)⟩
      rcases mem_insertSorted.1 ht with rfl | ht
      · rcases ShapeId.lt_trichotomy t.id u.id with g | g | g
        · exact absurd g h
        · exact absurd g.symm (fresh u List.mem_cons_self)
        · exact g
      · exact hu t ht

/-- The shape with the given id. -/
def get? (m : Model) (id : ShapeId) : Option Shape := m.shapes.find? fun s => s.id = id

/-- The shape found under an id has that id. -/
theorem id_of_get? {m : Model} {id : ShapeId} {s : Shape} (h : m.get? id = some s) : s.id = id := by
  simpa using List.find?_some h

/-- A shape found in a model is one of its shapes. -/
theorem mem_of_get? {m : Model} {id : ShapeId} {s : Shape} (h : m.get? id = some s) :
    s ∈ m.shapes := List.mem_of_find?_eq_some h

theorem get?_eq_none_iff {m : Model} {id : ShapeId} :
    m.get? id = none ↔ ∀ s ∈ m.shapes, s.id ≠ id := by
  simp [get?]

/-- Whether the model has a shape with this id. -/
def contains (m : Model) (id : ShapeId) : Bool := (m.get? id).isSome

/-- Adds a shape with a new id. -/
def insert (m : Model) (s : Shape) (fresh : m.get? s.id = none) : Model :=
  ⟨insertSorted s m.shapes, pairwise_insertSorted m.sorted (get?_eq_none_iff.1 fresh)⟩

/-- Adds shapes one after another, up to the first whose id is taken. -/
def insertAll (m : Model) : List Shape → Except ModelError Model
  | [] => .ok m
  | s :: rest =>
    if fresh : m.get? s.id = none then (m.insert s fresh).insertAll rest
    else .error (.duplicateShape s.id)

/-- The model that holds the given shapes, which must have different ids. -/
def ofShapes (shapes : List Shape) : Except ModelError Model := empty.insertAll shapes

/-! ### Looking up -/

/-- The number of shapes. -/
def size (m : Model) : Nat := m.shapes.length

/-- Whether the model has no shapes. -/
def isEmpty (m : Model) : Bool := m.shapes.isEmpty

/-- The ids of all shapes, in order. -/
def ids (m : Model) : List ShapeId := m.shapes.map (·.id)

/-- How far from a missing id the suggested ones may be. -/
def suggestionLimit : Nat := 3

/-- The error that no shape has this id. -/
def notFound (m : Model) (id : ShapeId) : ModelError :=
  .shapeNotFound id (suggest id m.ids suggestionLimit)

/-- The shape that the model should have under this id. -/
def expect (m : Model) (id : ShapeId) : Except ModelError Shape :=
  match m.get? id with
  | some s => .ok s
  | none => .error (m.notFound id)

/-- The operation that the model should have under this id. -/
def expectOperation (m : Model) (id : ShapeId) : Except ModelError Shape := do
  let s ← m.expect id
  if s.isOperation then .ok s else .error (.notAnOperation id)

/-- The members of a structure or union, in order of declaration. -/
def members (m : Model) (container : Shape) : List Shape :=
  container.memberNames.filterMap fun name => m.get? (container.id.withMember name)

/-- The operations of a service, in order of declaration. -/
def operations (m : Model) (service : Shape) : List Shape :=
  service.operationIds.filterMap m.get?

end Model

end ServiceShapes
