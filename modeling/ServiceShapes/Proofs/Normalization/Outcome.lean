import ServiceShapes.Model.Normalized
import ServiceShapes.Proofs.Building
import ServiceShapes.Proofs.Results

/-!
# What normalization makes of a model

`Model.normalize` can fail in two ways: a side of an operation names no shape of the model, or two
of the resulting shapes have the same id.  Here its result is described without that:

* `Model.sideOutcome` is what stands on one side of an operation afterwards: the shape that is there
  if it is linked to the operation already (`Model.isLinked`), else a new structure
  (`Model.sideContainer`) with its members (`Model.sideMembers`).
* `Model.madeFor` are the shapes added for one side, `Model.normalizedShape` is what a shape itself
  becomes.

`Model.normalize_eq_ok_iff` joins the two: normalization succeeds with `m'` exactly when every side
resolves and the shapes of `m'` are these, in some order.  What follows after it is read off the
resulting model, shape by shape.
-/

namespace ServiceShapes

namespace Shape

/-- The same shape as a member of another container. -/
def under (s : Shape) (container : ShapeId) : Shape :=
  { s with id := { container with member := s.id.member } }

/-- A member keeps its name. -/
theorem under_id {s : Shape} {original : ShapeId} {name : String} (named : s.id = original.withMember name)
    (container : ShapeId) : (s.under container).id = container.withMember name := by
  simp [under, named, ShapeId.withMember]

/-- An operation with the given shapes on its sides; a shape that is no operation stays as it
is. -/
def withSides (s : Shape) (sides : OperationSide → ShapeId) : Shape :=
  match s.kind with
  | .operation _ _ errors =>
    { s with kind := .operation (some (sides .input)) (some (sides .output)) errors }
  | _ => s

@[simp] theorem withSides_id (s : Shape) (sides : OperationSide → ShapeId) :
    (s.withSides sides).id = s.id := by
  unfold withSides
  split <;> rfl

@[simp] theorem withSides_traits (s : Shape) (sides : OperationSide → ShapeId) :
    (s.withSides sides).traits = s.traits := by
  unfold withSides
  split <;> rfl

@[simp] theorem isOperation_withSides (s : Shape) (sides : OperationSide → ShapeId) :
    (s.withSides sides).isOperation = s.isOperation := by
  unfold withSides
  split
  · simp_all [isOperation]
  · rfl

theorem isOperation_iff {s : Shape} :
    s.isOperation = true ↔ ∃ input output errors, s.kind = .operation input output errors := by
  unfold isOperation
  split <;> simp_all

theorem withSides_of_not_operation {s : Shape} (h : s.isOperation = false)
    (sides : OperationSide → ShapeId) : s.withSides sides = s := by
  unfold withSides
  split
  · simp_all [isOperation]
  · rfl

theorem sideId?_withSides {s : Shape} (h : s.isOperation = true) (sides : OperationSide → ShapeId)
    (side : OperationSide) : (s.withSides sides).sideId? side = some (sides side) := by
  obtain ⟨input, output, errors, kind⟩ := isOperation_iff.1 h
  cases side <;> simp [withSides, sideId?, kind]

theorem sideId?_of_not_operation {s : Shape} (h : s.isOperation = false) (side : OperationSide) :
    s.sideId? side = none := by
  unfold sideId?
  split <;> simp_all [isOperation]

/-- Naming the shapes that are named already changes nothing. -/
theorem withSides_eq_self {s : Shape} {sides : OperationSide → ShapeId}
    (h : s.isOperation = true → ∀ side, s.sideId? side = some (sides side)) :
    s.withSides sides = s := by
  cases operation : s.isOperation with
  | false => exact withSides_of_not_operation operation sides
  | true =>
    obtain ⟨input, output, errors, kind⟩ := isOperation_iff.1 operation
    have hin : input = some (sides .input) := by simpa [sideId?, kind] using h operation .input
    have hout : output = some (sides .output) := by simpa [sideId?, kind] using h operation .output
    obtain ⟨id, _, traits⟩ := s
    cases kind
    rw [withSides, hin, hout]

end Shape

namespace Model

variable {m m' : Model}

/-! ### Members -/

theorem mem_of_mem_members {container s : Shape} (h : s ∈ m.members container) :
    s ∈ m.shapes := by
  obtain ⟨_, -, found⟩ := List.mem_filterMap.1 h
  exact mem_of_get? found

/-- The id of a member is that of its container with the name it is declared under. -/
theorem id_of_mem_members {container s : Shape} (h : s ∈ m.members container) :
    ∃ name, s.id = container.id.withMember name := by
  obtain ⟨name, -, found⟩ := List.mem_filterMap.1 h
  exact ⟨name, id_of_get? found⟩

/-! ### One side of an operation -/

/-- The shape that an operation names on one side. -/
def sideShape? (m : Model) (operation : Shape) (side : OperationSide) : Option Shape :=
  (operation.sideId? side).bind m.get?

/-- Whether the shape on one side of an operation is linked to it. -/
def isLinked (m : Model) (operation : Shape) (side : OperationSide) : Bool :=
  (m.sideShape? operation side).any fun s => s.traits.linkedOperation? side = some operation.id

/-- Whether both sides of an operation, where it names a shape, name one of the model. -/
def SidesResolve (m : Model) (operation : Shape) : Prop :=
  ∀ side id, operation.sideId? side = some id → (m.get? id).isSome

/-- The members of the shape that an operation names on one side. -/
def sideOriginals (m : Model) (operation : Shape) (side : OperationSide) : List Shape :=
  (m.sideShape? operation side).elim [] m.members

/-- The members of a new structure for one side of an operation. -/
def sideMembers (m : Model) (operation : Shape) (side : OperationSide) : List Shape :=
  (m.sideOriginals operation side).map (·.under (side.syntheticId operation.id))

/-- A new structure for one side of an operation. -/
def sideContainer (m : Model) (operation : Shape) (side : OperationSide) : Shape where
  id := side.syntheticId operation.id
  kind := .aggregate .record ((m.sideOriginals operation side).filterMap (·.id.member))
  traits := ((m.sideShape? operation side).elim .empty (·.traits)).insert (side.link operation.id)

/-- What stands on one side of an operation after normalization. -/
def sideOutcome (m : Model) (operation : Shape) (side : OperationSide) : SideShapes :=
  match m.sideShape? operation side, m.isLinked operation side with
  | some s, true => ⟨s.id, []⟩
  | _, _ =>
    ⟨side.syntheticId operation.id,
      m.sideContainer operation side :: m.sideMembers operation side⟩

theorem isLinked_iff {operation : Shape} {side : OperationSide} :
    m.isLinked operation side = true ↔ ∃ s, m.sideShape? operation side = some s ∧
      s.traits.linkedOperation? side = some operation.id := by
  simp [isLinked, Option.any_eq_true]

theorem sideOutcome_of_linked {operation s : Shape} {side : OperationSide}
    (h : m.sideShape? operation side = some s)
    (linked : s.traits.linkedOperation? side = some operation.id) :
    m.sideOutcome operation side = ⟨s.id, []⟩ := by
  simp [sideOutcome, h, isLinked_iff.2 ⟨s, h, linked⟩]

theorem sideOutcome_of_not_linked {operation : Shape} {side : OperationSide}
    (h : m.isLinked operation side = false) :
    m.sideOutcome operation side = ⟨side.syntheticId operation.id,
      m.sideContainer operation side :: m.sideMembers operation side⟩ := by
  simp [sideOutcome, h]

/-- The members that are copied for a side are those of one shape of the model. -/
theorem exists_container_of_mem_sideOriginals {operation t : Shape} {side : OperationSide}
    (ht : t ∈ m.sideOriginals operation side) : ∃ s ∈ m.shapes, t ∈ m.members s := by
  unfold sideOriginals at ht
  cases present : m.sideShape? operation side with
  | none => simp [present] at ht
  | some s =>
    rw [present] at ht
    obtain ⟨id, -, found⟩ := Option.bind_eq_some_iff.1 present
    exact ⟨s, mem_of_get? found, ht⟩

/-! ### One side as it is computed -/

theorem rerootMembers_names (m : Model) (id : ShapeId) (replaced : Shape) :
    (m.rerootMembers id replaced).map (·.1) = (m.members replaced).filterMap (·.id.member) := by
  rw [rerootMembers, List.map_filterMap]
  congr 1
  funext member
  cases member.id.member <;> rfl

theorem rerootMembers_shapes (m : Model) (id : ShapeId) (replaced : Shape) :
    (m.rerootMembers id replaced).map (·.2) = (m.members replaced).map (·.under id) := by
  rw [rerootMembers, List.map_filterMap, ← List.filterMap_eq_map]
  refine List.filterMap_congr ?_
  intro member hmember
  obtain ⟨name, hname⟩ := id_of_mem_members hmember
  simp [hname, Shape.under, ShapeId.withMember]

/-- The shapes made for a side are a new container and its members. -/
theorem sideStructure_eq (m : Model) (operation : Shape) (side : OperationSide) :
    m.sideStructure operation.id side (m.sideShape? operation side) =
      m.sideContainer operation side :: m.sideMembers operation side := by
  rw [sideStructure, sideContainer, sideMembers, sideOriginals]
  cases m.sideShape? operation side with
  | none => rfl
  | some s => simp [rerootMembers_names, rerootMembers_shapes]

/-- **A side succeeds exactly when it resolves, and then with its outcome.** -/
theorem sideShapes_eq_ok_iff {operation : Shape} {side : OperationSide} {r : SideShapes} :
    m.sideShapes operation.id side (operation.sideId? side) = .ok r ↔
      (∀ id, operation.sideId? side = some id → (m.get? id).isSome) ∧
        m.sideOutcome operation side = r := by
  have made := m.sideStructure_eq operation side
  cases named : operation.sideId? side with
  | none =>
    have absent : m.sideShape? operation side = none := by rw [sideShape?, named, Option.bind_none]
    rw [absent] at made
    simp [sideShapes, sideOutcome, absent, made]
  | some id =>
    have present : m.sideShape? operation side = m.get? id := by
      rw [sideShape?, named, Option.bind_some]
    rw [present] at made
    cases found : m.get? id with
    | none => simp [sideShapes, expect, found, bind, Except.bind]
    | some s =>
      rw [found] at made present
      by_cases linked : s.traits.linkedOperation? side = some operation.id
      · rw [sideOutcome_of_linked present linked]
        simp [sideShapes, expect, found, bind, Except.bind, linked]
      · have notLinked : m.isLinked operation side = false := by simp [isLinked, present, linked]
        rw [sideOutcome_of_not_linked notLinked]
        simp [sideShapes, expect, found, bind, Except.bind, linked, made]

/-! ### Whole models -/

/-- The shapes added for one side of an operation. -/
def madeFor (m : Model) (s : Shape) (side : OperationSide) : List Shape :=
  if s.isOperation then (m.sideOutcome s side).added else []

/-- What a shape of the model becomes. -/
def normalizedShape (m : Model) (s : Shape) : Shape :=
  s.withSides fun side => (m.sideOutcome s side).id

/-- All that a shape of the model gives rise to. -/
def shapeOutcome (m : Model) (s : Shape) : List Shape :=
  m.madeFor s .input ++ m.madeFor s .output ++ [m.normalizedShape s]

@[simp] theorem normalizedShape_id (m : Model) (s : Shape) : (m.normalizedShape s).id = s.id :=
  Shape.withSides_id _ _

@[simp] theorem normalizedShape_traits (m : Model) (s : Shape) :
    (m.normalizedShape s).traits = s.traits := Shape.withSides_traits _ _

theorem mem_shapeOutcome {s t : Shape} :
    t ∈ m.shapeOutcome s ↔ t = m.normalizedShape s ∨ ∃ side, t ∈ m.madeFor s side := by
  simp only [shapeOutcome, List.mem_append, List.mem_singleton]
  constructor
  · rintro ((h | h) | h)
    · exact .inr ⟨.input, h⟩
    · exact .inr ⟨.output, h⟩
    · exact .inl h
  · rintro (h | ⟨side, h⟩)
    · exact .inr h
    · cases side
      · exact .inl (.inl h)
      · exact .inl (.inr h)

theorem normalizeShape_eq_ok_iff {s : Shape} {l : List Shape} :
    m.normalizeShape s = .ok l ↔ m.SidesResolve s ∧ m.shapeOutcome s = l := by
  cases operation : s.isOperation with
  | false =>
    have resolve : m.SidesResolve s := by
      intro side id named
      rw [Shape.sideId?_of_not_operation operation] at named
      cases named
    have stays : m.normalizeShape s = .ok [s] := by
      unfold normalizeShape
      split <;> simp_all [Shape.isOperation]
    simp [stays, resolve, shapeOutcome, madeFor, operation, normalizedShape,
      Shape.withSides_of_not_operation]
  | true =>
    obtain ⟨input, output, errors, kind⟩ := Shape.isOperation_iff.1 operation
    have hin : s.sideId? .input = input := by simp [Shape.sideId?, kind]
    have hout : s.sideId? .output = output := by simp [Shape.sideId?, kind]
    have becomes : m.normalizedShape s =
        { s with
          kind := .operation (some (m.sideOutcome s .input).id) (some (m.sideOutcome s .output).id)
            errors } := by
      simp [normalizedShape, Shape.withSides, kind]
    unfold normalizeShape
    simp only [kind, Except.bind_eq_ok_iff, Except.ok.injEq]
    -- both sides are now asked for by name, as the description of a side has it
    rw [← hin, ← hout]
    simp only [sideShapes_eq_ok_iff]
    rw [shapeOutcome, madeFor, madeFor, if_pos operation, if_pos operation, becomes, hin, hout]
    constructor
    · rintro ⟨_, ⟨inputResolves, rfl⟩, _, ⟨outputResolves, rfl⟩, rfl⟩
      refine ⟨?_, rfl⟩
      intro side
      cases side
      · simpa [hin] using inputResolves
      · simpa [hout] using outputResolves
    · rintro ⟨resolve, rfl⟩
      exact ⟨_, ⟨by simpa [hin] using resolve .input, rfl⟩, _,
        ⟨by simpa [hout] using resolve .output, rfl⟩, rfl⟩

/-- **Normalization succeeds exactly when all sides resolve and the shapes that arise fit into one
model, which then is the result.** -/
theorem normalize_eq_ok_iff : m.normalize = .ok m' ↔
    (∀ s ∈ m.shapes, m.SidesResolve s) ∧ m'.shapes.Perm (m.shapes.flatMap m.shapeOutcome) := by
  rw [normalize, Except.bind_eq_ok_iff]
  simp only [List.mapM_eq_ok_iff_of_step fun _ _ => normalizeShape_eq_ok_iff, ofShapes_eq_ok_iff]
  constructor
  · rintro ⟨_, ⟨resolve, rfl⟩, built⟩
    exact ⟨resolve, built⟩
  · rintro ⟨resolve, built⟩
    exact ⟨_, ⟨resolve, rfl⟩, built⟩

end Model

end ServiceShapes
