import ServiceShapes.Proofs.Normalization.Lookup

/-!
# What normalization copies, and what it leaves alone

`Model.CopiesExactly m m'` describes `m'` completely in terms of `m`.  The shapes of `m` are there
under their ids, operations with other sides and everything else as it was; for each side that was
not linked there is one new structure (`Model.IsSideCopy`) with copies of the members of the shape
it stands in for; and there is nothing more.  `Model.normalize_copiesExactly` says that this is what
normalization does.
-/

namespace ServiceShapes

namespace Model

variable {m m' : Model} {t operation : Shape} {side : OperationSide}

/-- In `m'`, the structure `new` stands in for the shape that an operation of `m` names on one side,
or for nothing where the operation names none. -/
structure IsSideCopy (m m' : Model) (operation : Shape) (side : OperationSide) (new : Shape) :
    Prop where
  found : m'.get? (side.syntheticId operation.id) = some new
  record : new.isRecord = true
  /-- The traits are those of the original, with the link inserted. -/
  traits : new.traits = ((m.sideShape? operation side).elim .empty (·.traits)).insert
    (side.link operation.id)
  /-- The members are those of the original, in their order, each under the new id. -/
  members : m'.members new =
    ((m.sideShape? operation side).elim [] m.members).map (·.under new.id)
  /-- The operation names the new structure. -/
  named : (m'.get? operation.id).bind (·.sideId? side) = some new.id
  /-- Nothing that was there before is replaced. -/
  fresh : ∀ t ∈ new :: m'.members new, m.get? t.id = none

/-- `m'` is `m` with a structure for each side of an operation that is not linked to it. -/
structure CopiesExactly (m m' : Model) : Prop where
  /-- A shape that is no operation stays as it is. -/
  unchanged : ∀ s ∈ m.shapes, s.isOperation = false → m'.get? s.id = some s
  /-- An operation keeps its id, its errors and its traits. -/
  operations : ∀ o ∈ m.shapes, ∀ input output errors, o.kind = .operation input output errors →
    ∃ input' output',
      m'.get? o.id = some ⟨o.id, .operation (some input') (some output') errors, o.traits⟩
  /-- A side that is linked already keeps its structure. -/
  kept : ∀ o ∈ m.shapes, o.isOperation = true → ∀ side, m.isLinked o side = true →
    (m'.get? o.id).bind (·.sideId? side) = o.sideId? side
  /-- Each side that is not linked gets a structure. -/
  copied : ∀ o ∈ m.shapes, o.isOperation = true → ∀ side, m.isLinked o side = false →
    ∃ new, m.IsSideCopy m' o side new
  /-- Every other shape of `m'` is such a structure or one of its members. -/
  nothingElse : ∀ t ∈ m'.shapes, m.get? t.id = none → ∃ o ∈ m.shapes, o.isOperation = true ∧
    ∃ side new, m.isLinked o side = false ∧ m.IsSideCopy m' o side new ∧
      t ∈ new :: m'.members new

/-- What is made for a side that is not linked is the new structure and its members. -/
theorem madeFor_eq_members (h : m.normalize = .ok m') (ho : operation ∈ m.shapes)
    (operates : operation.isOperation = true) (notLinked : m.isLinked operation side = false) :
    m.madeFor operation side =
      m.sideContainer operation side :: m'.members (m.sideContainer operation side) := by
  rw [members_sideContainer h ho operates notLinked, madeFor_of_not_linked operates notLinked]

/-- **The container made for a side is the copy that the side gets.** -/
theorem isSideCopy_sideContainer (h : m.normalize = .ok m') (ho : operation ∈ m.shapes)
    (operates : operation.isOperation = true) (notLinked : m.isLinked operation side = false) :
    m.IsSideCopy m' operation side (m.sideContainer operation side) where
  found := get?_sideContainer h ho operates notLinked
  record := rfl
  traits := rfl
  members := members_sideContainer h ho operates notLinked
  named := by
    rw [get?_normalizedShape h ho, Option.bind_some, normalizedShape,
      Shape.sideId?_withSides operates, sideOutcome_of_not_linked notLinked]
    rfl
  fresh t ht := by
    rw [← madeFor_eq_members h ho operates notLinked] at ht
    exact get?_eq_none_of_mem_madeFor h ho ht

/-- On a side that is linked, an operation names what it named before. -/
theorem sideId?_of_linked (h : m.normalize = .ok m') (ho : operation ∈ m.shapes)
    (operates : operation.isOperation = true) (linked : m.isLinked operation side = true) :
    (m'.get? operation.id).bind (·.sideId? side) = operation.sideId? side := by
  obtain ⟨s, present, link⟩ := isLinked_iff.1 linked
  obtain ⟨id, named, found⟩ := Option.bind_eq_some_iff.1 present
  rw [get?_normalizedShape h ho, Option.bind_some, normalizedShape,
    Shape.sideId?_withSides operates, sideOutcome_of_linked present link, named, id_of_get? found]

/-- **A shape with a new id belongs to the copy for some side.** -/
theorem mem_copy_of_fresh (h : m.normalize = .ok m') (ht : t ∈ m'.shapes)
    (fresh : m.get? t.id = none) : ∃ o ∈ m.shapes, o.isOperation = true ∧
      ∃ side new, m.isLinked o side = false ∧ m.IsSideCopy m' o side new ∧
        t ∈ new :: m'.members new := by
  obtain ⟨s, hs, hts⟩ := (mem_normalize_iff h).1 ht
  rcases mem_shapeOutcome.1 hts with rfl | ⟨side, made⟩
  · rw [normalizedShape_id, get?_id hs] at fresh
    cases fresh
  · obtain ⟨operates, notLinked⟩ := not_linked_of_mem_madeFor made
    rw [madeFor_eq_members h hs operates notLinked] at made
    exact ⟨s, hs, operates, side, _, notLinked, isSideCopy_sideContainer h hs operates notLinked,
      made⟩

/-- **Normalization copies exactly and disturbs nothing else.**  A side that is not linked gets the
container that is made for it (`isSideCopy_sideContainer`), one that is linked keeps its structure,
and a shape with a new id is part of one of these containers (`mem_copy_of_fresh`): every shape of
the result is what became of a shape that was there, or was made for one of its sides. -/
theorem normalize_copiesExactly (h : m.normalize = .ok m') : m.CopiesExactly m' where
  unchanged s hs notOperation := by
    rw [get?_normalizedShape h hs, normalizedShape_of_not_operation notOperation]
  operations o ho input output errors kind := by
    refine ⟨(m.sideOutcome o .input).id, (m.sideOutcome o .output).id, ?_⟩
    rw [get?_normalizedShape h ho, normalizedShape, Shape.withSides, kind]
  kept _ ho operates _ linked := sideId?_of_linked h ho operates linked
  copied _ ho operates _ notLinked :=
    ⟨_, isSideCopy_sideContainer h ho operates notLinked⟩
  nothingElse _ ht fresh := mem_copy_of_fresh h ht fresh

/-- An operation without output whose input lists a member that is not there. -/
def dangling : Model where
  shapes :=
    [⟨.ofName "a" "Find", .operation (some (.ofName "a" "Query")) none [.ofName "a" "Missing"],
      ⟨[.documentation "Finds."]⟩⟩,
     ⟨.ofName "a" "Query", .aggregate .union ["text", "gone"],
       ⟨[.syntheticInput (.ofName "a" "Ask")]⟩⟩,
     ⟨(ShapeId.ofName "a" "Query").withMember "text", .member (.ofName "a" "Text"), ⟨[.required]⟩⟩]
  sorted := by decide

/-- The member that is there is copied; the one that is not is passed over. -/
theorem dangling_normalize_copiesExactly :
    ∃ m', dangling.normalize = .ok m' ∧ dangling.CopiesExactly m' ∧ m'.size = 6 := by
  have normal : ∃ m', dangling.normalize = .ok m' ∧ m'.size = 6 := ⟨_, rfl, rfl⟩
  obtain ⟨m', h, size⟩ := normal
  exact ⟨m', h, normalize_copiesExactly h, size⟩

end Model

end ServiceShapes
