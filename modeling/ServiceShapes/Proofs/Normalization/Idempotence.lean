import ServiceShapes.Proofs.Normalization.Lookup

/-!
# Normalizing twice

A normalized model is left alone by a second normalization (`Model.normalize_of_normalize`).

The second run meets the operations of the first one, with all their sides linked, and no others:
a new container is a structure, and what is moved into it is a member.  The latter is what
`Model.MembersAreMembers` asks of the original model; a structure with an operation under a member
name would hand a copy of that operation to the second run.
-/

namespace ServiceShapes

namespace Model

variable {m m' : Model} {s t operation : Shape} {side : OperationSide}

/-- What is stored under a member name of a structure or union is a member. -/
def MembersAreMembers (m : Model) : Prop :=
  ∀ container ∈ m.shapes, ∀ s ∈ m.members container, s.isMember = true

instance (m : Model) : Decidable m.MembersAreMembers :=
  inferInstanceAs (Decidable (∀ container ∈ m.shapes, ∀ s ∈ m.members container, s.isMember = true))

/-- A member is no operation, wherever it is moved. -/
theorem not_isOperation_under (hs : s.isMember = true) (container : ShapeId) :
    (s.under container).isOperation = false := by
  obtain ⟨id, kind, traits⟩ := s
  cases kind <;> simp_all [Shape.isMember, Shape.isOperation, Shape.under]

/-- **The first run adds no operation.** -/
theorem not_isOperation_of_mem_madeFor (members : m.MembersAreMembers)
    (ht : t ∈ m.madeFor operation side) : t.isOperation = false := by
  obtain ⟨operates, notLinked⟩ := not_linked_of_mem_madeFor ht
  rw [madeFor_of_not_linked operates notLinked, List.mem_cons] at ht
  rcases ht with rfl | ht
  · rfl
  · obtain ⟨original, horiginal, rfl⟩ := List.mem_map.1 ht
    obtain ⟨container, hcontainer, member⟩ := exists_container_of_mem_sideOriginals horiginal
    exact not_isOperation_under (members container hcontainer original member) _

/-- The operations of a normalized model are those of the original one. -/
theorem exists_operation_of_mem_normalize (members : m.MembersAreMembers)
    (h : m.normalize = .ok m') (ht : t ∈ m'.shapes) (operates : t.isOperation = true) :
    ∃ o ∈ m.shapes, o.isOperation = true ∧ t = m.normalizedShape o := by
  obtain ⟨s, hs, hts⟩ := (mem_normalize_iff h).1 ht
  rcases mem_shapeOutcome.1 hts with rfl | ⟨side, made⟩
  · rw [normalizedShape, Shape.isOperation_withSides] at operates
    exact ⟨s, hs, operates, rfl⟩
  · rw [not_isOperation_of_mem_madeFor members made] at operates
    cases operates

/-- A shape whose sides are all linked already gives rise to itself alone. -/
theorem shapeOutcome_of_linked (linked : t.isOperation = true → ∀ side, ∃ s,
      t.sideId? side = some s.id ∧ m.sideShape? t side = some s ∧
        s.traits.linkedOperation? side = some t.id) :
    m.SidesResolve t ∧ m.shapeOutcome t = [t] := by
  cases operates : t.isOperation with
  | false =>
    refine ⟨?_, ?_⟩
    · intro side id named
      rw [Shape.sideId?_of_not_operation operates] at named
      cases named
    · simp [shapeOutcome, madeFor, operates, normalizedShape_of_not_operation operates]
  | true =>
    have kept : ∀ side, t.sideId? side = some (m.sideOutcome t side).id ∧
        (m.sideOutcome t side).added = [] := by
      intro side
      obtain ⟨s, named, present, link⟩ := linked operates side
      rw [sideOutcome_of_linked present link]
      exact ⟨named, rfl⟩
    refine ⟨?_, ?_⟩
    · intro side id named
      obtain ⟨s, -, present, -⟩ := linked operates side
      rw [sideShape?, named, Option.bind_some] at present
      rw [present]
      rfl
    · have stays : m.normalizedShape t = t := Shape.withSides_eq_self fun _ side => (kept side).1
      rw [shapeOutcome, madeFor, madeFor, if_pos operates, if_pos operates, (kept .input).2,
        (kept .output).2, stays]
      rfl

/-- **Normalization is idempotent**: it leaves a normalized model as it is.  The operations that a
second run meets are those of the first, and by now each of their sides is linked to them
(`exists_linked_sideShape`), so that nothing is made for any of them. -/
theorem normalize_of_normalize (members : m.MembersAreMembers) (h : m.normalize = .ok m') :
    m'.normalize = .ok m' := by
  have each : ∀ t ∈ m'.shapes, m'.SidesResolve t ∧ m'.shapeOutcome t = [t] := by
    intro t ht
    -- an operation of the second run is one of the first, and both its sides are linked by now
    refine shapeOutcome_of_linked fun operates side => ?_
    obtain ⟨o, ho, oOperates, rfl⟩ := exists_operation_of_mem_normalize members h ht operates
    obtain ⟨s, stands, sameId, link, -⟩ := exists_linked_sideShape h ho oOperates side
    refine ⟨s, ?_, stands, by rw [link, normalizedShape_id]⟩
    rw [sameId]
    exact Shape.sideId?_withSides oOperates _ side
  have same : m'.shapes.flatMap m'.shapeOutcome = m'.shapes := by
    rw [List.flatMap_congr fun t ht => (each t ht).2, List.flatMap_singleton']
  rw [normalize_eq_ok_iff, same]
  exact ⟨fun t ht => (each t ht).1, .refl _⟩

/-- Two operations that share a structure; it is linked to the input of one of them only. -/
def halfLinked : Model where
  shapes :=
    [⟨.ofName "a" "Get", .operation (some (.ofName "a" "Item")) none [], .empty⟩,
     ⟨.ofName "a" "Item", .aggregate .record ["text"], ⟨[.syntheticInput (.ofName "a" "Put")]⟩⟩,
     ⟨(ShapeId.ofName "a" "Item").withMember "text", .member (.ofName "a" "Text"), ⟨[.streaming]⟩⟩,
     ⟨.ofName "a" "Put", .operation (some (.ofName "a" "Item")) (some (.ofName "a" "Item")) [],
       .empty⟩]
  sorted := by decide

/-- Of the four sides of these operations one is kept and three are made, all by the first run. -/
theorem halfLinked_normalize_twice : halfLinked.MembersAreMembers ∧
    ∃ m', halfLinked.normalize = .ok m' ∧ m'.size = 9 ∧ m'.normalize = .ok m' := by
  have members : halfLinked.MembersAreMembers := by decide
  have normal : ∃ m', halfLinked.normalize = .ok m' ∧ m'.size = 9 := ⟨_, rfl, rfl⟩
  obtain ⟨m', h, size⟩ := normal
  exact ⟨members, m', h, size, normalize_of_normalize members h⟩

end Model

end ServiceShapes
