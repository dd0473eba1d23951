import ServiceShapes.Proofs.Normalization.Lookup

/-!
# Structures that belong to one side of one operation

`Model.GivesOwnSides m m'` says that in `m'` every operation of `m` has an input and an output
structure of its own: each of them counts as the side it stands on, and no two sides share one.

Normalization gives every operation such an input.  For outputs it does so unless the shape that the
operation names as its output carries a link for inputs: the link for outputs is then added beside
the other one, and a structure that carries both counts as an input.  The same condition decides
about sharing, since a structure can only stand on two sides if it is linked to both
(`Model.normalize_givesOwnSides_iff`).
-/

namespace ServiceShapes

namespace Model

variable {m m' : Model} {s operation : Shape} {side : OperationSide}

/-- The id that an operation names on one side. -/
def sideNamed? (m : Model) (operation : ShapeId) (side : OperationSide) : Option ShapeId :=
  (m.get? operation).bind fun o => o.sideId? side

/-- Whether an operation names on one side a structure that counts as this side of it. -/
def linksSide (m : Model) (operation : ShapeId) (side : OperationSide) : Bool :=
  ((m.sideNamed? operation side).bind m.get?).any fun s => s.linkage? = some ⟨side, operation⟩

/-- In `m'`, every operation of `m` has structures of its own. -/
structure GivesOwnSides (m m' : Model) : Prop where
  /-- What an operation names on a side is there and counts as this side of it. -/
  linked : ∀ o ∈ m.shapes, o.isOperation = true → ∀ side, m'.linksSide o.id side = true
  /-- No two sides, of one operation or of two, name the same structure. -/
  apart : ∀ o ∈ m.shapes, o.isOperation = true → ∀ p ∈ m.shapes, p.isOperation = true →
    ∀ side side', m'.sideNamed? o.id side = m'.sideNamed? p.id side' → o = p ∧ side = side'

/-- Whether the shape that an operation names as its output carries a link for inputs. -/
def outputCarriesInputLink (m : Model) (operation : Shape) : Bool :=
  (m.sideShape? operation .output).any fun s => (s.traits.linkedOperation? .input).isSome

theorem linksSide_iff {id : ShapeId} : m.linksSide id side = true ↔ ∃ s,
    m.sideNamed? id side = some s.id ∧ m.get? s.id = some s ∧ s.linkage? = some ⟨side, id⟩ := by
  simp only [linksSide, Option.any_eq_true, Option.bind_eq_some_iff, decide_eq_true_eq]
  constructor
  · rintro ⟨s, ⟨id', named, found⟩, link⟩
    rw [← id_of_get? found] at named found
    exact ⟨s, named, found, link⟩
  · rintro ⟨s, named, found, link⟩
    exact ⟨s, ⟨s.id, named, found⟩, link⟩

/-- What an operation of a normalized model is linked to on a side. -/
theorem linksSide_normalize (h : m.normalize = .ok m') (ho : operation ∈ m.shapes)
    (operates : operation.isOperation = true) : ∃ t : Shape,
      m'.linksSide operation.id side = decide (t.linkage? = some ⟨side, operation.id⟩) ∧
      t.traits.linkedOperation? side = some operation.id ∧
      ∀ other ≠ side, t.traits.linkedOperation? other =
        (m.sideShape? operation side).bind (·.traits.linkedOperation? other) := by
  obtain ⟨t, stands, -, linked, others⟩ := exists_linked_sideShape h ho operates side
  refine ⟨t, ?_, linked, others⟩
  have named : (m'.sideNamed? operation.id side).bind m'.get? = some t := by
    rw [sideNamed?, get?_normalizedShape h ho, Option.bind_some]
    exact stands
  rw [linksSide, named, Option.any_some]

/-- **Every input counts as the input it stands for.** -/
theorem linksSide_input (h : m.normalize = .ok m') (ho : operation ∈ m.shapes)
    (operates : operation.isOperation = true) : m'.linksSide operation.id .input = true := by
  obtain ⟨t, links, linked, -⟩ := linksSide_normalize h ho operates
  rw [links, decide_eq_true_eq, Shape.linkage?_eq_input_iff]
  exact linked

/-- **An output counts as the output it stands for unless it was linked as an input.** -/
theorem linksSide_output_iff (h : m.normalize = .ok m') (ho : operation ∈ m.shapes)
    (operates : operation.isOperation = true) :
    m'.linksSide operation.id .output = true ↔ m.outputCarriesInputLink operation = false := by
  obtain ⟨t, links, linked, others⟩ := linksSide_normalize h ho operates
  rw [links, decide_eq_true_eq, Shape.linkage?_eq_output_iff, others .input nofun,
    outputCarriesInputLink]
  cases m.sideShape? operation .output <;> simp [linked]

/-- Structures that count as one side each are not shared. -/
theorem apart_of_linked (linked : ∀ o ∈ m.shapes, o.isOperation = true →
    ∀ side, m'.linksSide o.id side = true) {o p : Shape} (ho : o ∈ m.shapes)
    (hp : p ∈ m.shapes) (oOperates : o.isOperation = true) (pOperates : p.isOperation = true)
    {side side' : OperationSide} (same : m'.sideNamed? o.id side = m'.sideNamed? p.id side') :
    o = p ∧ side = side' := by
  obtain ⟨s, sNamed, sFound, sLink⟩ := linksSide_iff.1 (linked o ho oOperates side)
  obtain ⟨t, tNamed, tFound, tLink⟩ := linksSide_iff.1 (linked p hp pOperates side')
  -- a structure counts as one side of one operation only
  have sameId : s.id = t.id := by
    rw [sNamed, tNamed] at same
    exact Option.some.inj same
  rw [sameId, tFound] at sFound
  cases sFound
  obtain ⟨sameSide, sameOperation⟩ := Linkage.mk.inj (Option.some.inj (sLink.symm.trans tLink))
  exact ⟨eq_of_id_eq ho hp sameOperation, sameSide⟩

/-- **The exact condition under which normalization gives every operation structures of its own.**
Inputs are always right; an output is, and none is shared, when no shape that an operation names as
its output is linked as an input. -/
theorem normalize_givesOwnSides_iff (h : m.normalize = .ok m') :
    (∀ o ∈ m.shapes, o.isOperation = true → m'.linksSide o.id .input = true) ∧
    (∀ o ∈ m.shapes, o.isOperation = true →
      (m'.linksSide o.id .output = true ↔ m.outputCarriesInputLink o = false)) ∧
    (m.GivesOwnSides m' ↔
      ∀ o ∈ m.shapes, o.isOperation = true → m.outputCarriesInputLink o = false) := by
  have outputs : ∀ o ∈ m.shapes, o.isOperation = true →
      (m'.linksSide o.id .output = true ↔ m.outputCarriesInputLink o = false) :=
    fun o ho operates => linksSide_output_iff h ho operates
  refine ⟨fun o ho operates => linksSide_input h ho operates, outputs, ?_, ?_⟩
  · intro own o ho operates
    exact (outputs o ho operates).1 (own.linked o ho operates .output)
  · intro clean
    have linked : ∀ o ∈ m.shapes, o.isOperation = true → ∀ side, m'.linksSide o.id side = true := by
      intro o ho operates side
      cases side with
      | input => exact linksSide_input h ho operates
      | output => exact (outputs o ho operates).2 (clean o ho operates)
    exact ⟨linked, fun o ho oOperates p hp pOperates side side' same =>
      apart_of_linked linked ho hp oOperates pOperates same⟩

/-- Two operations whose inputs and outputs are all the same structure. -/
def sharing : Model where
  shapes :=
    [⟨.ofName "a" "Get", .operation (some (.ofName "a" "Item")) (some (.ofName "a" "Item")) [],
       .empty⟩,
     ⟨.ofName "a" "Item", .aggregate .record ["text"], ⟨[.documentation "An item."]⟩⟩,
     ⟨(ShapeId.ofName "a" "Item").withMember "text", .member (.ofName "a" "Text"), .empty⟩,
     ⟨.ofName "a" "Put", .operation (some (.ofName "a" "Item")) (some (.ofName "a" "Item")) [],
       .empty⟩]
  sorted := by decide

/-- Operations that share all their structures get structures of their own. -/
theorem sharing_givesOwnSides :
    ∃ m', sharing.normalize = .ok m' ∧ sharing.GivesOwnSides m' := by
  have normal : ∃ m', sharing.normalize = .ok m' := ⟨_, rfl⟩
  obtain ⟨m', h⟩ := normal
  exact ⟨m', h, (normalize_givesOwnSides_iff h).2.2.2 (by decide)⟩

/-- An operation that gives back its input, which is linked to it already. -/
def echoing : Model where
  shapes :=
    [⟨.ofName "a" "Echo", .operation (some (.ofName "a" "Text")) (some (.ofName "a" "Text")) [],
       .empty⟩,
     ⟨.ofName "a" "Text", .aggregate .record [], ⟨[.syntheticInput (.ofName "a" "Echo")]⟩⟩]
  sorted := by decide

/-- **Outputs are not always right**: the new output of this operation keeps the link of its input,
and counts as an input. -/
theorem echoing_not_givesOwnSides :
    ∃ m', echoing.normalize = .ok m' ∧ ¬echoing.GivesOwnSides m' := by
  refine ⟨_, rfl, fun own => ?_⟩
  have right := own.linked _ List.mem_cons_self rfl .output
  revert right
  decide

end Model

end ServiceShapes
