import Mathlib.Data.List.Perm.Basic
import ServiceShapes.Proofs.Lookups
import ServiceShapes.Proofs.Normalization.Outcome

/-!
# When normalization fails

Two things can go wrong.  First the shapes on the sides of all operations are looked up, in the order of
the operations and inputs before outputs, and one of them may be missing (`Model.sideIds`).  Then the
shapes are put together, and an id that was given out may be taken (`Model.newIds`).

Ids that are given out do not get into each other's way.  The id of a new structure tells the side, by the
end of its name, and the operation, by what is left (`OperationSide.syntheticId_inj`), and the members of a
structure have different names.  So normalization succeeds as soon as every side resolves and no shape of
the model has one of the new ids (`Model.normalize_fails_exactly`).
-/

namespace ServiceShapes

/-! ### Ids of new structures -/

namespace OperationSide

/-- The end of a name tells inputs and outputs apart. -/
theorem append_nameSuffix_ne (name name' : String) :
    name ++ OperationSide.input.nameSuffix ≠ name' ++ OperationSide.output.nameSuffix := by
  intro same
  have chars : name.toList ++ "Input".toList = (name'.toList ++ ['O']) ++ "utput".toList := by
    simpa [nameSuffix] using congrArg String.toList same
  exact absurd (List.append_inj' chars rfl).2 (by decide)

theorem append_nameSuffix_inj {side side' : OperationSide} {name name' : String}
    (same : name ++ side.nameSuffix = name' ++ side'.nameSuffix) : side = side' ∧ name = name' := by
  cases side <;> cases side'
  case input.input => exact ⟨rfl, (String.append_left_inj _).1 same⟩
  case input.output => exact absurd same (append_nameSuffix_ne name name')
  case output.input => exact absurd same.symm (append_nameSuffix_ne name' name)
  case output.output => exact ⟨rfl, (String.append_left_inj _).1 same⟩

/-- **The id of a new structure tells the side and the operation**, its member part apart. -/
theorem syntheticId_inj {side side' : OperationSide} {operation operation' : ShapeId}
    (same : side.syntheticId operation = side'.syntheticId operation') :
    side = side' ∧ operation.withoutMember = operation'.withoutMember := by
  simp only [syntheticId, ShapeId.ofName, ShapeId.mk.injEq, String.append_left_inj] at same
  obtain ⟨ns, name, -⟩ := same
  obtain ⟨sides, name⟩ := append_nameSuffix_inj name
  exact ⟨sides, by simp [ShapeId.withoutMember, ns, name]⟩

end OperationSide

/-- The ids that an operation names on its sides, the input first. -/
def Shape.sideIds (s : Shape) : List ShapeId := (s.sideId? .input).toList ++ (s.sideId? .output).toList

namespace Model

variable {m : Model} {s s' : Shape} {side side' : OperationSide} {id : ShapeId}

/-- The ids that the operations name on their sides, in the order of the operations. -/
def sideIds (m : Model) : List ShapeId := m.shapes.flatMap Shape.sideIds

/-- The names that the structure on one side of an operation lists for members that are there. -/
def memberNamesThere (m : Model) (s : Shape) (side : OperationSide) : List String :=
  (m.sideShape? s side).elim [] fun original =>
    original.memberNames.filter fun name => m.contains (original.id.withMember name)

/-- The ids that normalization gives out for one side of an operation, if that is not linked yet: those
of a structure and of its members. -/
def sideNewIds (m : Model) (s : Shape) (side : OperationSide) : List ShapeId :=
  if s.isOperation && !m.isLinked s side then
    side.syntheticId s.id ::
      (m.memberNamesThere s side).map fun name => (side.syntheticId s.id).withMember name
  else []

/-- All ids that normalization gives out. -/
def newIds (m : Model) : List ShapeId :=
  m.shapes.flatMap fun s => m.sideNewIds s .input ++ m.sideNewIds s .output

/-! ### Shapes that are looked up -/

theorem mem_sideIds_iff : id ∈ m.sideIds ↔ ∃ o ∈ m.shapes, ∃ side, o.sideId? side = some id := by
  have of_one : ∀ o : Shape, id ∈ o.sideIds ↔ ∃ side, o.sideId? side = some id := by
    intro o
    rw [Shape.sideIds, List.mem_append, Option.mem_toList, Option.mem_toList]
    constructor
    · rintro (input | output)
      · exact ⟨.input, input⟩
      · exact ⟨.output, output⟩
    · rintro ⟨input | output, named⟩
      · exact .inl named
      · exact .inr named
  simp only [sideIds, List.mem_flatMap, of_one]

/-- None of the ids is missing exactly if every side resolves. -/
theorem firstMissing?_sideIds_eq_none_iff :
    m.firstMissing? m.sideIds = none ↔ ∀ o ∈ m.shapes, m.SidesResolve o := by
  rw [firstMissing?_eq_none_iff]
  simp only [mem_sideIds_iff]
  constructor
  · exact fun present o ho side id named => present id ⟨o, ho, side, named⟩
  · rintro resolve id ⟨o, ho, side, named⟩
    exact resolve o ho side id named

theorem looksUp_sideShapes (m : Model) (operation : ShapeId) (side : OperationSide)
    (current : Option ShapeId) :
    m.LooksUp (fun e => e) current.toList (m.sideShapes operation side current) := by
  cases current with
  | none => exact looksUp_ok _
  | some id =>
    show m.LooksUp (fun e => e) ([id] ++ []) _
    refine (looksUp_expect m id).bind fun replaced => ?_
    split <;> exact looksUp_ok _

theorem looksUp_normalizeShape (m : Model) (s : Shape) :
    m.LooksUp (fun e => e) s.sideIds (m.normalizeShape s) := by
  cases operation : s.isOperation with
  | false =>
    have none_named : s.sideIds = [] := by
      simp [Shape.sideIds, Shape.sideId?_of_not_operation operation]
    have stays : m.normalizeShape s = .ok [s] := by
      unfold normalizeShape
      split <;> simp_all [Shape.isOperation]
    rw [none_named, stays]
    exact looksUp_ok [s]
  | true =>
    obtain ⟨input, output, errors, kind⟩ := Shape.isOperation_iff.1 operation
    have named : s.sideIds = input.toList ++ output.toList := by
      simp [Shape.sideIds, Shape.sideId?, kind]
    rw [named, normalizeShape, kind]
    exact (looksUp_sideShapes m s.id .input input).bind fun input =>
      (looksUp_sideShapes m s.id .output output).andThen _

theorem looksUp_normalizeShapes (m : Model) :
    m.LooksUp (fun e => e) m.sideIds (m.shapes.mapM m.normalizeShape) :=
  LooksUp.mapM fun s _ => looksUp_normalizeShape m s

/-- **The first side that names a missing shape is reported**, whatever else is wrong. -/
theorem normalize_of_missing (missing : m.firstMissing? m.sideIds = some id) :
    m.normalize = .error (m.notFound id) := by
  rw [normalize, m.looksUp_normalizeShapes.eq_error_iff.2 ⟨id, missing, rfl⟩]
  rfl

/-- If every side resolves, it all depends on what arises fitting into one model. -/
theorem normalize_of_resolve (resolve : ∀ o ∈ m.shapes, m.SidesResolve o) :
    m.normalize = ofShapes (m.shapes.flatMap m.shapeOutcome) := by
  obtain ⟨l, resolved⟩ := m.looksUp_normalizeShapes.exists_ok_iff.2
    (firstMissing?_eq_none_iff.1 (firstMissing?_sideIds_eq_none_iff.2 resolve))
  have outcome := (List.mapM_eq_ok_iff_of_step fun _ _ => normalizeShape_eq_ok_iff).1 resolved
  rw [normalize, resolved, ← outcome.2]
  rfl

/-! ### Ids that are given out -/

theorem memberIds_sideMembers (m : Model) (s : Shape) (side : OperationSide) :
    (m.sideMembers s side).map (·.id) =
      (m.memberNamesThere s side).map fun name => (side.syntheticId s.id).withMember name := by
  rw [sideMembers, sideOriginals, memberNamesThere]
  cases m.sideShape? s side with
  | none => rfl
  | some original =>
    simp only [Option.elim_some, members]
    induction original.memberNames with
    | nil => rfl
    | cons name names ih =>
      simp only [List.filterMap_cons, List.filter_cons]
      cases found : m.get? (original.id.withMember name) with
      | none => simpa [contains, found] using ih
      | some member =>
        simpa [contains, found, Shape.under_id (id_of_get? found)] using ih

/-- **The ids that are given out are those of the shapes that are made.** -/
theorem map_id_madeFor (m : Model) (s : Shape) (side : OperationSide) :
    (m.madeFor s side).map (·.id) = m.sideNewIds s side := by
  unfold madeFor sideNewIds
  cases operates : s.isOperation with
  | false => rfl
  | true =>
    cases linked : m.isLinked s side with
    | true =>
      obtain ⟨t, present, link⟩ := isLinked_iff.1 linked
      simp [sideOutcome_of_linked present link]
    | false =>
      have structureId : (m.sideContainer s side).id = side.syntheticId s.id := rfl
      simp [sideOutcome_of_not_linked linked, memberIds_sideMembers, structureId]

/-- What arises has the new ids and the old ones. -/
theorem outcomeIds_perm (m : Model) :
    ((m.shapes.flatMap m.shapeOutcome).map (·.id)).Perm (m.newIds ++ m.ids) := by
  have each : ∀ s, (m.shapeOutcome s).map (·.id) =
      (m.sideNewIds s .input ++ m.sideNewIds s .output) ++ [s.id] := by
    intro s
    simp only [shapeOutcome, List.map_append, map_id_madeFor, List.map_cons, List.map_nil,
      normalizedShape_id]
  rw [List.map_flatMap, newIds, ids, List.map_eq_flatMap]
  simp only [each]
  exact (List.flatMap_append_perm m.shapes _ _).symm

/-- A new id is that of the new structure, its member part apart. -/
theorem withoutMember_of_mem_sideNewIds (h : id ∈ m.sideNewIds s side) :
    s.isOperation = true ∧ id.withoutMember = side.syntheticId s.id := by
  unfold sideNewIds at h
  split at h
  · rename_i made
    refine ⟨(Bool.and_eq_true_iff.1 made).1, ?_⟩
    rcases List.mem_cons.1 h with rfl | member
    · rfl
    · obtain ⟨name, -, rfl⟩ := List.mem_map.1 member
      rfl
  · cases h

/-- **A new id tells the operation and the side it was given out for.** -/
theorem eq_of_mem_sideNewIds
    (plain : ∀ o ∈ m.shapes, o.isOperation = true → o.id.member = none) (hs : s ∈ m.shapes)
    (hs' : s' ∈ m.shapes) (h : id ∈ m.sideNewIds s side) (h' : id ∈ m.sideNewIds s' side') :
    s = s' ∧ side = side' := by
  obtain ⟨operates, structureId⟩ := withoutMember_of_mem_sideNewIds h
  obtain ⟨operates', structureId'⟩ := withoutMember_of_mem_sideNewIds h'
  obtain ⟨sides, operations⟩ := OperationSide.syntheticId_inj (structureId.symm.trans structureId')
  have whole : ∀ {o : Shape}, o.id.member = none → o.id.withoutMember = o.id := by
    intro o member
    rw [ShapeId.withoutMember, ← member]
  rw [whole (plain s hs operates), whole (plain s' hs' operates')] at operations
  exact ⟨eq_of_id_eq hs hs' operations, sides⟩

theorem nodup_sideNewIds (distinct : ∀ t ∈ m.shapes, t.memberNames.Nodup) (s : Shape)
    (side : OperationSide) : (m.sideNewIds s side).Nodup := by
  have names : (m.memberNamesThere s side).Nodup := by
    unfold memberNamesThere
    cases present : m.sideShape? s side with
    | none => exact List.nodup_nil
    | some original =>
      obtain ⟨i, -, found⟩ := Option.bind_eq_some_iff.1 present
      exact (distinct original (mem_of_get? found)).filter _
  unfold sideNewIds
  split
  · refine List.nodup_cons.2 ⟨?_, names.map fun name name' same => ?_⟩
    · rw [List.mem_map]
      rintro ⟨name, -, same⟩
      cases congrArg ShapeId.member same
    · exact Option.some.inj (congrArg ShapeId.member same)
  · exact List.nodup_nil

/-- **No id is given out twice.** -/
theorem nodup_newIds (plain : ∀ o ∈ m.shapes, o.isOperation = true → o.id.member = none)
    (distinct : ∀ s ∈ m.shapes, s.memberNames.Nodup) : m.newIds.Nodup := by
  have apart : ∀ {s s' side side'}, s ∈ m.shapes → s' ∈ m.shapes → (s, side) ≠ (s', side') →
      (m.sideNewIds s side).Disjoint (m.sideNewIds s' side') := by
    intro s s' side side' hs hs' different id h h'
    obtain ⟨rfl, rfl⟩ := eq_of_mem_sideNewIds plain hs hs' h h'
    exact different rfl
  refine List.nodup_flatMap.2 ⟨fun s hs => ?_, m.sorted.imp_of_mem fun {s s'} hs hs' before => ?_⟩
  · exact (nodup_sideNewIds distinct s .input).append (nodup_sideNewIds distinct s .output)
      (apart hs hs (by simp))
  · have different : s ≠ s' := by
      rintro rfl
      exact ShapeId.lt_irrefl _ before
    simp [Function.onFun, List.disjoint_append_left, List.disjoint_append_right, apart hs hs', different]

/-! ### Ids that are taken -/

theorem mem_ids_iff : id ∈ m.ids ↔ m.contains id = true := by
  simp [ids, contains, get?]

/-- What arises fits into one model exactly if no new id is taken. -/
theorem nodup_outcomeIds_iff (plain : ∀ o ∈ m.shapes, o.isOperation = true → o.id.member = none)
    (distinct : ∀ s ∈ m.shapes, s.memberNames.Nodup) :
    ((m.shapes.flatMap m.shapeOutcome).map (·.id)).Nodup ↔
      ∀ id ∈ m.newIds, m.contains id = false := by
  rw [(outcomeIds_perm m).nodup_iff, List.nodup_append']
  simp [nodup_newIds plain distinct, m.nodup_ids, List.Disjoint, mem_ids_iff]

/-- **An id that comes twice in what arises is a new one that is taken**: no new id comes twice, and none
of the model does. -/
theorem mem_newIds_of_repeated
    (plain : ∀ o ∈ m.shapes, o.isOperation = true → o.id.member = none)
    (distinct : ∀ s ∈ m.shapes, s.memberNames.Nodup) {before after : List Shape}
    (arises : m.shapes.flatMap m.shapeOutcome = before ++ s :: after)
    (repeated : s.id ∈ before.map (·.id)) : s.id ∈ m.newIds ∧ m.contains s.id = true := by
  have twice : 2 ≤ (m.newIds ++ m.ids).count s.id := by
    have once := List.count_pos_iff.2 repeated
    rw [← (outcomeIds_perm m).count_eq, arises, List.map_append, List.map_cons, List.count_append,
      List.count_cons_self]
    omega
  rw [List.count_append] at twice
  have new := List.nodup_iff_count_le_one.1 (nodup_newIds plain distinct) s.id
  have old := List.nodup_iff_count_le_one.1 m.nodup_ids s.id
  exact ⟨List.count_pos_iff.1 (by omega), mem_ids_iff.1 (List.count_pos_iff.1 (by omega))⟩

/-- Sides are looked up before anything is put together, so a missing shape is reported even if ids are
taken as well. -/
theorem normalize_eq_shapeNotFound_iff {suggestions : List Suggestion} :
    m.normalize = .error (.shapeNotFound id suggestions) ↔
      m.firstMissing? m.sideIds = some id ∧ suggestions = suggest id m.ids suggestionLimit := by
  cases first : m.firstMissing? m.sideIds with
  | some missing =>
    rw [normalize_of_missing first]
    simp only [notFound, Except.error.injEq, ModelError.shapeNotFound.injEq, Option.some.injEq]
    constructor
    · rintro ⟨rfl, rfl⟩
      exact ⟨rfl, rfl⟩
    · rintro ⟨rfl, rfl⟩
      exact ⟨rfl, rfl⟩
  | none =>
    rw [normalize_of_resolve (firstMissing?_sideIds_eq_none_iff.1 first), ofShapes_eq_error_iff]
    simp

/-- **Normalization fails for a missing shape or for an id that is taken, and for nothing else.**  The
first missing side decides, whatever ids are taken.  Once all sides resolve, an id comes twice exactly if a
new one is taken (`nodup_outcomeIds_iff`), since new ids of different operations or sides differ. -/
theorem normalize_fails_exactly
    (plain : ∀ o ∈ m.shapes, o.isOperation = true → o.id.member = none)
    (distinct : ∀ s ∈ m.shapes, s.memberNames.Nodup) :
    ((∃ id suggestions, m.normalize = .error (.shapeNotFound id suggestions)) ↔
      ∃ o ∈ m.shapes, ¬ m.SidesResolve o) ∧
    (∀ id suggestions, m.normalize = .error (.shapeNotFound id suggestions) ↔
      m.firstMissing? m.sideIds = some id ∧ suggestions = suggest id m.ids suggestionLimit) ∧
    ((∀ o ∈ m.shapes, m.SidesResolve o) →
      ((∃ m', m.normalize = .ok m') ↔ ∀ id ∈ m.newIds, m.contains id = false) ∧
      ((∃ id ∈ m.newIds, m.contains id = true) →
        ∃ id ∈ m.newIds, m.contains id = true ∧ m.normalize = .error (.duplicateShape id))) ∧
    ∀ s ∈ m.shapes, ∀ s' ∈ m.shapes, ∀ side side' id,
      id ∈ m.sideNewIds s side → id ∈ m.sideNewIds s' side' → s = s' ∧ side = side' := by
  refine ⟨?_, fun id suggestions => normalize_eq_shapeNotFound_iff, fun resolve => ?_,
    fun s hs s' hs' side side' id h h' => eq_of_mem_sideNewIds plain hs hs' h h'⟩
  · have none_missing := @firstMissing?_sideIds_eq_none_iff m
    constructor
    · rintro ⟨id, suggestions, fails⟩
      by_contra resolve
      simp only [not_exists, not_and, not_not] at resolve
      rw [normalize_eq_shapeNotFound_iff, none_missing.2 resolve] at fails
      cases fails.1
    · rintro ⟨o, ho, unresolved⟩
      obtain ⟨id, first⟩ := Option.ne_none_iff_exists'.1 fun complete =>
        unresolved (none_missing.1 complete o ho)
      exact ⟨id, _, normalize_eq_shapeNotFound_iff.2 ⟨first, rfl⟩⟩
  · have fits := nodup_outcomeIds_iff plain distinct
    rw [normalize_of_resolve resolve]
    refine ⟨exists_ofShapes_eq_ok_iff.trans fits, ?_⟩
    rintro ⟨id, new, taken⟩
    cases built : ofShapes (m.shapes.flatMap m.shapeOutcome) with
    | ok m' =>
      have fresh := fits.1 (exists_ofShapes_eq_ok_iff.1 ⟨m', built⟩) id new
      exact absurd taken (by simp [fresh])
    | error e =>
      obtain ⟨before, s, after, arises, -, repeated, rfl⟩ := ofShapes_eq_error_iff.1 built
      obtain ⟨new', taken'⟩ := mem_newIds_of_repeated plain distinct arises repeated
      exact ⟨s.id, new', taken', rfl⟩

/-- An operation and its input; the id that the copy of the input's member gets is taken. -/
def taken (output : Option ShapeId) : Model where
  shapes :=
    [⟨.ofName "a" "Find", .operation (some (.ofName "a" "Query")) output [], .empty⟩,
     ⟨.ofName "a" "Query", .aggregate .record ["text"], .empty⟩,
     ⟨(ShapeId.ofName "a" "Query").withMember "text", .member (.ofName "a" "Text"), .empty⟩,
     ⟨(ShapeId.ofName "a.synthetic" "FindInput").withMember "text", .aggregate .record [], .empty⟩]
  sorted := by simp; decide

/-- The id that is taken is reported, unless the output is missing. -/
theorem taken_normalize :
    (taken none).normalize =
      .error (.duplicateShape ((ShapeId.ofName "a.synthetic" "FindInput").withMember "text")) ∧
    ∃ suggestions, (taken (some (.ofName "a" "Found"))).normalize =
      .error (.shapeNotFound (.ofName "a" "Found") suggestions) := by
  constructor
  · obtain ⟨-, -, resolved, -⟩ := normalize_fails_exactly (m := taken none) (by decide) (by decide)
    have resolve := firstMissing?_sideIds_eq_none_iff.1
      (show (taken none).firstMissing? (taken none).sideIds = none by decide)
    obtain ⟨id, new, held, fails⟩ := (resolved resolve).2 (by decide)
    have only : ∀ id ∈ (taken none).newIds, (taken none).contains id = true →
        id = (ShapeId.ofName "a.synthetic" "FindInput").withMember "text" := by decide
    rw [fails, only id new held]
  · obtain ⟨-, reported, -⟩ :=
      normalize_fails_exactly (m := taken (some (.ofName "a" "Found"))) (by decide) (by decide)
    exact ⟨_, (reported _ _).2 ⟨by decide, rfl⟩⟩

end Model

end ServiceShapes
