import ServiceShapes.Proofs.Lookups
import ServiceShapes.Proofs.Resolution.Base
import ServiceShapes.Proofs.Resolution.Parts

/-!
# What plain resolution looks up

Resolving a shape looks up each of its parts, and all that lies below a part before the next one; a member
looks up its container last.  `Model.visits` lists these ids in order.  In an acyclic model the visit of
every shape comes to an end, since each part has fewer shapes below it.

Resolution follows this list (`BaseSymbols.looksUp_resolve`): where an id is missing it stops and reports
it, and otherwise it goes through to the end.  It needs no more depth than the model has shapes and one
more, which is what `baseProvider` gives it, so that it is never cut short (`baseProvider_of_acyclic`).
-/

namespace ServiceShapes

open Relation (ReflTransGen)

variable {m : Model} {modules : ModulePaths} {s t : Shape} {id : ShapeId} {depth : Nat}

/-! ### Visits -/

namespace Model

/-- The ids that resolving a shape looks up, in order: each part, followed by what is looked up below it,
and for a member then its container. -/
def visits (m : Model) (acyclic : m.Acyclic) (s : Shape) : List ShapeId :=
  (s.partIds.attach.flatMap fun id =>
    id.1 :: match _ : m.get? id.1 with
      | none => []
      | some part => m.visits acyclic part) ++ s.container?.toList
termination_by m.below s
decreasing_by exact below_lt acyclic ⟨id.1, id.2, ‹_›⟩

theorem visits_eq (acyclic : m.Acyclic) (s : Shape) : m.visits acyclic s =
    (s.partIds.flatMap fun id => id :: (m.get? id).elim [] (m.visits acyclic)) ++
      s.container?.toList := by
  have parts := List.attach_map_subtype_val s.partIds
  conv_rhs => rw [← parts, List.flatMap_map]
  rw [visits]
  congr 2
  funext ⟨id, named⟩
  congr 1
  split <;> simp [*]

theorem mem_visits_iff_of_parts (acyclic : m.Acyclic) : id ∈ m.visits acyclic s ↔
    id ∈ s.partIds ++ s.container?.toList ∨ ∃ t, m.IsPart s t ∧ id ∈ m.visits acyclic t := by
  have below : ∀ p, id ∈ (m.get? p).elim [] (m.visits acyclic) ↔
      ∃ t, m.get? p = some t ∧ id ∈ m.visits acyclic t := by
    intro p
    cases m.get? p <;> simp
  rw [visits_eq]
  simp only [IsPart, List.mem_append, List.mem_flatMap, List.mem_cons, below]
  constructor
  · rintro (⟨p, named, rfl | ⟨t, found, visited⟩⟩ | container)
    · exact .inl (.inl named)
    · exact .inr ⟨t, ⟨p, named, found⟩, visited⟩
    · exact .inl (.inr container)
  · rintro ((named | container) | ⟨t, ⟨p, named, found⟩, visited⟩)
    · exact .inl ⟨id, named, .inl rfl⟩
    · exact .inr container
    · exact .inl ⟨p, named, .inr ⟨t, found, visited⟩⟩

/-- **A visit looks up what every shape on the way needs.** -/
theorem mem_visits_iff (acyclic : m.Acyclic) : id ∈ m.visits acyclic s ↔
    ∃ t, ReflTransGen m.IsPart s t ∧ id ∈ t.partIds ++ t.container?.toList := by
  induction s using acyclic.induction with
  | step s ih =>
    rw [mem_visits_iff_of_parts]
    constructor
    · rintro (own | ⟨t, part, visited⟩)
      · exact ⟨s, .refl, own⟩
      · obtain ⟨u, reached, needed⟩ := (ih t part).1 visited
        exact ⟨u, .head part reached, needed⟩
    · rintro ⟨u, reached, needed⟩
      rcases ReflTransGen.cases_head_iff.1 reached with rfl | ⟨t, part, reached⟩
      · exact .inl needed
      · exact .inr ⟨t, part, (ih t part).2 ⟨u, reached, needed⟩⟩

end Model

/-! ### Resolution follows the visit -/

namespace BaseSymbols

/-- Looks a part up and resolves it. -/
def resolvePart (m : Model) (modules : ModulePaths) (depth : Nat) (id : ShapeId) :
    Generated Symbol :=
  ofModel (m.expect id) >>= resolve m modules depth

theorem resolve_succ (m : Model) (modules : ModulePaths) (depth : Nat) (s : Shape) :
    resolve m modules (depth + 1) s =
      match s.kind with
      | .simple type => .ok (simple type)
      | .list item => resolvePart m modules depth item >>= fun item => .ok (list item)
      | .map key value => resolvePart m modules depth key >>= fun key =>
        resolvePart m modules depth value >>= fun value => .ok (map key value)
      | .aggregate _ _ => .ok (named s (aggregateModule modules s.traits))
      | .operation .. => .ok (named s modules.operation)
      | .service _ => .ok (named s "crate")
      | .member target => resolvePart m modules depth target >>= fun target =>
        ofModel (m.expect s.id.withoutMember) >>= fun container =>
          .ok (member (some container) s target) := by
  cases kind : s.kind <;> simp only [resolve, kind, resolvePart, bind_assoc]

/-- **With more depth than there are shapes below it, a shape is resolved along its visit.** -/
theorem looksUp_resolve (acyclic : m.Acyclic) (enough : m.below s < depth) :
    m.LooksUp .model (m.visits acyclic s) (resolve m modules depth s) := by
  induction depth generalizing s with
  | zero => exact absurd enough (Nat.not_lt_zero _)
  | succ depth ih =>
    have part : ∀ id ∈ s.partIds, m.LooksUp GenerationError.model
        (id :: (m.get? id).elim [] (m.visits acyclic)) (resolvePart m modules depth id) := by
      intro id named
      refine Model.looksUp_expect_bind fun t found => ih ?_
      have fewer := Model.below_lt acyclic ⟨id, named, found⟩
      omega
    rw [Model.visits_eq, resolve_succ]
    unfold Shape.partIds Shape.container? at *
    cases kind : s.kind with
    | simple type => exact Model.looksUp_ok _
    | aggregate form members => exact Model.looksUp_ok _
    | operation input output errors => exact Model.looksUp_ok _
    | service operations => exact Model.looksUp_ok _
    | list item =>
      simp only [kind] at part ⊢
      simpa using (part item (by simp)).andThen list
    | map key value =>
      simp only [kind] at part ⊢
      have both := (part key (by simp)).bind fun k => (part value (by simp)).andThen (map k)
      simpa using both
    | member target =>
      simp only [kind] at part ⊢
      have container : m.LooksUp GenerationError.model [s.id.withoutMember]
          (ofModel (m.expect s.id.withoutMember)) := (Model.looksUp_expect m _).mapError
      have both := (part target (by simp)).bind fun u =>
        container.andThen fun c => member (some c) s u
      simpa using both

/-- What a visit of an acyclic model gives does not depend on the depth, if there is enough of it. -/
theorem resolve_eq_of_lt (acyclic : m.Acyclic) {depth' : Nat} (le : depth ≤ depth')
    (enough : m.below s < depth) : resolve m modules depth' s = resolve m modules depth s := by
  have follows : m.LooksUp .model (m.visits acyclic s) (resolve m modules depth s) :=
    looksUp_resolve acyclic enough
  have follows' : m.LooksUp .model (m.visits acyclic s) (resolve m modules depth' s) :=
    looksUp_resolve acyclic (Nat.lt_of_lt_of_le enough le)
  cases resolved : resolve m modules depth s with
  | ok symbol => exact resolve_eq_ok_of_le le resolved
  | error e => exact follows'.eq_error_iff.2 (follows.eq_error_iff.1 resolved)

end BaseSymbols

/-- **Plain resolution terminates, and fails with the first missing shape.**  In an acyclic model the depth
that `baseProvider` allows for is never used up: more of it changes nothing.  A shape is resolved exactly
if every shape on the way has its parts, and a member its container; otherwise the first missing id on the
visit is reported, and no other error occurs. -/
theorem baseProvider_of_acyclic (acyclic : m.Acyclic) (modules : ModulePaths) (s : Shape) :
    (∀ depth > m.size, BaseSymbols.resolve m modules depth s = baseProvider m modules s) ∧
    ((∃ symbol, baseProvider m modules s = .ok symbol) ↔ ∀ t, ReflTransGen m.IsPart s t →
      ∀ id ∈ t.partIds ++ t.container?.toList, m.contains id = true) ∧
    ∀ e, baseProvider m modules s = .error e ↔ ∃ id,
      m.firstMissing? (m.visits acyclic s) = some id ∧ e = .model (m.notFound id) := by
  have enough : m.below s < m.size + 1 := Nat.lt_succ_of_le (m.below_le_size s)
  have follows : m.LooksUp .model (m.visits acyclic s) (baseProvider m modules s) :=
    BaseSymbols.looksUp_resolve acyclic enough
  refine ⟨fun depth deeper => BaseSymbols.resolve_eq_of_lt acyclic deeper enough, ?_,
    fun e => follows.eq_error_iff⟩
  rw [follows.exists_ok_iff]
  constructor
  · intro present t reached id needed
    exact present id ((Model.mem_visits_iff acyclic).2 ⟨t, reached, needed⟩)
  · intro present id visited
    obtain ⟨t, reached, needed⟩ := (Model.mem_visits_iff acyclic).1 visited
    exact present t reached id needed

/-- A member whose container is missing.  It is a map whose values are missing, too, and its keys are
lists of what is missing as well. -/
def Model.forlorn : Model where
  shapes :=
    [⟨.ofName "a" "Keys", .list (.ofName "a" "Gone"), .empty⟩,
     ⟨.ofName "a" "Pairs", .map (.ofName "a" "Keys") (.ofName "a" "Lost"), .empty⟩,
     ⟨(ShapeId.ofName "a" "Record").withMember "pairs", .member (.ofName "a" "Pairs"), .empty⟩]
  sorted := by decide

/-- The member of `Model.forlorn`. -/
def Shape.forlornPairs : Shape :=
  ⟨(ShapeId.ofName "a" "Record").withMember "pairs", .member (.ofName "a" "Pairs"), .empty⟩

/-- What lies below the keys is looked up first. -/
theorem forlornPairs_missing : ∃ acyclic : Model.forlorn.Acyclic,
    Model.forlorn.firstMissing? (Model.forlorn.visits acyclic .forlornPairs) =
      some (.ofName "a" "Gone") ∧
    baseProvider .forlorn {} .forlornPairs =
      .error (.model (Model.forlorn.notFound (.ofName "a" "Gone"))) := by
  have acyclic : Model.forlorn.Acyclic := Model.acyclic_of_lt (by decide)
  have fails : baseProvider .forlorn {} .forlornPairs =
      .error (.model (Model.forlorn.notFound (.ofName "a" "Gone"))) := rfl
  obtain ⟨id, first, same⟩ := ((baseProvider_of_acyclic acyclic {} .forlornPairs).2.2 _).1 fails
  cases GenerationError.model.inj same
  exact ⟨acyclic, first, fails⟩

end ServiceShapes
