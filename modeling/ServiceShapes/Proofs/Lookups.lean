import ServiceShapes.Model.Basic
import ServiceShapes.Proofs.Results

/-!
# Computations that look shapes up

Many computations on a model can fail in one way only: some id that they look up is missing.  Which error
they give is then decided by the ids they look up, in their order (`Model.firstMissing?`).

`Model.LooksUp` says that a result is of this kind.  It is put together as the computation is: steps in a
row look up the ids of the first step and then those of the second (`Model.LooksUp.bind`), and a step taken
on every item of a list looks up the ids of all items (`Model.LooksUp.mapM`).  What has to be said about
the whole computation in the end, when it succeeds and with which error it fails, is read off the list of
ids (`Model.LooksUp.exists_ok_iff`, `Model.LooksUp.eq_error_iff`).
-/

namespace ServiceShapes.Model

variable {ε α β : Type} {m : Model} {wrap : ModelError → ε} {id : ShapeId} {ids ids' : List ShapeId}

/-- The first of some ids that no shape has. -/
def firstMissing? (m : Model) (ids : List ShapeId) : Option ShapeId :=
  ids.find? fun id => !m.contains id

theorem firstMissing?_append (m : Model) (ids ids' : List ShapeId) :
    m.firstMissing? (ids ++ ids') = (m.firstMissing? ids).or (m.firstMissing? ids') :=
  List.find?_append

theorem firstMissing?_eq_none_iff :
    m.firstMissing? ids = none ↔ ∀ id ∈ ids, m.contains id = true := by
  simp [firstMissing?]

/-- `r` is what comes of looking up `ids` one after another: an error about the first that is missing,
and if none is, a value. -/
def LooksUp (m : Model) (wrap : ModelError → ε) (ids : List ShapeId) (r : Except ε α) : Prop :=
  match m.firstMissing? ids with
  | none => ∃ a, r = .ok a
  | some id => r = .error (wrap (m.notFound id))

/-! ### Putting look-ups together -/

theorem looksUp_ok (a : α) : m.LooksUp wrap [] (.ok a) := ⟨a, rfl⟩

theorem looksUp_expect (m : Model) (id : ShapeId) : m.LooksUp (fun e => e) [id] (m.expect id) := by
  cases present : m.get? id with
  | none => simp [LooksUp, firstMissing?, contains, expect, present]
  | some s => simp [LooksUp, firstMissing?, contains, expect, present]

/-- Errors can be wrapped up. -/
theorem LooksUp.mapError {r : Except ModelError α} (h : m.LooksUp (fun e => e) ids r) :
    m.LooksUp wrap ids (r.mapError wrap) := by
  unfold LooksUp at h ⊢
  split at h
  · obtain ⟨a, rfl⟩ := h
    exact ⟨a, rfl⟩
  · rw [h]
    rfl

/-- **Steps in a row look up the ids of the first and then those of the second.** -/
theorem LooksUp.bind {x : Except ε α} {f : α → Except ε β} (first : m.LooksUp wrap ids x)
    (second : ∀ a, m.LooksUp wrap ids' (f a)) : m.LooksUp wrap (ids ++ ids') (x >>= f) := by
  unfold LooksUp at first ⊢
  rw [firstMissing?_append]
  split at first
  · rename_i complete
    obtain ⟨a, rfl⟩ := first
    rw [complete, Option.none_or]
    exact second a
  · rename_i id missing
    rw [missing, Option.some_or, first]
    rfl

/-- What is done with a value looks nothing up. -/
theorem LooksUp.andThen {x : Except ε α} (h : m.LooksUp wrap ids x) (f : α → β) :
    m.LooksUp wrap ids (x >>= fun a => .ok (f a)) := by
  simpa using h.bind fun a => looksUp_ok (f a)

/-- A shape is looked up, and with it what is looked up below it.  Where the shape is missing, there is
nothing below it. -/
theorem looksUp_expect_bind {below : Shape → List ShapeId} {f : Shape → Except ε α}
    (found : ∀ s, m.get? id = some s → m.LooksUp wrap (below s) (f s)) :
    m.LooksUp wrap (id :: (m.get? id).elim [] below) ((m.expect id).mapError wrap >>= f) := by
  cases present : m.get? id with
  | none => simp [LooksUp, firstMissing?, contains, expect, present, Except.mapError, bind, Except.bind]
  | some s =>
    have goes := found s present
    unfold LooksUp firstMissing? at goes ⊢
    simpa [contains, expect, present, Except.mapError, bind, Except.bind] using goes

/-- **A step taken on every item looks up the ids of all items.** -/
theorem LooksUp.mapM {l : List α} {f : α → Except ε β} {needs : α → List ShapeId}
    (step : ∀ a ∈ l, m.LooksUp wrap (needs a) (f a)) :
    m.LooksUp wrap (l.flatMap needs) (l.mapM f) := by
  induction l with
  | nil => exact looksUp_ok []
  | cons a l ih =>
    obtain ⟨first, rest⟩ := List.forall_mem_cons.1 step
    rw [List.flatMap_cons, List.mapM_cons]
    exact first.bind fun b => (ih rest).andThen (b :: ·)

/-! ### What the ids decide -/

/-- **Such a computation succeeds exactly if all the ids are there.** -/
theorem LooksUp.exists_ok_iff {r : Except ε α} (h : m.LooksUp wrap ids r) :
    (∃ a, r = .ok a) ↔ ∀ id ∈ ids, m.contains id = true := by
  rw [← firstMissing?_eq_none_iff]
  unfold LooksUp at h
  split at h
  · rename_i complete
    simp [h, complete]
  · rename_i id missing
    simp [h, missing]

/-- **It fails with the first id that is missing**, and with nothing else. -/
theorem LooksUp.eq_error_iff {r : Except ε α} (h : m.LooksUp wrap ids r) {e : ε} :
    r = .error e ↔ ∃ id, m.firstMissing? ids = some id ∧ e = wrap (m.notFound id) := by
  unfold LooksUp at h
  split at h
  · rename_i complete
    obtain ⟨a, rfl⟩ := h
    simp [complete]
  · rename_i id missing
    rw [h, missing]
    simp [eq_comm]

end ServiceShapes.Model
