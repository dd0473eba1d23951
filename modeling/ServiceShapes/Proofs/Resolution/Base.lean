import ServiceShapes.Generation.BaseSymbols
import ServiceShapes.Proofs.Results

/-!
# One step of plain resolution

`BaseSymbols.resolve` follows items of lists, keys and values of maps, and targets of members.
`BaseSymbols.Built` says once what a single step does: which symbol a shape has, given the symbols
of the shapes that it is made of.  A success of `resolve` is such a step over successes with one less
depth (`BaseSymbols.resolve_succ_eq_ok_iff`), and all else is read off this:

* `BaseSymbols.resolve_eq_ok_of_le`: more depth keeps a symbol that was found.
* `BaseSymbols.resolve_induction`: what every step keeps holds of every shape and its symbol.
-/

namespace ServiceShapes

theorem ofModel_eq_ok_iff {α : Type} {r : Except ModelError α} {a : α} :
    ofModel r = .ok a ↔ r = .ok a := Except.mapError_eq_ok_iff

theorem Model.expect_eq_ok_iff {m : Model} {id : ShapeId} {s : Shape} :
    m.expect id = .ok s ↔ m.get? id = some s := by
  unfold expect
  split <;> simp_all

namespace BaseSymbols

variable {model : Model} {modules : ModulePaths}

/-- The symbol of a shape, built from symbols that `part` relates to the shapes it is made of. -/
inductive Built (model : Model) (modules : ModulePaths) (part : Shape → Symbol → Prop)
    (shape : Shape) : Symbol → Prop
  | simple {type} (kind : shape.kind = .simple type) :
      Built model modules part shape (BaseSymbols.simple type)
  | aggregate {form members} (kind : shape.kind = .aggregate form members) :
      Built model modules part shape (named shape (aggregateModule modules shape.traits))
  | operation {input output errors} (kind : shape.kind = .operation input output errors) :
      Built model modules part shape (named shape modules.operation)
  | service {operations} (kind : shape.kind = .service operations) :
      Built model modules part shape (named shape "crate")
  | list {id item s} (kind : shape.kind = .list id) (found : model.get? id = some item)
      (resolved : part item s) : Built model modules part shape (BaseSymbols.list s)
  | map {k v key value s t} (kind : shape.kind = .map k v) (keyFound : model.get? k = some key)
      (keyResolved : part key s) (valueFound : model.get? v = some value)
      (valueResolved : part value t) : Built model modules part shape (BaseSymbols.map s t)
  | member {id target s container} (kind : shape.kind = .member id)
      (found : model.get? id = some target) (resolved : part target s)
      (contained : model.get? shape.id.withoutMember = some container) :
      Built model modules part shape (BaseSymbols.member (some container) shape s)

theorem Built.mono {part part' : Shape → Symbol → Prop} (weaker : ∀ t u, part t u → part' t u)
    {shape : Shape} {s : Symbol} (h : Built model modules part shape s) :
    Built model modules part' shape s := by
  cases h with
  | simple kind => exact .simple kind
  | aggregate kind => exact .aggregate kind
  | operation kind => exact .operation kind
  | service kind => exact .service kind
  | list kind found resolved => exact .list kind found (weaker _ _ resolved)
  | map kind keyFound keyResolved valueFound valueResolved =>
    exact .map kind keyFound (weaker _ _ keyResolved) valueFound (weaker _ _ valueResolved)
  | member kind found resolved contained =>
    exact .member kind found (weaker _ _ resolved) contained

/-- **A success is one step over successes with one less depth.** -/
theorem resolve_succ_eq_ok_iff {depth : Nat} {shape : Shape} {s : Symbol} :
    resolve model modules (depth + 1) shape = .ok s ↔
      Built model modules (fun t u => resolve model modules depth t = .ok u) shape s := by
  constructor
  · intro h
    rw [resolve] at h
    split at h
    case h_1 type kind =>
      cases h
      exact .simple kind
    case h_2 item kind =>
      simp only [Except.bind_eq_ok_iff, ofModel_eq_ok_iff, Model.expect_eq_ok_iff] at h
      obtain ⟨item, found, u, resolved, made⟩ := h
      cases made
      exact .list kind found resolved
    case h_3 key value kind =>
      simp only [Except.bind_eq_ok_iff, ofModel_eq_ok_iff, Model.expect_eq_ok_iff] at h
      obtain ⟨key, keyFound, u, keyResolved, value, valueFound, w, valueResolved, made⟩ := h
      cases made
      exact .map kind keyFound keyResolved valueFound valueResolved
    case h_4 kind =>
      cases h
      exact .aggregate kind
    case h_5 kind =>
      cases h
      exact .operation kind
    case h_6 kind =>
      cases h
      exact .service kind
    case h_7 target kind =>
      simp only [Except.bind_eq_ok_iff, ofModel_eq_ok_iff, Model.expect_eq_ok_iff] at h
      obtain ⟨target, found, u, resolved, container, contained, made⟩ := h
      cases made
      exact .member kind found resolved contained
  · intro h
    cases h with
    | simple kind => simp only [resolve, kind]
    | aggregate kind => simp only [resolve, kind]
    | operation kind => simp only [resolve, kind]
    | service kind => simp only [resolve, kind]
    | list kind found resolved =>
      simp only [resolve, kind, Except.bind_eq_ok_iff, ofModel_eq_ok_iff, Model.expect_eq_ok_iff]
      exact ⟨_, found, _, resolved, rfl⟩
    | map kind keyFound keyResolved valueFound valueResolved =>
      simp only [resolve, kind, Except.bind_eq_ok_iff, ofModel_eq_ok_iff, Model.expect_eq_ok_iff]
      exact ⟨_, keyFound, _, keyResolved, _, valueFound, _, valueResolved, rfl⟩
    | member kind found resolved contained =>
      simp only [resolve, kind, Except.bind_eq_ok_iff, ofModel_eq_ok_iff, Model.expect_eq_ok_iff]
      exact ⟨_, found, _, resolved, _, contained, rfl⟩

/-- Without depth nothing is resolved. -/
theorem resolve_zero_ne_ok {shape : Shape} {s : Symbol} :
    resolve model modules 0 shape ≠ .ok s := nofun

/-- **More depth keeps a symbol that was found.** -/
theorem resolve_eq_ok_of_le {depth depth' : Nat} (le : depth ≤ depth') {shape : Shape} {s : Symbol}
    (h : resolve model modules depth shape = .ok s) :
    resolve model modules depth' shape = .ok s := by
  induction depth generalizing depth' shape s with
  | zero => exact absurd h resolve_zero_ne_ok
  | succ depth ih =>
    cases depth' with
    | zero => cases le
    | succ depth' =>
      rw [resolve_succ_eq_ok_iff] at h ⊢
      exact h.mono fun _ _ => ih (Nat.le_of_succ_le_succ le)

/-- **What each step keeps holds of every shape and its symbol.** -/
theorem resolve_induction {holds : Shape → Symbol → Prop}
    (step : ∀ shape s, Built model modules holds shape s → holds shape s) {depth : Nat}
    {shape : Shape} {s : Symbol} (h : resolve model modules depth shape = .ok s) :
    holds shape s := by
  induction depth generalizing shape s with
  | zero => exact absurd h resolve_zero_ne_ok
  | succ depth ih => exact step shape s ((resolve_succ_eq_ok_iff.1 h).mono fun _ _ => ih)

end BaseSymbols

end ServiceShapes
