import Mathlib.Data.List.Nodup
import ServiceShapes.Generation.BaseSymbols

/-!
# Building on symbols

Dependencies and references are added to the end of a list unless they are there already; `addNew`
is that step.  Each way of building on a symbol is an update of one of its fields by such steps, and
the equations here say of which: `Symbol.addDependency_eq`, `Symbol.addDependencies_eq`,
`Symbol.addReference_eq`, and from them `BaseSymbols.collection_eq` for collections and
`BaseSymbols.optionalMember_eq` for optional members.  Every other field stays as it is.
-/

namespace ServiceShapes

/-! ### Adding what is not there -/

section AddNew

variable {α : Type} [DecidableEq α]

/-- The list with one more item at its end, unless it has it already. -/
def addNew (l : List α) (a : α) : List α := if a ∈ l then l else l ++ [a]

@[simp] theorem mem_addNew {l : List α} {a b : α} : b ∈ addNew l a ↔ b ∈ l ∨ b = a := by
  unfold addNew
  split
  · rename_i present
    exact ⟨.inl, fun h => h.elim id fun same => same ▸ present⟩
  · simp

theorem nodup_addNew {l : List α} (h : l.Nodup) (a : α) : (addNew l a).Nodup := by
  unfold addNew
  split
  · exact h
  · rename_i absent
    rw [← List.concat_eq_append, List.nodup_concat]
    exact ⟨absent, h⟩

@[simp] theorem mem_foldl_addNew {l as : List α} {b : α} :
    b ∈ as.foldl addNew l ↔ b ∈ l ∨ b ∈ as := by
  induction as generalizing l with
  | nil => simp
  | cons a as ih => rw [List.foldl_cons, ih, mem_addNew, List.mem_cons, or_assoc]

theorem nodup_foldl_addNew {l : List α} (h : l.Nodup) (as : List α) :
    (as.foldl addNew l).Nodup := by
  induction as generalizing l with
  | nil => exact h
  | cons a as ih => exact ih (nodup_addNew h a)

end AddNew

/-! ### Dependencies and references -/

namespace Symbol

theorem addDependency_eq (s : Symbol) (d : Dependency) :
    s.addDependency d = { s with dependencies := addNew s.dependencies d } := by
  cases s
  unfold addDependency addNew
  split <;> rfl

theorem addDependencies_eq (s : Symbol) (ds : List Dependency) :
    s.addDependencies ds = { s with dependencies := ds.foldl addNew s.dependencies } := by
  induction ds generalizing s with
  | nil => cases s; rfl
  | cons d ds ih =>
    rw [addDependencies, List.foldl_cons, ← addDependencies, ih, addDependency_eq, List.foldl_cons]

theorem addReference_eq (s r : Symbol) :
    s.addReference r = { s with references := addNew s.references r } := by
  cases s
  unfold addReference addNew
  split <;> rfl

end Symbol

/-! ### Collections -/

namespace BaseSymbols

/-- **A collection has the dependencies of its parts and refers to them, each once.** -/
theorem collection_eq (type : RustType) (parts : List Symbol) :
    collection type parts = { Symbol.ofType type with
      dependencies := (parts.flatMap (·.dependencies)).foldl addNew []
      references := parts.foldl addNew [] } := by
  -- the parts are worked in from left to right, so whatever is there already is arbitrary
  have step : ∀ s : Symbol, parts.foldl
      (fun s part => (s.addDependencies part.dependencies).addReference part) s = { s with
        dependencies := (parts.flatMap (·.dependencies)).foldl addNew s.dependencies
        references := parts.foldl addNew s.references } := by
    induction parts with
    | nil =>
      intro s
      cases s
      rfl
    | cons part parts ih =>
      intro s
      rw [List.foldl_cons, ih, Symbol.addReference_eq, Symbol.addDependencies_eq,
        List.flatMap_cons, List.foldl_append, List.foldl_cons]
  exact step _

/-- **An optional member refers to its target and takes over its dependencies.** -/
theorem optionalMember_eq (shape : Shape) (target : Symbol) :
    optionalMember shape target = { Symbol.ofType (.option target.type) with
      ns := target.ns
      dependencies := target.dependencies.foldl addNew []
      references := [target]
      documentation := memberDocumentation shape target } := by
  rw [optionalMember, Symbol.addReference_eq, Symbol.addDependencies_eq]
  rfl

end BaseSymbols

end ServiceShapes
