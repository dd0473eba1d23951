import ServiceShapes.Proofs.Symbols.Building
import ServiceShapes.Proofs.Symbols.References

/-!
# Complete symbols

Code that uses a symbol has to import every named type in its type, and it finds these types by
following references.  A symbol is `Symbol.Accurate` when this works and its name is its type as it
is written in short; it is `Symbol.Complete` when it and all it reaches are accurate.

Completeness is kept by building: a symbol whose references are complete, and whose type has no
named types but itself and those in the types of the references, is complete
(`Symbol.complete_of_references`).
-/

namespace ServiceShapes

/-! ### Named types -/

namespace RustType

mutual

/-- The named types in a type, at any depth, each before those among its arguments. -/
def namedTypes : RustType → List RustType
  | .unit | .bool | .string | .integer _ | .float _ => []
  | .vec item => namedTypes item
  | .hashMap key value => namedTypes key ++ namedTypes value
  | .option content => namedTypes content
  | .box content => namedTypes content
  | .named name ns => [.named name ns]
  | .generic name ns args => .generic name ns args :: namedTypesOfArgs args

/-- The named types in several types. -/
def namedTypesOfArgs : List RustType → List RustType
  | [] => []
  | t :: rest => namedTypes t ++ namedTypesOfArgs rest

end

/-- Taking off an `Option` takes no named type away. -/
@[simp] theorem namedTypes_stripOption (t : RustType) :
    t.stripOption.namedTypes = t.namedTypes := by
  cases t <;> rfl

end RustType

namespace Symbol

variable {s t r : Symbol}

/-- The name, the references and the dependencies of a symbol fit its type. -/
structure Accurate (s : Symbol) : Prop where
  /-- Each named type in the type, at any depth, is the type of the symbol or of one it reaches. -/
  named : ∀ u ∈ s.type.namedTypes, ∃ r ∈ s :: s.transitiveReferences, r.type = u
  name : s.name = s.type.render false
  references : s.references.Nodup
  dependencies : s.dependencies.Nodup

/-- The symbol and all that it reaches are accurate. -/
def Complete (s : Symbol) : Prop := ∀ r ∈ s :: s.transitiveReferences, r.Accurate

theorem Complete.accurate (h : s.Complete) : s.Accurate := h s List.mem_cons_self

/-- **A symbol is complete when it is accurate and its references are complete.** -/
theorem complete_iff : s.Complete ↔ s.Accurate ∧ ∀ r ∈ s.references, r.Complete :=
  everywhere_iff

theorem Complete.of_mem_references (h : s.Complete) (hr : r ∈ s.references) : r.Complete :=
  (complete_iff.1 h).2 r hr

/-- Namespace and documentation have no part in completeness. -/
theorem Complete.of_same (h : s.Complete) (name : t.name = s.name) (type : t.type = s.type)
    (dependencies : t.dependencies = s.dependencies) (references : t.references = s.references) :
    t.Complete := by
  obtain ⟨accurate, complete⟩ := complete_iff.1 h
  have reaches : t.transitiveReferences = s.transitiveReferences := by
    rw [transitiveReferences, transitiveReferences, references]
  refine complete_iff.2 ⟨⟨?_, ?_, ?_, ?_⟩, by rwa [references]⟩
  · intro u hu
    rw [type] at hu
    obtain ⟨r, hr, rfl⟩ := accurate.named u hu
    rcases List.mem_cons.1 hr with rfl | hr
    · exact ⟨t, List.mem_cons_self, type⟩
    · exact ⟨r, List.mem_cons_of_mem _ (reaches ▸ hr), rfl⟩
  · rw [name, type, accurate.name]
  · rw [references]
    exact accurate.references
  · rw [dependencies]
    exact accurate.dependencies

/-- **A symbol is complete when its references are, and these account for the named types in its
type.** -/
theorem complete_of_references (name : s.name = s.type.render false)
    (references : s.references.Nodup) (dependencies : s.dependencies.Nodup)
    (complete : ∀ r ∈ s.references, r.Complete)
    (named : ∀ u ∈ s.type.namedTypes, u = s.type ∨ ∃ r ∈ s.references, u ∈ r.type.namedTypes) :
    s.Complete := by
  refine complete_iff.2 ⟨⟨?_, name, references, dependencies⟩, complete⟩
  intro u hu
  rcases named u hu with rfl | ⟨r, hr, hu⟩
  · exact ⟨s, List.mem_cons_self, rfl⟩
  · obtain ⟨x, hx, rfl⟩ := (complete r hr).accurate.named u hu
    exact ⟨x, List.mem_cons_of_mem _ (mem_transitiveReferences_iff.2 ⟨r, hr, List.mem_cons.1 hx⟩),
      rfl⟩

/-- A symbol without references is complete when its type holds no named type but itself. -/
theorem complete_of_no_references (name : s.name = s.type.render false)
    (references : s.references = []) (dependencies : s.dependencies.Nodup)
    (named : ∀ u ∈ s.type.namedTypes, u = s.type) : s.Complete := by
  refine complete_of_references name ?_ dependencies ?_ fun u hu => .inl (named u hu)
  · rw [references]
    exact List.nodup_nil
  · rw [references]
    exact fun _ h => nomatch h

end Symbol

end ServiceShapes
