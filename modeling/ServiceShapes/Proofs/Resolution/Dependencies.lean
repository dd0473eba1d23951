import ServiceShapes.Proofs.Crates.Merging
import ServiceShapes.Proofs.Resolution.Duality
import ServiceShapes.Proofs.Resolution.Metadata
import ServiceShapes.Proofs.Resolution.Parts

/-!
# Crates that resolved symbols need

Two crates can be needed for the type of a shape.  Free-form data comes from a crate of its own, and
the type holds such data when a document shape is found by following items of lists, keys and values
of maps, and targets of members (`Model.Holds`).  Channels come from the runtime crate.

Every plain symbol declares by itself all that the symbols below it declare
(`Symbol.DeclaresAll`), so collecting dependencies along the references adds nothing to it.  The
event stream stage adds the runtime crate, and what it refers to needs no other.
-/

namespace ServiceShapes

/-! ### Free-form data in types -/

/-- The crate of free-form data. -/
def documentCrate : Dependency := .ofRegistry "serde_json" "1"

namespace Symbol

variable {s t r : Symbol}

/-- The symbol declares every dependency of the symbols that it reaches. -/
def DeclaresAll (s : Symbol) : Prop :=
  ∀ r ∈ s.transitiveReferences, ∀ d ∈ r.dependencies, d ∈ s.dependencies

/-- **For such a symbol there is nothing to collect along the references.** -/
theorem DeclaresAll.allDependencies (h : s.DeclaresAll) :
    s.allDependencies = Dependency.merge s.dependencies := by
  refine Dependency.merge_append_of_subset fun d hd => ?_
  obtain ⟨r, hr, hd⟩ := List.mem_flatMap.1 hd
  exact h r hr d hd

/-- It is enough to look at the references, if these declare what lies below them. -/
theorem declaresAll_of_references
    (declares : ∀ r ∈ s.references, ∀ d ∈ r.dependencies, d ∈ s.dependencies)
    (below : ∀ r ∈ s.references, r.DeclaresAll) : s.DeclaresAll := by
  intro x hx d hd
  obtain ⟨r, hr, rfl | hx⟩ := mem_transitiveReferences_iff.1 hx
  · exact declares x hr d hd
  · exact declares r hr d (below r hr x hx d hd)

theorem declaresAll_of_no_references (h : s.references = []) : s.DeclaresAll := by
  refine declaresAll_of_references ?_ ?_ <;> simp [h]

/-- Only dependencies and references count. -/
theorem DeclaresAll.of_same (h : s.DeclaresAll) (dependencies : t.dependencies = s.dependencies)
    (references : t.references = s.references) : t.DeclaresAll := by
  intro r hr d hd
  rw [transitiveReferences, references] at hr
  rw [dependencies]
  exact h r hr d hd

end Symbol

/-! ### Plain symbols -/

namespace BaseSymbols

variable {model : Model} {modules : ModulePaths} {shape : Shape} {s : Symbol}

/-- The symbol declares the crate of free-form data if the shape holds such data, and no other, and
nothing below it needs more. -/
structure Declares (model : Model) (shape : Shape) (s : Symbol) : Prop where
  mem_iff : ∀ d, d ∈ s.dependencies ↔ d = documentCrate ∧ model.Holds .document shape
  all : s.DeclaresAll

theorem declaresAll_collection (type : RustType) {parts : List Symbol}
    (all : ∀ p ∈ parts, p.DeclaresAll) : (collection type parts).DeclaresAll := by
  rw [collection_eq]
  refine Symbol.declaresAll_of_references ?_ ?_
  · intro r hr d hd
    have part : r ∈ parts := by simpa using hr
    exact mem_foldl_addNew.2 (.inr (List.mem_flatMap.2 ⟨r, part, hd⟩))
  · simpa using all

theorem mem_dependencies_collection {type : RustType} {parts : List Symbol} {d : Dependency} :
    d ∈ (collection type parts).dependencies ↔ ∃ p ∈ parts, d ∈ p.dependencies := by
  rw [collection_eq]
  simp

theorem mem_dependencies_member {container : Option Shape} {target : Symbol} {d : Dependency} :
    d ∈ (member container shape target).dependencies ↔ d ∈ target.dependencies := by
  rw [member]
  split
  · exact Iff.rfl
  · rw [optionalMember_eq]
    simp

theorem declaresAll_member (container : Option Shape) {target : Symbol}
    (all : target.DeclaresAll) : (member container shape target).DeclaresAll := by
  rw [member]
  split
  · exact all.of_same rfl rfl
  · rw [optionalMember_eq]
    refine Symbol.declaresAll_of_references ?_ ?_
    · intro r hr d hd
      rw [List.mem_singleton.1 hr] at hd
      exact mem_foldl_addNew.2 (.inr hd)
    · intro r hr
      rwa [List.mem_singleton.1 hr]

/-- A named type is made of no others and declares nothing. -/
theorem declares_named (module : String) (other : shape.kind ≠ .simple .document)
    (alone : shape.partIds = []) : Declares model shape (named shape module) := by
  refine ⟨fun d => ?_, Symbol.declaresAll_of_no_references rfl⟩
  rw [Model.holds_iff_of_part other]
  simp [named, Symbol.ofType, Model.IsPart, alone]

theorem declares_simple {type : SimpleType} (kind : shape.kind = .simple type) :
    Declares model shape (simple type) := by
  refine ⟨fun d => ?_, Symbol.declaresAll_of_no_references (by cases type <;> rfl)⟩
  have alone : ¬∃ t, model.IsPart shape t ∧ model.Holds .document t := by
    simp [Model.IsPart, Shape.partIds, kind]
  rw [Model.holds_iff, or_iff_left alone, kind]
  cases type <;> simp [simple, document, documentCrate, Symbol.ofType]

/-- **One step of plain resolution declares what is needed.** -/
theorem Built.declares (h : Built model modules (Declares model) shape s) :
    Declares model shape s := by
  cases h with
  | simple kind => exact declares_simple kind
  | aggregate kind => exact declares_named _ (by simp [kind]) (by simp [Shape.partIds, kind])
  | operation kind => exact declares_named _ (by simp [kind]) (by simp [Shape.partIds, kind])
  | service kind => exact declares_named _ (by simp [kind]) (by simp [Shape.partIds, kind])
  | list kind found resolved =>
    have other : shape.kind ≠ .simple .document := by simp [kind]
    refine ⟨fun d => ?_, declaresAll_collection _ (by simpa using resolved.all)⟩
    rw [BaseSymbols.list, mem_dependencies_collection, Model.holds_iff_of_part other]
    simp [Model.IsPart, Shape.partIds, kind, found, resolved.mem_iff]
  | map kind keyFound keyResolved valueFound valueResolved =>
    have other : shape.kind ≠ .simple .document := by simp [kind]
    refine ⟨fun d => ?_, declaresAll_collection _ (by simp [keyResolved.all, valueResolved.all])⟩
    rw [BaseSymbols.map, mem_dependencies_collection, Model.holds_iff_of_part other]
    simp [Model.IsPart, Shape.partIds, kind, keyFound, valueFound, keyResolved.mem_iff,
      valueResolved.mem_iff, or_and_right, exists_or, ← and_or_left]
  | member kind found resolved contained =>
    have other : shape.kind ≠ .simple .document := by simp [kind]
    refine ⟨fun d => ?_, declaresAll_member _ resolved.all⟩
    rw [mem_dependencies_member, resolved.mem_iff, Model.holds_iff_of_part other]
    simp [Model.IsPart, Shape.partIds, kind, found]

end BaseSymbols

/-! ### Event streams -/

namespace StreamSymbols

variable {s : StreamSymbols} {initial x : Symbol} {channel : ChannelEnd}

end StreamSymbols

namespace Context

variable {ctx : Context} {shape : Shape} {s : Symbol}

end Context

/-- An input whose events are lists of free-form data. -/
def Model.feed : Model where
  shapes :=
    [⟨.ofName "a" "Batch", .list (.ofName "a" "Json"), .empty⟩,
     ⟨.ofName "a" "Feed", .aggregate .record ["batches"],
       ⟨[.syntheticInput (.ofName "a" "Push")]⟩⟩,
     ⟨(ShapeId.ofName "a" "Feed").withMember "batches", .member (.ofName "a" "Batch"),
       ⟨[.streaming]⟩⟩,
     ⟨.ofName "a" "Json", .simple .document, .empty⟩]
  sorted := by decide

/-- The member that streams in `Model.feed`. -/
def Shape.feedBatches : Shape :=
  ⟨(ShapeId.ofName "a" "Feed").withMember "batches", .member (.ofName "a" "Batch"), ⟨[.streaming]⟩⟩

/-- The context of a client for `Model.feed`. -/
def Context.feed : Context := ⟨.feed, .ofName "a" "Feeds", .client, {}, {}⟩

end ServiceShapes
