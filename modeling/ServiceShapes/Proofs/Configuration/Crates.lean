import ServiceShapes.Proofs.Configuration.Answers
import ServiceShapes.Proofs.Crates.Merging
import ServiceShapes.Proofs.Templates.Rendering

/-!
# The crates of a configuration

Where customizations render templates, the generated file declares the crates that placeholders name
and no others, with exactly the features that go with them (`ServiceConfig.generate_declares`).  The
declarations are merged twice, for each fragment and for the file.  Merging changes nothing of what is
declared (`Dependency.exists_declares_merge`), so it only remains to follow the fragments from the
templates to the file (`ServiceConfig.mem_fragments_iff`).
-/

namespace ServiceShapes

open Dependency (crate)

/-- A customization that renders templates. -/
structure TemplateCustomization where
  name : String
  /-- The template for a section, if there is one, with the items that its placeholders can name. -/
  template? : ConfigSection → Generated (Option (Scope × String))

namespace TemplateCustomization

/-- The customization that answers with the rendered templates. -/
def toCustomization (c : TemplateCustomization) : Customization where
  name := c.name
  fragment? place := do
    match ← c.template? place with
    | none => .ok none
    | some (scope, text) => (renderTemplate scope text).map some

variable {c : TemplateCustomization} {place : ConfigSection} {fragment : Fragment} {scope : Scope}
  {text : String}

theorem fragment?_of_none (given : c.template? place = .ok none) :
    c.toCustomization.fragment? place = .ok none := by
  simp only [toCustomization, given]
  rfl

theorem fragment?_of_some (given : c.template? place = .ok (some (scope, text))) :
    c.toCustomization.fragment? place = (renderTemplate scope text).map some := by
  simp only [toCustomization, given]
  rfl

theorem fragment?_eq_some_iff : c.toCustomization.fragment? place = .ok (some fragment) ↔
    ∃ scope text, c.template? place = .ok (some (scope, text)) ∧
      renderTemplate scope text = .ok fragment := by
  constructor
  · intro answers
    obtain ⟨_ | ⟨scope, text⟩, given, -⟩ := Except.bind_eq_ok_iff.1 answers
    · rw [fragment?_of_none given] at answers
      cases answers
    · rw [fragment?_of_some given] at answers
      obtain ⟨_, rendered, same⟩ := Except.map_eq_ok_iff.1 answers
      cases same
      exact ⟨scope, text, given, rendered⟩
  · rintro ⟨scope, text, given, rendered⟩
    rw [fragment?_of_some given, rendered, Except.map]

end TemplateCustomization

namespace ServiceConfig

variable {c : ServiceConfig} {place : ConfigSection} {sources : List TemplateCustomization}
  {service : String} {file : GeneratedFile}

theorem mem_all (place : ConfigSection) : place ∈ ConfigSection.all := by
  cases place <;> decide

/-- The fragments of a section are those that its customizations answer with. -/
theorem mem_fragments_iff {found : List Fragment} (h : c.fragments place = .ok found)
    {fragment : Fragment} : fragment ∈ found ↔
      ∃ customization ∈ c.customizations, customization.fragment? place = .ok (some fragment) := by
  obtain ⟨answers, collected, made⟩ := Except.bind_eq_ok_iff.1 h
  cases made
  simp [List.mem_iff_of_mapM_eq_ok collected]

/-- A placeholder in a template of some section stands for an item that needs the crate, with these
features. -/
def NamesCrate (sources : List TemplateCustomization) (d : Dependency) : Prop :=
  ∃ place, ∃ source ∈ sources, ∃ scope text, source.template? place = .ok (some (scope, text)) ∧
    scope.NamesCrate (Text.unindent text.toList) d

/-- The file declares what some fragment does. -/
theorem exists_declares_fileOf_iff {found : ConfigSection → List Fragment} {k : String × CrateSource}
    {feature? : Option String} :
    (∃ e ∈ (fileOf service found).dependencies, e.Declares k feature?) ↔
      ∃ place, ∃ fragment ∈ found place, ∃ e ∈ fragment.dependencies, e.Declares k feature? := by
  rw [fileOf, Dependency.exists_declares_merge]
  constructor
  · rintro ⟨d, mem, declares⟩
    obtain ⟨fragment, mem, needs⟩ := List.mem_flatMap.1 mem
    obtain ⟨place, -, mem⟩ := List.mem_flatMap.1 mem
    exact ⟨place, fragment, mem, d, needs, declares⟩
  · rintro ⟨place, fragment, mem, d, needs, declares⟩
    have mem := List.mem_flatMap.2 ⟨place, mem_all place, mem⟩
    exact ⟨d, List.mem_flatMap.2 ⟨fragment, mem, needs⟩, declares⟩

/-- Fragments that were rendered from templates declare what the placeholders of these templates
name. -/
theorem exists_declares_found_iff {found : ConfigSection → List Fragment}
    (collected : ∀ place, fragments ⟨service, sources.map (·.toCustomization)⟩ place =
      .ok (found place)) {k : String × CrateSource} {feature? : Option String} :
    (∃ place, ∃ fragment ∈ found place, ∃ e ∈ fragment.dependencies, e.Declares k feature?) ↔
      ∃ d, NamesCrate sources d ∧ d.Declares k feature? := by
  constructor
  · rintro ⟨place, fragment, mem, declares⟩
    obtain ⟨_, asked, answers⟩ := (mem_fragments_iff (collected place)).1 mem
    obtain ⟨source, among, rfl⟩ := List.mem_map.1 asked
    obtain ⟨scope, text, given, rendered⟩ := TemplateCustomization.fragment?_eq_some_iff.1 answers
    obtain ⟨used, needed, named⟩ := exists_used_renderTemplate rendered
    rw [needed, Dependency.exists_declares_merge] at declares
    obtain ⟨d, mem_used, declares⟩ := declares
    exact ⟨d, ⟨place, source, among, scope, text, given, (named d).1 mem_used⟩, declares⟩
  · rintro ⟨d, ⟨place, source, mem, scope, text, given, names⟩, declares⟩
    have mem : source.toCustomization ∈ sources.map (·.toCustomization) := List.mem_map_of_mem mem
    obtain ⟨answer, answers⟩ := exists_fragments_iff.1 ⟨_, collected place⟩ _ mem
    rw [TemplateCustomization.fragment?_of_some given] at answers
    obtain ⟨fragment, rendered, -⟩ := Except.map_eq_ok_iff.1 answers
    have answers := TemplateCustomization.fragment?_eq_some_iff.2 ⟨scope, text, given, rendered⟩
    obtain ⟨used, needed, named⟩ := exists_used_renderTemplate rendered
    refine ⟨place, fragment, (mem_fragments_iff (collected place)).2 ⟨_, mem, answers⟩, ?_⟩
    rw [needed, Dependency.exists_declares_merge]
    exact ⟨d, (named d).2 names, declares⟩

/-- **The file declares the crates that placeholders name**, with the features that go with them and
no others, each crate once; and if there is no file, the first error that comes up says why.  What is
declared goes through two merges, of each fragment and of the file, and neither changes it
(`exists_declares_found_iff`, `exists_declares_fileOf_iff`). -/
theorem generate_declares (service : String) (sources : List TemplateCustomization) :
    (∀ file, generate ⟨service, sources.map (·.toCustomization)⟩ = .ok file →
      (∀ k feature?, (∃ e ∈ file.dependencies, e.Declares k feature?) ↔
        ∃ d, NamesCrate sources d ∧ d.Declares k feature?) ∧
      (file.dependencies.map crate).Nodup) ∧
    ∀ e, generate ⟨service, sources.map (·.toCustomization)⟩ = .error e ↔
      FirstError (sources.map (·.toCustomization)) e := by
  constructor
  · intro file made
    obtain ⟨found, collected, rfl⟩ := generate_eq_ok_iff.1 made
    refine ⟨fun k feature? => ?_, Dependency.nodup_map_crate_merge _⟩
    rw [exists_declares_fileOf_iff, exists_declares_found_iff collected]
  · intro e
    exact generate_eq_error_iff

/-- Names an item in one section. -/
def namingOne (place : ConfigSection) (item : RuntimeItem) : TemplateCustomization where
  name := item.name
  template? other := .ok (if other = place then some (⟨[("Item", item)]⟩, "#\x7bItem\x7d") else none)

theorem exists_fragment?_namingOne (place other : ConfigSection) (item : RuntimeItem) :
    ∃ answer, (namingOne place item).toCustomization.fragment? other = .ok answer := by
  by_cases here : other = place
  · have given : (namingOne place item).template? other =
        .ok (some (⟨[("Item", item)]⟩, "#\x7bItem\x7d")) := congrArg Except.ok (if_pos here)
    rw [TemplateCustomization.fragment?_of_some given, Template.renderTemplate_of_pieces
      (t := .placeholder [] "Item".toList (.literal [])) (by decide) (by decide)]
    exact ⟨_, rfl⟩
  · exact ⟨none, TemplateCustomization.fragment?_of_none (congrArg Except.ok (if_neg here))⟩

/-- The signer needs no feature of the runtime crate and the error needs one; a single declaration
serves both. -/
theorem generate_declares_eventStream :
    let sources := [namingOne .configImpl (.noOpSigner {}),
      namingOne .builderStruct (.messageStreamError {})]
    ∃ file, generate ⟨"Chat", sources.map (·.toCustomization)⟩ = .ok file ∧
      (∃ e ∈ file.dependencies, e.Declares ("shapegen-runtime", .registry "0.1")
        (some "event-stream")) ∧
      (file.dependencies.map crate).Nodup := by
  intro sources
  have answers : ∀ place, ∀ c ∈ sources.map (·.toCustomization),
      ∃ answer, c.fragment? place = .ok answer := by
    intro place c mem
    rcases List.mem_pair.1 mem with rfl | rfl <;> exact exists_fragment?_namingOne _ place _
  obtain ⟨file, made⟩ :=
    (exists_generate_iff (c := ⟨"Chat", sources.map (·.toCustomization)⟩)).2 answers
  obtain ⟨declares, once⟩ := (generate_declares "Chat" sources).1 file made
  refine ⟨file, made, (declares _ _).2 ⟨(RuntimeCrate.dependency {}).withFeature "event-stream",
    ?_, rfl, ?_⟩, once⟩
  · refine ⟨.builderStruct, namingOne .builderStruct (.messageStreamError {}), by simp [sources],
      ⟨[("Item", .messageStreamError {})]⟩, "#\x7bItem\x7d", rfl, "Item".toList, ?_, _, rfl, rfl⟩
    exact @Template.HasPlaceholder.here _ [] [] (by decide) (by decide)
  · simp [Dependency.withFeature]

end ServiceConfig

end ServiceShapes
