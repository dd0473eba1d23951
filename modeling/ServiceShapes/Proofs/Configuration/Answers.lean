import ServiceShapes.Proofs.Configuration.Sections

/-!
# What customizations have to say

A customization answers for each section with a fragment, with an error, or with nothing.  The
generated file depends on the sequences of answers for the sections alone, and among these the
answers with nothing to say might as well not be there (`ServiceConfig.generate_eq_of_contributions`).

The answers are asked for section by section, within a section customization by customization.  The
first error in this order is the one that comes out (`ServiceConfig.generate_eq_error_iff`).
-/

namespace ServiceShapes

/-- The customization has something to say about a section: a fragment or an error. -/
def Customization.Contributes (c : Customization) (place : ConfigSection) : Prop :=
  c.fragment? place ≠ .ok none

namespace ServiceConfig

variable {service : String} {c : ServiceConfig} {e : GenerationError} {place : ConfigSection}
  {cs ds : List Customization}

/-- The answers of customizations for a section, in order, without those that have nothing to
say. -/
def contributions (cs : List Customization) (place : ConfigSection) :
    List (Generated (Option Fragment)) :=
  (cs.map (·.fragment? place)).filter (· ≠ .ok none)

/-- The fragments that a sequence of answers gives. -/
def collect (answers : List (Generated (Option Fragment))) : Generated (List Fragment) := do
  let found ← answers.mapM id
  .ok (found.filterMap id)

theorem collect_cons (answer : Generated (Option Fragment))
    (answers : List (Generated (Option Fragment))) :
    collect (answer :: answers) =
      answer >>= fun first => (collect answers).map fun rest => first.toList ++ rest := by
  rw [collect, collect, List.mapM_cons]
  cases answer with
  | error e => rfl
  | ok first =>
    cases answers.mapM id with
    | error e => rfl
    | ok rest => cases first <;> rfl

/-- Answers with nothing to say give no fragments and stop nothing. -/
theorem collect_filter (answers : List (Generated (Option Fragment))) :
    collect (answers.filter (· ≠ .ok none)) = collect answers := by
  induction answers with
  | nil => rfl
  | cons answer answers ih =>
    by_cases silent : answer = .ok none
    · rw [List.filter_cons_of_neg (by simpa using silent), ih, silent, collect_cons]
      cases collect answers <;> rfl
    · rw [List.filter_cons_of_pos (by simpa using silent), collect_cons, collect_cons, ih]

/-- **The fragments of a section come from what customizations contribute to it.** -/
theorem fragments_eq_collect (place : ConfigSection) :
    c.fragments place = collect (contributions c.customizations place) := by
  rw [contributions, collect_filter, collect, List.mapM_map]
  rfl

theorem generate_congr {c d : ServiceConfig} (name : c.serviceName = d.serviceName)
    (sections : ∀ place, c.fragments place = d.fragments place) : c.generate = d.generate := by
  unfold generate
  simp only [sections, name]

/-! ### Customizations with nothing to say -/

theorem contributions_append (cs ds : List Customization) (place : ConfigSection) :
    contributions (cs ++ ds) place = contributions cs place ++ contributions ds place := by
  rw [contributions, List.map_append, List.filter_append, contributions, contributions]

theorem contributions_cons_of_silent {c : Customization} (silent : ¬c.Contributes place)
    (cs : List Customization) : contributions (c :: cs) place = contributions cs place := by
  have nothing : c.fragment? place = .ok none := not_not.1 silent
  rw [contributions, List.map_cons, List.filter_cons_of_neg (by simpa using nothing), contributions]

/-- Neighbours of which one is silent can change places. -/
theorem contributions_swap {c d : Customization}
    (apart : ¬(c.Contributes place ∧ d.Contributes place)) (cs : List Customization) :
    contributions (c :: d :: cs) place = contributions (d :: c :: cs) place := by
  have front (a : Customization) (cs : List Customization) :
      contributions (a :: cs) place = contributions [a] place ++ contributions cs place :=
    contributions_append [a] cs place
  by_cases speaks : c.Contributes place
  · have silent : ¬d.Contributes place := fun h => apart ⟨speaks, h⟩
    rw [front c (d :: cs), contributions_cons_of_silent silent,
      contributions_cons_of_silent silent, ← front]
  · rw [front d (c :: cs), contributions_cons_of_silent speaks,
      contributions_cons_of_silent speaks, ← front]

/-- **Customizations that have the same to say make the same file**, or fail with the same error.  So
one that is silent everywhere can stand anywhere, and neighbours that never speak about the same
section can change places. -/
theorem generate_eq_of_contributions (service : String) :
    (∀ cs ds, (∀ place, contributions cs place = contributions ds place) →
      generate ⟨service, cs⟩ = generate ⟨service, ds⟩) ∧
    (∀ before c after, (∀ place, ¬c.Contributes place) →
      generate ⟨service, before ++ c :: after⟩ = generate ⟨service, before ++ after⟩) ∧
    ∀ before c d after, (∀ place, ¬(c.Contributes place ∧ d.Contributes place)) →
      generate ⟨service, before ++ c :: d :: after⟩ =
        generate ⟨service, before ++ d :: c :: after⟩ := by
  have decides : ∀ cs ds, (∀ place, contributions cs place = contributions ds place) →
      generate ⟨service, cs⟩ = generate ⟨service, ds⟩ := by
    intro cs ds same
    refine generate_congr rfl fun place => ?_
    rw [fragments_eq_collect, fragments_eq_collect, same place]
  refine ⟨decides, ?_, ?_⟩
  · intro before c after silent
    refine decides _ _ fun place => ?_
    rw [contributions_append, contributions_append, contributions_cons_of_silent (silent place)]
  · intro before c d after apart
    refine decides _ _ fun place => ?_
    rw [contributions_append, contributions_append, contributions_swap (apart place)]

/-- A customization that speaks about a single section. -/
def about (place : ConfigSection) (answer : Generated (Option Fragment)) : Customization where
  name := place.name
  fragment? other := if other = place then answer else .ok none

/-- A field and a broken method are independent, and what stands between them is silent. -/
theorem generate_independent :
    let field := about .configStruct (.ok (some ⟨"retries: u32,", [.ofRegistry "retry" "1"]⟩))
    let method := about .configImpl (.error (.unresolvedPlaceholder "Signer"))
    let silent := about .builderBuild (.ok none)
    generate ⟨"Chat", [field, silent, method]⟩ = generate ⟨"Chat", [method, field]⟩ ∧
    generate ⟨"Chat", [field] ++ silent :: [method]⟩ = generate ⟨"Chat", [field] ++ [method]⟩ ∧
    generate ⟨"Chat", [] ++ field :: method :: []⟩ = generate ⟨"Chat", [] ++ method :: field :: []⟩ := by
  intro field method silent
  obtain ⟨decides, insert, swap⟩ := generate_eq_of_contributions "Chat"
  refine ⟨decides _ _ fun place => ?_, insert _ _ _ fun place => ?_, swap _ _ _ _ fun place => ?_⟩
  · cases place <;> rfl
  · cases place <;> exact not_not.2 rfl
  · rintro ⟨first, second⟩
    cases place with
    | configStruct => exact second rfl
    | _ => exact first rfl

/-! ### The first error -/

/-- The first error that customizations answer with, asked section by section and within a section
one after another. -/
def FirstError (cs : List Customization) (e : GenerationError) : Prop :=
  ∃ earlier place later, ConfigSection.all = earlier ++ place :: later ∧
    ∃ before c after, cs = before ++ c :: after ∧
      (∀ p ∈ earlier, ∀ c ∈ cs, ∃ answer, c.fragment? p = .ok answer) ∧
      (∀ b ∈ before, ∃ answer, b.fragment? place = .ok answer) ∧ c.fragment? place = .error e

theorem exists_fragments_iff : (∃ found, c.fragments place = .ok found) ↔
    ∀ customization ∈ c.customizations, ∃ answer, customization.fragment? place = .ok answer := by
  rw [← List.exists_mapM_eq_ok_iff]
  simp only [fragments, Except.bind_eq_ok_iff]
  constructor
  · rintro ⟨_, answers, collected, -⟩
    exact ⟨answers, collected⟩
  · rintro ⟨answers, collected⟩
    exact ⟨_, answers, collected, rfl⟩

/-- **A file is generated exactly if no customization answers with an error.** -/
theorem exists_generate_iff : (∃ file, c.generate = .ok file) ↔
    ∀ place, ∀ customization ∈ c.customizations,
      ∃ answer, customization.fragment? place = .ok answer := by
  simp only [← exists_fragments_iff, generate_eq_ok_iff]
  constructor
  · rintro ⟨_, found, collected, -⟩ place
    exact ⟨found place, collected place⟩
  · intro each
    choose found collected using each
    exact ⟨_, found, collected, rfl⟩

theorem fragments_eq_error_iff : c.fragments place = .error e ↔
    ∃ before customization after, c.customizations = before ++ customization :: after ∧
      (∀ b ∈ before, ∃ answer, b.fragment? place = .ok answer) ∧
      customization.fragment? place = .error e := by
  rw [fragments, Except.bind_eq_error_iff, List.mapM_eq_error_iff]
  simp

/-- Generating fails with the first section whose fragments cannot be collected. -/
theorem generate_eq_error_iff_mapM :
    c.generate = .error e ↔ ConfigSection.all.mapM c.fragments = .error e := by
  simp [generate, ConfigSection.all, Except.bind_eq_error_iff, pure, Except.pure]

/-- **Generating fails exactly with the first error.** -/
theorem generate_eq_error_iff : c.generate = .error e ↔ FirstError c.customizations e := by
  rw [generate_eq_error_iff_mapM, List.mapM_eq_error_iff]
  simp only [exists_fragments_iff, fragments_eq_error_iff]
  constructor
  · rintro ⟨earlier, place, later, order, fine, before, customization, after, split, others, fails⟩
    exact ⟨earlier, place, later, order, before, customization, after, split, fine, others, fails⟩
  · rintro ⟨earlier, place, later, order, before, customization, after, split, fine, others, fails⟩
    exact ⟨earlier, place, later, order, fine, before, customization, after, split, others, fails⟩

end ServiceConfig

end ServiceShapes
