import Mathlib.Data.List.Induction
import Mathlib.Data.List.Nodup
import ServiceShapes.Proofs.Crates.Merging

/-!
# Laws of merging

What merged declarations look like is said without the way they are computed: one entry for each crate,
in the order in which crates occur first, with the features of all its declarations
(`Dependency.MergeOf`).  Only one list looks like that, and it is the one that `Dependency.merge` gives
(`Dependency.merge_eq_iff`).

So two lists of declarations are merged to the same list as soon as they name the same crates in the same
order of first occurrence and ask for the same features (`Dependency.merge_congr`).  Merging what is
merged already is such a case, and so is merging two lists that were merged before they were put
together.  Where only the order of first occurrence differs, the entries are the same in another order
(`Dependency.merge_perm`).
-/

namespace ServiceShapes

/-! ### First occurrences -/

section FirstOccurrences

variable {α : Type} [BEq α] [LawfulBEq α] [DecidableEq α]

theorem eraseDups_append_singleton (l : List α) (a : α) :
    (l ++ [a]).eraseDups = addNew l.eraseDups a := by
  rw [List.eraseDups_append, addNew]
  by_cases old : a ∈ l <;> simp [old, List.removeAll, List.eraseDups_cons]

/-- **Adding what is not there, one item after another, keeps the first occurrences.** -/
theorem foldl_addNew_eq_eraseDups (l : List α) : l.foldl addNew [] = l.eraseDups := by
  induction l using List.reverseRecOn with
  | nil => rfl
  | append_singleton l a ih =>
    rw [List.foldl_append, ih, eraseDups_append_singleton]
    rfl

/-- Only first occurrences are added. -/
theorem foldl_addNew_eraseDups (old l : List α) : l.eraseDups.foldl addNew old = l.foldl addNew old := by
  induction l using List.reverseRecOn with
  | nil => rfl
  | append_singleton l a ih =>
    rw [eraseDups_append_singleton, List.foldl_append, ← ih, addNew]
    split
    · rename_i present
      have added : a ∈ l.eraseDups.foldl addNew old := mem_foldl_addNew.2 (.inr present)
      rw [List.foldl_cons, List.foldl_nil, addNew, if_pos added]
    · rw [List.foldl_append]

theorem eraseDups_eraseDups (l : List α) : l.eraseDups.eraseDups = l.eraseDups := by
  rw [← foldl_addNew_eq_eraseDups l.eraseDups, foldl_addNew_eraseDups, foldl_addNew_eq_eraseDups]

/-- Repetitions can be left out before two lists are put together. -/
theorem eraseDups_eraseDups_append (as bs : List α) :
    (as.eraseDups ++ bs.eraseDups).eraseDups = (as ++ bs).eraseDups := by
  rw [← foldl_addNew_eq_eraseDups (_ ++ _), ← foldl_addNew_eq_eraseDups (_ ++ _),
    List.foldl_append, List.foldl_append, foldl_addNew_eraseDups, foldl_addNew_eraseDups]

end FirstOccurrences

namespace Dependency

variable {d e : Dependency} {ds es ms : List Dependency}

/-! ### What merged declarations look like -/

/-- `ms` has one entry for each crate that `ds` declare, in the order in which crates occur first, with
the features of all its declarations. -/
structure MergeOf (ds ms : List Dependency) : Prop where
  crates : ms.map crate = (ds.map crate).eraseDups
  features : ∀ e ∈ ms, ∀ f, f ∈ e.features ↔ ∃ d ∈ ds, d.crate = e.crate ∧ f ∈ d.features

/-- A declaration is known by its crate and its features. -/
theorem eq_of_crate_of_features (crates : d.crate = e.crate)
    (features : ∀ f, f ∈ d.features ↔ f ∈ e.features) : d = e := by
  obtain ⟨name, source, dFeatures⟩ := d
  obtain ⟨_, _, eFeatures⟩ := e
  cases crates
  cases FeatureSet.ext_mem features
  rfl

/-- **Merged declarations look like that.** -/
theorem mergeOf_merge (ds : List Dependency) : MergeOf ds (merge ds) where
  crates := by rw [map_crate_merge, foldl_addNew_eq_eraseDups]
  features e he f := by
    have declared : e.crate ∈ (merge ds).map crate := List.mem_map.2 ⟨e, he, rfl⟩
    have only := List.filter_key_eq_singleton (nodup_map_crate_merge ds) he
    have some_one : ∃ d ∈ ds, d.crate = e.crate := by
      rw [map_crate_merge, mem_foldl_addNew] at declared
      simpa using declared
    obtain ⟨e', only', features⟩ := exists_entry_merge_iff.1 some_one
    cases only.symm.trans only'
    exact features f

/-- **Only one list looks like that.** -/
theorem MergeOf.unique (h : MergeOf ds ms) (g : MergeOf ds es) : ms = es := by
  have crates : ms.map crate = es.map crate := h.crates.trans g.crates.symm
  have length : ms.length = es.length := by simpa using congrArg List.length crates
  refine List.ext_getElem length fun i hi hi' => ?_
  have same : (ms[i]).crate = (es[i]).crate := by
    have at_i := List.getElem_of_eq crates (by simpa using hi)
    rwa [List.getElem_map, List.getElem_map] at at_i
  refine eq_of_crate_of_features same fun f => ?_
  rw [h.features _ (List.getElem_mem hi), g.features _ (List.getElem_mem hi'), same]

theorem merge_eq_iff : merge ds = ms ↔ MergeOf ds ms := by
  constructor
  · rintro rfl
    exact mergeOf_merge ds
  · exact (mergeOf_merge ds).unique

/-! ### Lists that are merged alike -/

/-- A feature of a crate is asked for after merging exactly if it was before. -/
theorem exists_feature_merge_iff {k : String × CrateSource} {f : String} :
    (∃ d ∈ merge ds, d.crate = k ∧ f ∈ d.features) ↔ ∃ d ∈ ds, d.crate = k ∧ f ∈ d.features := by
  simpa [Declares] using @exists_declares_merge ds k (some f)

/-- **Lists that name the same crates first and ask for the same features are merged alike.** -/
theorem merge_congr (crates : (ds.map crate).eraseDups = (es.map crate).eraseDups)
    (features : ∀ k f, (∃ d ∈ ds, d.crate = k ∧ f ∈ d.features) ↔
      ∃ d ∈ es, d.crate = k ∧ f ∈ d.features) : merge ds = merge es := by
  refine merge_eq_iff.2 ⟨?_, fun e he f => ?_⟩
  · rw [crates, (mergeOf_merge es).crates]
  · rw [features, (mergeOf_merge es).features e he]

/-- Merging what is merged changes nothing. -/
theorem merge_merge (ds : List Dependency) : merge (merge ds) = merge ds := by
  refine merge_congr ?_ fun k f => exists_feature_merge_iff
  rw [(mergeOf_merge ds).crates, eraseDups_eraseDups]

/-- **Lists can be merged before they are put together.** -/
theorem merge_merge_append_merge (ds es : List Dependency) :
    merge (merge ds ++ merge es) = merge (ds ++ es) := by
  refine merge_congr ?_ fun k f => ?_
  · rw [List.map_append, List.map_append, (mergeOf_merge ds).crates, (mergeOf_merge es).crates,
      eraseDups_eraseDups_append]
  · simp only [List.mem_append, or_and_right, exists_or, exists_feature_merge_iff]

/-- The entries that merging gives, whatever their order. -/
theorem mem_merge_iff : e ∈ merge ds ↔ e.crate ∈ ds.map crate ∧
    ∀ f, f ∈ e.features ↔ ∃ d ∈ ds, d.crate = e.crate ∧ f ∈ d.features := by
  have merged := mergeOf_merge ds
  constructor
  · intro he
    refine ⟨?_, merged.features e he⟩
    rw [← List.mem_eraseDups, ← merged.crates]
    exact List.mem_map.2 ⟨e, he, rfl⟩
  · rintro ⟨declared, features⟩
    rw [← List.mem_eraseDups, ← merged.crates] at declared
    obtain ⟨e', he', same⟩ := List.mem_map.1 declared
    have equal : e' = e := by
      refine eq_of_crate_of_features same fun f => ?_
      rw [merged.features e' he', same, features]
    exact equal ▸ he'

/-- **Declarations in another order give the same entries in another order.** -/
theorem merge_perm (h : ds.Perm es) : (merge ds).Perm (merge es) := by
  have distinct : ∀ l, (merge l).Nodup := fun l => (nodup_map_crate_merge l).of_map crate
  rw [List.perm_ext_iff_of_nodup (distinct ds) (distinct es)]
  intro e
  simp only [mem_merge_iff, (h.map crate).mem_iff, h.mem_iff]

/-- **Merging loses nothing, and it does not matter when or how often it is done.**  It gives one entry
for each crate, in the order in which crates occur first, with the features of all declarations of the
crate; merging again or merging parts first makes no difference, and the order of the declarations decides
nothing but the order of the entries. -/
theorem merge_lossless (ds : List Dependency) :
    (∀ ms, merge ds = ms ↔ MergeOf ds ms) ∧ merge (merge ds) = merge ds ∧
    (∀ es, merge (ds ++ es) = merge (merge ds ++ merge es)) ∧
    ∀ es, ds.Perm es → (merge ds).Perm (merge es) :=
  ⟨fun _ => merge_eq_iff, merge_merge ds, fun es => (merge_merge_append_merge ds es).symm,
    fun _ => merge_perm⟩

/-- A crate from two places, each of them declared twice. -/
def twoPlaces : List Dependency :=
  let published := ofRegistry "tokio" "1"
  let checkedOut : Dependency := { name := "tokio", source := .directory "../tokio" }
  [published.withFeature "sync", checkedOut, published.withFeature "rt", checkedOut]

/-- Read backwards, they give the same two entries in the other order. -/
theorem twoPlaces_merge_reverse : twoPlaces.Perm twoPlaces.reverse ∧
    (merge twoPlaces).map (fun d => (d.source, d.features.toList)) =
      [(.registry "1", ["rt", "sync"]), (.directory "../tokio", [])] ∧
    (merge twoPlaces).Perm (merge twoPlaces.reverse) ∧
    (merge twoPlaces).map crate ≠ (merge twoPlaces.reverse).map crate := by
  have backwards : twoPlaces.Perm twoPlaces.reverse := (List.reverse_perm twoPlaces).symm
  refine ⟨backwards, by decide, ?_, by decide⟩
  exact (merge_lossless twoPlaces).2.2.2 twoPlaces.reverse backwards

end Dependency

end ServiceShapes
