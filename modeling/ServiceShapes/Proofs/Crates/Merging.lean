import ServiceShapes.Proofs.KeyedLists
import ServiceShapes.Proofs.Symbols.Building

/-!
# Merging declarations of crates

`Dependency.merge` goes through declarations from left to right and keeps one for each crate, in the
order in which crates occur first (`Dependency.map_crate_merge`).  What it keeps covers every
declaration it was given: it names the crate with at least the features asked for
(`Dependency.covers_merge`).  And it declares nothing that was not asked for
(`Dependency.exists_declares_merge`).  So each crate that is declared gets one entry, with the features
of all its declarations (`Dependency.exists_entry_merge_iff`).

A declaration that is covered already changes nothing.  So declarations that repeat earlier ones can
be left out (`Dependency.merge_append_of_subset`).
-/

namespace ServiceShapes

/-! ### Features -/

namespace FeatureSet

theorem insertSorted_of_mem {x : String} {l : List String} (sorted : l.Pairwise (· < ·))
    (h : x ∈ l) : insertSorted x l = l := by
  induction l with
  | nil => cases h
  | cons y rest ih =>
    obtain ⟨first, sorted⟩ := List.pairwise_cons.1 sorted
    rw [insertSorted]
    rcases List.mem_cons.1 h with rfl | h
    · rw [if_neg (String.lt_irrefl x), if_pos rfl]
    · have after : y < x := first x h
      rw [if_neg (String.lt_asymm after), if_neg (String.ne_of_lt after).symm, ih sorted h]

/-- Features that are there already add nothing. -/
theorem union_of_subset {s t : FeatureSet} (h : ∀ x ∈ t, x ∈ s) : s.union t = s := by
  have step : ∀ xs : List String, (∀ x ∈ xs, x ∈ s) → s.insertAll xs = s := by
    intro xs present
    induction xs with
    | nil => rfl
    | cons x xs ih =>
      have same : s.insert x = s :=
        FeatureSet.ext (insertSorted_of_mem s.sorted (present x List.mem_cons_self))
      rw [insertAll, List.foldl_cons, same]
      exact ih fun y hy => present y (List.mem_cons_of_mem x hy)
  exact step t.toList h

end FeatureSet

namespace Dependency

variable {d e : Dependency} {l ds es : List Dependency}

/-! ### One more declaration -/

/-- What a declaration declares: the crate and where it comes from. -/
def crate (d : Dependency) : String × CrateSource := (d.name, d.source)

theorem sameCrate_iff : d.sameCrate e = true ↔ d.crate = e.crate := by
  simp [sameCrate, crate]

/-- Some declaration in the list is of the same crate and has all the features. -/
def Covers (l : List Dependency) (d : Dependency) : Prop :=
  ∃ e ∈ l, e.crate = d.crate ∧ ∀ f ∈ d.features, f ∈ e.features

theorem covers_cons : Covers (e :: l) d ↔
    (e.crate = d.crate ∧ ∀ f ∈ d.features, f ∈ e.features) ∨ Covers l d := by
  simp only [Covers, List.mem_cons, exists_eq_or_imp]

/-- **Adding a declaration adds its crate at the end unless it is there.** -/
theorem map_crate_mergeOne (d : Dependency) (l : List Dependency) :
    (mergeOne d l).map crate = addNew (l.map crate) d.crate := by
  induction l with
  | nil => rfl
  | cons e rest ih =>
    rw [mergeOne]
    by_cases same : e.crate = d.crate
    · rw [if_pos (sameCrate_iff.2 same), addNew, if_pos (by simp [same])]
      rfl
    · have other : d.crate ≠ e.crate := Ne.symm same
      rw [if_neg (sameCrate_iff.not.2 same), List.map_cons, ih, addNew, addNew]
      split <;> simp_all

/-- A declaration that is added is covered. -/
theorem covers_mergeOne_self (d : Dependency) (l : List Dependency) : Covers (mergeOne d l) d := by
  induction l with
  | nil => exact ⟨d, List.mem_cons_self, rfl, fun _ hf => hf⟩
  | cons e rest ih =>
    rw [mergeOne]
    split
    · rename_i same
      have features : ∀ f ∈ d.features, f ∈ e.features.union d.features :=
        fun f hf => FeatureSet.mem_union.2 (.inr hf)
      exact covers_cons.2 (.inl ⟨sameCrate_iff.1 same, features⟩)
    · exact covers_cons.2 (.inr ih)

/-- What was covered stays covered. -/
theorem Covers.mergeOne (h : Covers l d) (e : Dependency) : Covers (mergeOne e l) d := by
  induction l with
  | nil =>
    obtain ⟨_, hmem, _⟩ := h
    cases hmem
  | cons first rest ih =>
    rw [Dependency.mergeOne]
    rcases covers_cons.1 h with ⟨same, features⟩ | h
    · split
      · exact covers_cons.2 (.inl ⟨same, fun f hf => FeatureSet.mem_union.2 (.inl (features f hf))⟩)
      · exact covers_cons.2 (.inl ⟨same, features⟩)
    · split
      · exact covers_cons.2 (.inr h)
      · exact covers_cons.2 (.inr (ih h))

/-- **A declaration that is covered changes nothing**, since the crate occurs only once. -/
theorem mergeOne_of_covers (distinct : (l.map crate).Nodup) (h : Covers l d) :
    mergeOne d l = l := by
  induction l with
  | nil =>
    obtain ⟨_, hmem, _⟩ := h
    cases hmem
  | cons e rest ih =>
    obtain ⟨new, distinct⟩ := List.nodup_cons.1 distinct
    rw [mergeOne]
    rcases covers_cons.1 h with ⟨same, features⟩ | h
    · rw [if_pos (sameCrate_iff.2 same), FeatureSet.union_of_subset features]
    · have other : ¬e.sameCrate d = true := by
        intro same
        obtain ⟨e', he', same', -⟩ := h
        exact new (List.mem_map.2 ⟨e', he', same'.trans (sameCrate_iff.1 same).symm⟩)
      rw [if_neg other, ih distinct h]

/-! ### All declarations -/

/-- Adds declarations one after another. -/
def mergeInto (l ds : List Dependency) : List Dependency :=
  ds.foldl (fun merged d => mergeOne d merged) l

theorem merge_append (ds es : List Dependency) : merge (ds ++ es) = mergeInto (merge ds) es := by
  rw [merge, List.foldl_append]
  rfl

theorem map_crate_mergeInto (l ds : List Dependency) :
    (mergeInto l ds).map crate = (ds.map crate).foldl addNew (l.map crate) := by
  induction ds generalizing l with
  | nil => rfl
  | cons d ds ih =>
    rw [List.map_cons, List.foldl_cons, ← map_crate_mergeOne]
    exact ih (mergeOne d l)

/-- **Merging keeps one declaration for each crate, in order of first occurrence.** -/
theorem map_crate_merge (ds : List Dependency) :
    (merge ds).map crate = (ds.map crate).foldl addNew [] := map_crate_mergeInto [] ds

theorem nodup_map_crate_merge (ds : List Dependency) : ((merge ds).map crate).Nodup := by
  rw [map_crate_merge]
  exact nodup_foldl_addNew List.nodup_nil _

theorem Covers.mergeInto (h : Covers l d) (es : List Dependency) : Covers (mergeInto l es) d := by
  induction es generalizing l with
  | nil => exact h
  | cons e es ih => exact ih (h.mergeOne e)

theorem covers_mergeInto (l : List Dependency) (h : d ∈ ds) : Covers (mergeInto l ds) d := by
  induction ds generalizing l with
  | nil => cases h
  | cons e ds ih =>
    rcases List.mem_cons.1 h with rfl | h
    · exact (covers_mergeOne_self d l).mergeInto ds
    · exact ih (mergeOne e l) h

/-- **Merged declarations cover all that were given.** -/
theorem covers_merge (h : d ∈ ds) : Covers (merge ds) d := covers_mergeInto [] h

/-! ### What is declared -/

/-- The declaration is of the crate, and enables the feature if one is asked for. -/
def Declares (d : Dependency) (k : String × CrateSource) (feature? : Option String) : Prop :=
  d.crate = k ∧ ∀ f ∈ feature?, f ∈ d.features

/-- Uniting the features of two declarations of a crate declares what either of them does. -/
theorem declares_union {k : String × CrateSource} {feature? : Option String}
    (same : e.crate = d.crate) :
    Declares { e with features := e.features.union d.features } k feature? ↔
      e.Declares k feature? ∨ d.Declares k feature? := by
  have crate_union : crate { e with features := e.features.union d.features } = e.crate := rfl
  rw [Declares, Declares, Declares, crate_union, ← same, ← and_or_left]
  cases feature? <;> simp

/-- Adding a declaration adds what it declares. -/
theorem exists_declares_mergeOne {k : String × CrateSource} {feature? : Option String} :
    (∃ e ∈ mergeOne d l, e.Declares k feature?) ↔
      d.Declares k feature? ∨ ∃ e ∈ l, e.Declares k feature? := by
  induction l with
  | nil => simp [mergeOne]
  | cons e rest ih =>
    rw [mergeOne]
    split
    · rename_i same
      rw [List.exists_mem_cons_iff, List.exists_mem_cons_iff, declares_union (sameCrate_iff.1 same),
        or_assoc, or_left_comm]
    · rw [List.exists_mem_cons_iff, List.exists_mem_cons_iff, ih, or_left_comm]

/-- **Merging declares what the declarations that were given do, and nothing else.** -/
theorem exists_declares_merge {k : String × CrateSource} {feature? : Option String} :
    (∃ e ∈ merge ds, e.Declares k feature?) ↔ ∃ d ∈ ds, d.Declares k feature? := by
  have step : ∀ l, (∃ e ∈ mergeInto l ds, e.Declares k feature?) ↔
      (∃ e ∈ l, e.Declares k feature?) ∨ ∃ d ∈ ds, d.Declares k feature? := by
    induction ds with
    | nil => simp [mergeInto]
    | cons d ds ih =>
      intro l
      rw [mergeInto, List.foldl_cons, ← mergeInto, ih, exists_declares_mergeOne,
        List.exists_mem_cons_iff, or_assoc, or_left_comm]
  rw [show merge ds = mergeInto [] ds from rfl, step]
  simp

/-- **A crate that is declared gets one entry**, which has the features of all its declarations. -/
theorem exists_entry_merge_iff {k : String × CrateSource} :
    (∃ d ∈ ds, d.crate = k) ↔ ∃ e, (merge ds).filter (·.crate = k) = [e] ∧
      ∀ f, f ∈ e.features ↔ ∃ d ∈ ds, d.crate = k ∧ f ∈ d.features := by
  have declared : (∃ e ∈ merge ds, e.crate = k) ↔ ∃ d ∈ ds, d.crate = k := by
    simpa [Declares] using @exists_declares_merge ds k none
  rw [← declared]
  constructor
  · rintro ⟨e, mem, rfl⟩
    have only := List.filter_key_eq_singleton (nodup_map_crate_merge ds) mem
    refine ⟨e, only, fun f => ?_⟩
    have features : (∃ e' ∈ merge ds, e'.crate = e.crate ∧ f ∈ e'.features) ↔
        ∃ d ∈ ds, d.crate = e.crate ∧ f ∈ d.features := by
      simpa [Declares] using @exists_declares_merge ds e.crate (some f)
    rw [← features]
    constructor
    · intro hf
      exact ⟨e, mem, rfl, hf⟩
    · rintro ⟨e', mem', same, hf⟩
      have one : e' ∈ (merge ds).filter (·.crate = e.crate) :=
        List.mem_filter.2 ⟨mem', decide_eq_true same⟩
      rw [only, List.mem_singleton] at one
      exact one ▸ hf
  · rintro ⟨e, only, -⟩
    have mem : e ∈ (merge ds).filter (·.crate = k) := only ▸ List.mem_cons_self
    obtain ⟨mem, same⟩ := List.mem_filter.1 mem
    exact ⟨e, mem, of_decide_eq_true same⟩

/-- **Declarations that repeat earlier ones can be left out.** -/
theorem merge_append_of_subset (h : ∀ e ∈ es, e ∈ ds) : merge (ds ++ es) = merge ds := by
  rw [merge_append]
  induction es with
  | nil => rfl
  | cons e es ih =>
    have covered : Covers (merge ds) e := covers_merge (h e List.mem_cons_self)
    rw [mergeInto, List.foldl_cons, mergeOne_of_covers (nodup_map_crate_merge ds) covered]
    exact ih fun e' he' => h e' (List.mem_cons_of_mem e he')

/-- They can be left out in the middle, too. -/
theorem merge_append_append_of_subset (h : ∀ e ∈ es, e ∈ ds) (fs : List Dependency) :
    merge (ds ++ es ++ fs) = merge (ds ++ fs) := by
  rw [merge_append, merge_append_of_subset h, ← merge_append]

end Dependency

end ServiceShapes
