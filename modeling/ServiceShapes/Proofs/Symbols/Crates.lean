import ServiceShapes.Proofs.Crates.Merging
import ServiceShapes.Proofs.Symbols.Preorder

/-!
# The crates of a tree of references

`Symbol.allDependencies` merges the dependencies of a symbol and of the symbols that the walk meets.
Two things are put together there that occur more than once: equal symbols by the walk, declarations of
one crate by merging.  The first loses nothing to the second.  A symbol that the walk passes over has
the dependencies of an equal one before it, and declarations that repeat earlier ones make no difference
(`Dependency.merge_append_append_of_subset`).  So the whole tree of references could as well be merged as
it is (`Symbol.allDependencies_eq_merge_tree`).
-/

namespace ServiceShapes

namespace Dependency

variable {α : Type} [DecidableEq α] {needs : α → List Dependency} {ds : List Dependency} {a : α}

/-- What an item needs that was there before makes no difference. -/
theorem merge_flatMap_filter (covered : ∀ d ∈ needs a, d ∈ ds) (l : List α) :
    merge (ds ++ (l.filter fun b => !b == a).flatMap needs) = merge (ds ++ l.flatMap needs) := by
  induction l generalizing ds with
  | nil => rfl
  | cons b l ih =>
    rw [List.flatMap_cons, ← List.append_assoc]
    by_cases same : b = a
    · subst same
      rw [List.filter_cons_of_neg (by simp), ih covered, merge_append_append_of_subset covered]
    · have covered : ∀ d ∈ needs a, d ∈ ds ++ needs b :=
        fun d hd => List.mem_append_left _ (covered d hd)
      rw [List.filter_cons_of_pos (by simpa using same), List.flatMap_cons, ← List.append_assoc,
        ih covered]

/-- **Items that repeat can be left out before their dependencies are merged.** -/
theorem merge_flatMap_eraseDups (ds : List Dependency) (l : List α) :
    merge (ds ++ l.eraseDups.flatMap needs) = merge (ds ++ l.flatMap needs) := by
  match l with
  | [] => rfl
  | a :: l =>
    have covered : ∀ d ∈ needs a, d ∈ ds ++ needs a := fun d hd => List.mem_append_right ds hd
    rw [List.eraseDups_cons, List.flatMap_cons, List.flatMap_cons, ← List.append_assoc,
      merge_flatMap_eraseDups, merge_flatMap_filter covered, List.append_assoc]
termination_by l.length
decreasing_by exact Nat.lt_succ_of_le (List.length_filter_le _ _)

end Dependency

namespace Symbol

open Dependency (crate)

/-- **Leaving out symbols that repeat loses no crate and no feature.**  The dependencies are those of the
symbol and of its whole tree of references, merged, in the order in which crates occur first.  Each crate
that is declared anywhere in the tree has one entry, and the features are those of all its
declarations. -/
theorem allDependencies_eq_merge_tree (s : Symbol) :
    let declared := s.dependencies ++ s.referenceTree.flatMap (·.dependencies)
    s.allDependencies = Dependency.merge declared ∧
    ∀ k, (∃ d ∈ declared, d.crate = k) ↔ ∃ e, s.allDependencies.filter (·.crate = k) = [e] ∧
      ∀ f, f ∈ e.features ↔ ∃ d ∈ declared, d.crate = k ∧ f ∈ d.features := by
  intro declared
  have whole : s.allDependencies = Dependency.merge declared := by
    rw [allDependencies, transitiveReferences_eq, Dependency.merge_flatMap_eraseDups]
  refine ⟨whole, fun k => ?_⟩
  rw [whole]
  exact Dependency.exists_entry_merge_iff

end Symbol

end ServiceShapes
