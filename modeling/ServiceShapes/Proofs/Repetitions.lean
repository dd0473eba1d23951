import Mathlib.Data.List.Nodup

/-!
# Leaving out repetitions

`List.eraseDups` keeps the first occurrence of each item of a list.  What it keeps has no repetition
(`List.nodup_eraseDups`), and what repeats earlier items makes no difference to it
(`List.eraseDups_append_of_subset`).
-/

namespace List

variable {α : Type} [DecidableEq α] {l as bs : List α}

theorem nodup_eraseDups (l : List α) : l.eraseDups.Nodup := by
  match l with
  | [] => exact nodup_nil
  | a :: l =>
    rw [eraseDups_cons, nodup_cons]
    refine ⟨?_, nodup_eraseDups _⟩
    rw [mem_eraseDups]
    simp
termination_by l.length
decreasing_by exact Nat.lt_succ_of_le (length_filter_le _ _)

theorem eraseDups_of_nodup (h : l.Nodup) : l.eraseDups = l := by
  induction l with
  | nil => rfl
  | cons a l ih =>
    obtain ⟨new, distinct⟩ := nodup_cons.1 h
    have others : l.filter (fun b => !b == a) = l := by
      rw [filter_eq_self]
      intro b hb
      have differs : b ≠ a := fun same => new (same ▸ hb)
      simpa using differs
    rw [eraseDups_cons, others, ih distinct]

/-- **Items that repeat earlier ones can be left out.** -/
theorem eraseDups_append_of_subset (h : ∀ b ∈ bs, b ∈ as) (cs : List α) :
    (as ++ bs ++ cs).eraseDups = (as ++ cs).eraseDups := by
  have nothing_new : bs.removeAll as = [] := by
    rw [removeAll, filter_eq_nil_iff]
    intro b hb
    simpa using h b hb
  have behind : (bs ++ cs).removeAll as = cs.removeAll as := by
    rw [removeAll, filter_append, ← removeAll, nothing_new, nil_append, removeAll]
  rw [append_assoc, eraseDups_append, behind, ← eraseDups_append]

end List
