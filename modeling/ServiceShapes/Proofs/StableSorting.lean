import Mathlib.Data.List.Perm.Basic

/-!
# Stable sorting

A stable sort puts items into ascending order of their numbers and leaves those with equal numbers
in the order in which they came (`IsStableSort`).  There is only one: an ascending list is
determined by what it holds for each number (`eq_of_ascending`).  So lists that agree on the items of
each number have the same stable sort (`IsStableSort.eq_of_agree`), and sorting now and then, while
items are still coming in, gives what sorting once at the end gives (`IsStableSort.append`).
-/

namespace ServiceShapes

variable {α : Type} {key : α → Int} {l l' s s' : List α}

/-- Both lists hold the same items of each number, in the same order. -/
def AgreeByKey (key : α → Int) (l l' : List α) : Prop :=
  ∀ n, l.filter (key · = n) = l'.filter (key · = n)

/-- The second list is the first one in ascending order; items of equal number keep their order. -/
structure IsStableSort (key : α → Int) (l s : List α) : Prop where
  perm : s.Perm l
  ascending : s.Pairwise fun a b => key a ≤ key b
  stable : AgreeByKey key s l

/-! ### Lists that agree -/

theorem AgreeByKey.symm (h : AgreeByKey key l l') : AgreeByKey key l' l := fun n => (h n).symm

theorem AgreeByKey.mem {a : α} (h : AgreeByKey key l l') (mem : a ∈ l) : a ∈ l' := by
  have found : a ∈ l.filter (key · = key a) := List.mem_filter.2 ⟨mem, decide_eq_true rfl⟩
  rw [h] at found
  exact List.mem_of_mem_filter found

/-- Lists that agree still do without a first item that they share. -/
theorem AgreeByKey.of_cons {a : α} (h : AgreeByKey key (a :: l) (a :: l')) :
    AgreeByKey key l l' := by
  intro n
  have whole := h n
  by_cases own : key a = n
  · rw [List.filter_cons_of_pos (by simpa using own),
      List.filter_cons_of_pos (by simpa using own)] at whole
    exact (List.cons.inj whole).2
  · rwa [List.filter_cons_of_neg (by simpa using own),
      List.filter_cons_of_neg (by simpa using own)] at whole

/-- **An ascending list is determined by what it holds for each number.** -/
theorem eq_of_ascending (first : s.Pairwise fun a b => key a ≤ key b)
    (second : s'.Pairwise fun a b => key a ≤ key b) (agree : AgreeByKey key s s') : s = s' := by
  induction s generalizing s' with
  | nil =>
    refine (List.eq_nil_iff_forall_not_mem.2 fun b mem => ?_).symm
    exact List.not_mem_nil (agree.symm.mem mem)
  | cons a s ih =>
    cases s' with
    | nil => exact absurd (agree.mem List.mem_cons_self) List.not_mem_nil
    | cons b s' =>
      obtain ⟨least, behind⟩ := List.pairwise_cons.1 first
      obtain ⟨least', behind'⟩ := List.pairwise_cons.1 second
      -- both heads have the least number, so both stand first among the items of this number
      have le : key a ≤ key b := by
        rcases List.mem_cons.1 (agree.symm.mem List.mem_cons_self) with rfl | mem
        · exact Int.le_refl _
        · exact least b mem
      have ge : key b ≤ key a := by
        rcases List.mem_cons.1 (agree.mem List.mem_cons_self) with rfl | mem
        · exact Int.le_refl _
        · exact least' a mem
      have equal : key b = key a := Int.le_antisymm ge le
      have heads := agree (key a)
      rw [List.filter_cons_of_pos (by simp), List.filter_cons_of_pos (by simpa using equal)] at heads
      obtain ⟨rfl, -⟩ := List.cons.inj heads
      have rest : s = s' := ih behind behind' agree.of_cons
      rw [rest]

/-! ### Stable sorts -/

namespace IsStableSort

/-- **Lists that agree on the items of each number have the same stable sort.** -/
theorem eq_of_agree (h : IsStableSort key l s) (h' : IsStableSort key l' s')
    (agree : AgreeByKey key l l') : s = s' := by
  refine eq_of_ascending h.ascending h'.ascending fun n => ?_
  rw [h.stable n, agree n, h'.stable n]

/-- Leaving out items before sorting or after it makes no difference. -/
theorem filter (h : IsStableSort key l s) (p : α → Bool) :
    IsStableSort key (l.filter p) (s.filter p) where
  perm := h.perm.filter p
  ascending := h.ascending.filter p
  stable n := by rw [List.filter_comm, h.stable n, List.filter_comm]

/-- **Sorting before more items come in changes nothing.** -/
theorem append {more : List α} (h : IsStableSort key l s)
    (h' : IsStableSort key (s ++ more) s') : IsStableSort key (l ++ more) s' where
  perm := h'.perm.trans (h.perm.append_right more)
  ascending := h'.ascending
  stable n := by rw [h'.stable n, List.filter_append, List.filter_append, h.stable n]

end IsStableSort

/-- **Merge sort is stable.** -/
theorem isStableSort_mergeSort (key : α → Int) (l : List α) :
    IsStableSort key l (l.mergeSort fun a b => key a ≤ key b) := by
  have trans : ∀ a b c : α, decide (key a ≤ key b) = true → decide (key b ≤ key c) = true →
      decide (key a ≤ key c) = true := by
    simp only [decide_eq_true_eq]
    exact fun a b c => Int.le_trans
  have total : ∀ a b : α, (decide (key a ≤ key b) || decide (key b ≤ key a)) = true := by
    intro a b
    simpa using Int.le_total (key a) (key b)
  have perm := List.mergeSort_perm l fun a b => key a ≤ key b
  refine ⟨perm, ?_, fun n => ?_⟩
  · simpa using List.pairwise_mergeSort trans total l
  · -- the items of one number are ascending, so sorting keeps them as a sublist
    have level : (l.filter (key · = n)).Pairwise fun a b => decide (key a ≤ key b) = true := by
      refine List.pairwise_of_forall_mem_list fun a ha b hb => ?_
      have ha := (List.mem_filter.1 ha).2
      have hb := (List.mem_filter.1 hb).2
      simp only [decide_eq_true_eq] at ha hb ⊢
      omega
    have kept := (List.sublist_mergeSort trans total level List.filter_sublist).filter (key · = n)
    rw [List.filter_filter] at kept
    simp only [Bool.and_self] at kept
    exact (kept.eq_of_length (perm.filter _).length_eq.symm).symm

end ServiceShapes
