/-!
# Feature sets

A set of feature names, kept as a strictly increasing list, so that equal sets are equal lists.
`mem_insert` and `mem_union` say what the operations do to membership; `ext_mem` says that a set
is determined by its members.
-/

namespace ServiceShapes

/-- A set of feature names in increasing order. -/
structure FeatureSet where
  toList : List String
  sorted : toList.Pairwise (· < ·)

namespace FeatureSet

@[ext] theorem ext {s t : FeatureSet} (h : s.toList = t.toList) : s = t := by
  cases s; cases t; cases h; rfl

instance : DecidableEq FeatureSet := fun s t =>
  if h : s.toList = t.toList then .isTrue (ext h) else .isFalse fun e => h (e ▸ rfl)

instance : Repr FeatureSet := ⟨fun s n => reprPrec s.toList n⟩

/-- No features. -/
def empty : FeatureSet := ⟨[], .nil⟩

instance : Inhabited FeatureSet := ⟨empty⟩

instance : Membership String FeatureSet := ⟨fun s x => x ∈ s.toList⟩

theorem mem_def {s : FeatureSet} {x : String} : x ∈ s ↔ x ∈ s.toList := Iff.rfl

/-- Whether there are no features. -/
def isEmpty (s : FeatureSet) : Bool := s.toList.isEmpty

/-- Puts a name into an increasing list unless it is there. -/
def insertSorted (x : String) : List String → List String
  | [] => [x]
  | y :: rest => if x < y then x :: y :: rest else if x = y then y :: rest
    else y :: insertSorted x rest

theorem mem_insertSorted {x y : String} {l : List String} :
    y ∈ insertSorted x l ↔ y = x ∨ y ∈ l := by
  induction l with
  | nil => simp [insertSorted]
  | cons z rest ih =>
    by_cases h : x < z
    · simp [insertSorted, h]
    by_cases e : x = z
    · subst e
      rw [insertSorted, if_neg h, if_pos rfl, List.mem_cons, or_self_left]
    · simp only [insertSorted, h, e, if_false, List.mem_cons, ih]
      constructor <;> rintro (h | h | h) <;> simp [h]

theorem pairwise_insertSorted {x : String} {l : List String} (sorted : l.Pairwise (· < ·)) :
    (insertSorted x l).Pairwise (· < ·) := by
  induction l with
  | nil => simp [insertSorted]
  | cons z rest ih =>
    obtain ⟨hz, hrest⟩ := List.pairwise_cons.1 sorted
    by_cases h : x < z
    · simp only [insertSorted, h, if_true]
      refine List.pairwise_cons.2 ⟨fun y hy => ?_, sorted⟩
      rcases List.mem_cons.1 hy with rfl | hy
      · exact h
      · exact String.lt_trans h (hz y hy)
    by_cases e : x = z
    · simpa [insertSorted, h, e] using sorted
    · simp only [insertSorted, h, e, if_false]
      refine List.pairwise_cons.2 ⟨fun y hy => ?_, ih hrest⟩
      rcases mem_insertSorted.1 hy with rfl | hy
      · have le := String.not_lt.1 h
        exact (Classical.em (z < y)).resolve_right fun g =>
          e (String.le_antisymm (String.not_lt.1 g) le)
      · exact hz y hy

/-- The set with one more feature. -/
def insert (s : FeatureSet) (x : String) : FeatureSet :=
  ⟨insertSorted x s.toList, pairwise_insertSorted s.sorted⟩

/-- The set with all features of a list added. -/
def insertAll (s : FeatureSet) (xs : List String) : FeatureSet := xs.foldl insert s

/-- The set of the features in a list. -/
def ofList (xs : List String) : FeatureSet := empty.insertAll xs

/-- The features of both sets. -/
def union (s t : FeatureSet) : FeatureSet := s.insertAll t.toList

@[simp] theorem mem_insert {s : FeatureSet} {x y : String} : y ∈ s.insert x ↔ y = x ∨ y ∈ s :=
  mem_insertSorted

@[simp] theorem mem_insertAll {s : FeatureSet} {xs : List String} {y : String} :
    y ∈ s.insertAll xs ↔ y ∈ s ∨ y ∈ xs := by
  induction xs generalizing s with
  | nil => simp [insertAll]
  | cons x xs ih =>
    rw [insertAll, List.foldl_cons, ← insertAll, ih, mem_insert, List.mem_cons, or_assoc,
      or_left_comm]

@[simp] theorem mem_union {s t : FeatureSet} {y : String} : y ∈ s.union t ↔ y ∈ s ∨ y ∈ t :=
  mem_insertAll

/-- **A set is determined by its members.** -/
theorem ext_mem {s t : FeatureSet} (h : ∀ x, x ∈ s ↔ x ∈ t) : s = t := by
  have distinct : ∀ u : FeatureSet, u.toList.Nodup :=
    fun u => u.sorted.imp fun before => String.ne_of_lt before
  have same : s.toList.Perm t.toList := (List.perm_ext_iff_of_nodup (distinct s) (distinct t)).2 h
  refine ext (same.eq_of_pairwise (fun x y _ _ before after => ?_) s.sorted t.sorted)
  exact absurd after (String.lt_asymm before)

end FeatureSet

end ServiceShapes
